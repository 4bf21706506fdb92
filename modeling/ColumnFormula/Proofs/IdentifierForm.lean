import Mathlib
import ColumnFormula.Identifier.Picker
import ColumnFormula.Proofs.TextRuns

namespace ColumnFormula

namespace Text

theorem upperForm_of_lt {c : Char} (h : c.toNat < 0x80) : upperForm c = [c.toUpper] := if_pos h

theorem upperCase_append (s t : Text) : upperCase (s ++ t) = upperCase s ++ upperCase t :=
  List.flatMap_append

theorem upperCase_of_ascii {s : Text} (h : ∀ c ∈ s, c.toNat < 0x80) :
    upperCase s = asciiUpper s := by
  induction s with
  | nil => rfl
  | cons c s ih =>
      have hc := upperForm_of_lt (h c (by simp))
      have hs := ih fun d hd => h d (by simp [hd])
      change upperForm c ++ upperCase s = c.toUpper :: asciiUpper s
      rw [hc, hs]
      rfl

theorem sameIgnoringCase_comm (s t : Text) : sameIgnoringCase s t = sameIgnoringCase t s :=
  Bool.beq_comm

theorem toUpper_of_isDigit {c : Char} (h : c.isDigit) : c.toUpper = c := by
  apply Char.toUpper_eq_of_not_isLower
  rw [isLower_iff]
  rw [isDigit_iff] at h
  omega

theorem upperCase_digits {s : Text} (h : ∀ c ∈ s, c.isDigit) : upperCase s = s := by
  rw [upperCase_of_ascii, asciiUpper]
  · exact (List.map_congr_left fun c hc => toUpper_of_isDigit (h c hc)).trans (List.map_id s)
  · intro c hc
    have := isDigit_iff.mp (h c hc)
    omega

end Text

namespace Identifier

open Text

theorem toNat_lt_of_isWordChar {c : Char} (h : isWordChar c) : c.toNat < 0x80 := by
  rcases Bool.or_eq_true .. ▸ h with h | h
  · rcases Bool.or_eq_true .. ▸ h with h | h
    · have := isAlpha_iff.mp h
      omega
    · have := isDigit_iff.mp h
      omega
  · obtain rfl := beq_iff_eq.mp h
    decide

theorem isWordChar_of_isDigit {c : Char} (h : c.isDigit) : isWordChar c := by
  simp [isWordChar, Char.isAlphanum, h]

theorem isValid_cons {c : Char} {s : Text} :
    isValid (c :: s) ↔ isWordChar c ∧ c.isDigit = false ∧ ∀ d ∈ s, isWordChar d := by
  simp [isValid, and_assoc]

theorem isWordChar_of_isValid {s : Text} (h : isValid s) : ∀ c ∈ s, isWordChar c := by
  cases s with
  | nil => simp
  | cons c s =>
      obtain ⟨hc, -, hs⟩ := isValid_cons.mp h
      intro d hd
      rcases List.mem_cons.mp hd with rfl | hd
      · exact hc
      · exact hs d hd

theorem not_mem_of_isValid {c : Char} {s : Text} (h : isValid s) (hc : isWordChar c = false) :
    c ∉ s := by
  intro hmem
  have := isWordChar_of_isValid h c hmem
  simp [hc] at this

theorem upperCase_of_isValid {s : Text} (h : isValid s) : upperCase s = asciiUpper s :=
  upperCase_of_ascii fun c hc => toNat_lt_of_isWordChar (isWordChar_of_isValid h c hc)

theorem sameIgnoringCase_eq_false {s t : Text} (hs : isValid s) (ht : isValid t)
    (h : upperCase s ≠ upperCase t) : sameIgnoringCase s t = false := by
  rw [upperCase_of_isValid hs, upperCase_of_isValid ht] at h
  simpa [sameIgnoringCase] using h

theorem isValid_append {s t : Text} (hs : isValid s) (ht : ∀ c ∈ t, isWordChar c) :
    isValid (s ++ t) := by
  cases s with
  | nil => contradiction
  | cons c s =>
      obtain ⟨hc, hdigit, hrest⟩ := isValid_cons.mp hs
      refine isValid_cons.mpr ⟨hc, hdigit, ?_⟩
      intro d hd
      rcases List.mem_append.mp hd with hd | hd
      · exact hrest d hd
      · exact ht d hd

theorem isWordChar_of_mem_mask {raw : Text} {c : Char} (h : c ∈ mask raw) : isWordChar c := by
  obtain ⟨d, -, rfl⟩ := List.mem_map.mp h
  split
  · assumption
  · rfl

theorem collapse_subset (s : Text) : collapse s ⊆ s := by
  fun_induction collapse s with
  | case1 => exact List.Subset.refl []
  | case2 c rest _ ih => exact List.Subset.trans ih (List.subset_cons_self c rest)
  | case3 c rest _ ih => exact List.cons_subset_cons c ih

theorem trimBoth_subset (p : Char → Bool) (s : Text) : trimBoth p s ⊆ s := by
  intro c hc
  rw [trimBoth, List.mem_reverse] at hc
  exact (List.dropWhile_subset p) (List.mem_reverse.mp ((List.dropWhile_subset p) hc))

theorem guardDigit_isValid {s : Text} (h : ∀ c ∈ s, isWordChar c) (hne : s ≠ []) :
    isValid (guardDigit s) := by
  cases s with
  | nil => exact absurd rfl hne
  | cons c s =>
      rw [guardDigit]
      split
      · exact isValid_cons.mpr ⟨rfl, rfl, h⟩
      · rename_i hc
        exact isValid_cons.mpr ⟨h c (by simp), by simpa using hc, fun d hd => h d (by simp [hd])⟩

theorem guardDigit_eq_nil_or_isValid {s : Text} (h : ∀ c ∈ s, isWordChar c) :
    guardDigit s = [] ∨ isValid (guardDigit s) := by
  by_cases hne : s = []
  · subst hne
    exact .inl rfl
  · exact .inr (guardDigit_isValid h hne)

theorem ofWords_eq_nil_or_isValid (raw : Text) : ofWords raw = [] ∨ isValid (ofWords raw) := by
  apply guardDigit_eq_nil_or_isValid
  intro c hc
  exact isWordChar_of_mem_mask (collapse_subset _ (trimBoth_subset _ _ hc))

theorem ofFallback_isValid (fallback : Text) : isValid (ofFallback fallback) := by
  have hall : ∀ c ∈ fallback.filter isWordChar, isWordChar c :=
    fun c hc => (List.mem_filter.mp hc).2
  rw [ofFallback]
  split
  · decide
  · rename_i hne
    exact (guardDigit_eq_nil_or_isValid hall).resolve_left hne

theorem sanitize_isValid (fallback raw : Text) : isValid (sanitize fallback raw) := by
  rw [sanitize]
  split
  · exact ofFallback_isValid fallback
  · rename_i hne
    exact (ofWords_eq_nil_or_isValid raw).resolve_left hne

theorem isWordChar_toUpper {c : Char} (h : isWordChar c) (hdigit : c.isDigit = false) :
    isWordChar c.toUpper ∧ c.toUpper.isDigit = false := by
  have hall : ∀ n ∈ List.range' 0 0x80, isWordChar (Char.ofNat n) → (Char.ofNat n).isDigit = false →
      isWordChar (Char.ofNat n).toUpper ∧ (Char.ofNat n).toUpper.isDigit = false := by
    decide +kernel
  have hlt := toNat_lt_of_isWordChar h
  exact of_code (P := fun c => isWordChar c → c.isDigit = false →
    isWordChar c.toUpper ∧ c.toUpper.isDigit = false) hall ⟨Nat.zero_le _, by omega⟩ h hdigit

theorem capitalize_isValid {s : Text} (h : isValid s) : isValid (capitalize s) := by
  cases s with
  | nil => contradiction
  | cons c s =>
      obtain ⟨hc, hdigit, hs⟩ := isValid_cons.mp h
      obtain ⟨hupper, hdigit'⟩ := isWordChar_toUpper hc hdigit
      exact isValid_cons.mpr ⟨hupper, hdigit', hs⟩

theorem sanitizeTable_isValid (raw : Text) : isValid (sanitizeTable raw) :=
  capitalize_isValid (sanitize_isValid _ raw)

theorem isReserved_append_digit {front : Text} {d : Char} (h : d.isDigit) :
    isReserved (front ++ [d]) = false := by
  have hlast : ∀ word ∈ keywords ++ builtinColumns.map asciiUpper,
      word.getLast?.all (!·.isDigit) := by decide
  rw [Bool.eq_false_iff]
  intro hreserved
  rcases Bool.or_eq_true .. ▸ hreserved with hmem | hany
  · have := hlast _ (List.mem_append_left _ (List.contains_iff_mem.mp hmem))
    simp [h] at this
  · obtain ⟨word, hword, hsame⟩ := List.any_eq_true.mp hany
    have hupper : asciiUpper (front ++ [d]) = asciiUpper word := by
      simpa [sameIgnoringCase] using hsame
    have := hlast _ (List.mem_append_right _ (List.mem_map_of_mem hword))
    rw [← hupper] at this
    simp [asciiUpper, toUpper_of_isDigit h, h] at this

end Identifier

end ColumnFormula
