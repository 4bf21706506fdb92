import Mathlib
import ColumnFormula.Proofs.TextRuns
import ColumnFormula.Reference

namespace ColumnFormula

namespace Text

theorem toNat_ofNat (n : Nat) : toNat (ofNat n) = n :=
  Nat.ofDigitChars_toDigits (by decide) (by decide)

theorem ofNat_ne_nil (n : Nat) : ofNat n ≠ [] := Nat.toDigits_ne_nil

theorem isDigit_of_mem_ofNat {n : Nat} {c : Char} (h : c ∈ ofNat n) : c.isDigit :=
  Nat.isDigit_of_mem_toDigits (by decide) (by decide) h

theorem ofNat_injective : Function.Injective ofNat := by
  intro m n h
  rw [← toNat_ofNat m, h, toNat_ofNat]

end Text

theorem Bound.rowOfDigits?_ofNat {row : Nat} (hpos : 1 ≤ row) (hle : row ≤ greatestRow) :
    rowOfDigits? (Text.ofNat row) = some (some row) := by
  simp only [rowOfDigits?, if_neg (Text.ofNat_ne_nil row), Text.toNat_ofNat]
  exact if_pos ⟨hpos, hle⟩

namespace Column

theorem letters_of_lt {index : Nat} (h : index < 26) : letters index = [letter index] := by
  rw [letters, if_pos h]

theorem letters_of_le {index : Nat} (h : 26 ≤ index) :
    letters index = letters (index / 26 - 1) ++ [letter (index % 26)] := by
  rw [letters, if_neg (Nat.not_lt.mpr h)]

theorem letter_toNat {index : Nat} (h : index < 26) : (letter index).toNat = 65 + index := by
  have hall : ∀ i < 26, (letter i).toNat = 65 + i := by decide
  exact hall index h

theorem letter_isUpper {index : Nat} (h : index < 26) : (letter index).isUpper := by
  rw [Text.isUpper_iff, letter_toNat h]
  omega

theorem eq_letter {c : Char} (h : c.isUpper) : c = letter (c.toNat - 65) := by
  rw [Text.isUpper_iff] at h
  apply Char.toNat_inj.mp
  rw [letter_toNat (by omega)]
  omega

theorem letters_isUpper (index : Nat) : ∀ c ∈ letters index, c.isUpper := by
  induction index using Nat.strong_induction_on with
  | _ index ih =>
      intro c hc
      by_cases hlt : index < 26
      · rw [letters_of_lt hlt, List.mem_singleton] at hc
        exact hc ▸ letter_isUpper hlt
      · rw [letters_of_le (Nat.not_lt.mp hlt), List.mem_append, List.mem_singleton] at hc
        rcases hc with hc | rfl
        · exact ih (index / 26 - 1) (by omega) c hc
        · exact letter_isUpper (Nat.mod_lt index (by decide))

theorem letters_ne_nil (index : Nat) : letters index ≠ [] := by
  by_cases hlt : index < 26
  · simp [letters_of_lt hlt]
  · simp [letters_of_le (Nat.not_lt.mp hlt)]

theorem rank_append (s : Text) (c : Char) : rank (s ++ [c]) = 26 * rank s + (c.toNat - 64) := by
  simp [rank]

theorem rank_letters (index : Nat) : rank (letters index) = index + 1 := by
  induction index using Nat.strong_induction_on with
  | _ index ih =>
      by_cases hlt : index < 26
      · rw [letters_of_lt hlt, ← List.nil_append [letter index], rank_append, letter_toNat hlt]
        change 26 * 0 + _ = _
        omega
      · have hmod : index % 26 < 26 := Nat.mod_lt index (by decide)
        rw [letters_of_le (Nat.not_lt.mp hlt), rank_append, ih (index / 26 - 1) (by omega),
          letter_toNat hmod]
        omega

theorem rank_pos {s : Text} (hne : s ≠ []) (hupper : ∀ c ∈ s, c.isUpper) : 0 < rank s := by
  obtain ⟨front, c, rfl⟩ := List.eq_nil_or_concat' s |>.resolve_left hne
  have hc : 65 ≤ c.toNat := (Text.isUpper_iff.mp (hupper c (by simp))).1
  rw [rank_append]
  omega

theorem letters_rank {s : Text} (hne : s ≠ []) (hupper : ∀ c ∈ s, c.isUpper) :
    letters (rank s - 1) = s := by
  induction s using List.reverseRecOn with
  | nil => exact absurd rfl hne
  | append_singleton front c ih =>
      have hc : 65 ≤ c.toNat ∧ c.toNat ≤ 90 := Text.isUpper_iff.mp (hupper c (by simp))
      have hletter : letter (c.toNat - 65) = c := (eq_letter (hupper c (by simp))).symm
      rw [rank_append]
      by_cases hfront : front = []
      · subst hfront
        have hrank : 26 * rank [] + (c.toNat - 64) - 1 = c.toNat - 65 := by
          change 26 * 0 + (c.toNat - 64) - 1 = c.toNat - 65
          omega
        rw [hrank, letters_of_lt (by omega), hletter, List.nil_append]
      · have hfrontUpper : ∀ d ∈ front, d.isUpper := fun d hd => hupper d (by simp [hd])
        have hpos : 0 < rank front := rank_pos hfront hfrontUpper
        have hdiv : (26 * rank front + (c.toNat - 64) - 1) / 26 - 1 = rank front - 1 := by omega
        have hmod : (26 * rank front + (c.toNat - 64) - 1) % 26 = c.toNat - 65 := by omega
        rw [letters_of_le (by omega), hdiv, hmod, ih hfront hfrontUpper, hletter]

theorem index?_eq_some_iff {s : Text} {index : Nat} :
    index? s = some index ↔ s = letters index ∧ index + 1 < indexBound := by
  constructor
  · intro h
    rw [index?] at h
    split at h
    · rename_i hs
      obtain ⟨hne, hupper, hbound⟩ := hs
      obtain rfl := Option.some.inj h
      have hupper' : ∀ c ∈ s, c.isUpper := List.all_eq_true.mp hupper
      have hpos := rank_pos hne hupper'
      exact ⟨(letters_rank hne hupper').symm, by omega⟩
    · contradiction
  · rintro ⟨rfl, hbound⟩
    have hrank := rank_letters index
    rw [index?, if_pos, hrank, Nat.add_sub_cancel]
    exact ⟨letters_ne_nil index, List.all_eq_true.mpr (letters_isUpper index), by omega⟩

theorem after_of_lt {first places : Nat} (h : first + places < indexBound) :
    after first places = first + places :=
  Nat.mod_eq_of_lt h

end Column

end ColumnFormula
