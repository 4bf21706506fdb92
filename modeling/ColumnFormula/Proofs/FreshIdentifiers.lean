import Mathlib
import ColumnFormula.Proofs.IdentifierForm
import ColumnFormula.Proofs.Numerals

namespace ColumnFormula.Identifier

open Text

/-- What a picker is asked for. -/
inductive Request
  | column (raw : Text)
  | table (raw : Text)

/-- An identifier that may be handed out when further words are reserved. -/
structure Acceptable (words : List Text) (identifier : Text) : Prop where
  valid : isValid identifier
  notReserved : isReserved identifier = false
  notAmongWords : ∀ word ∈ words, upperCase identifier ≠ upperCase word

namespace Picker

def answer (p : Picker) : Request → Picked × Picker
  | .column raw => p.pick raw
  | .table raw => p.pickTable raw

def answerAll (p : Picker) : List Request → List Picked
  | [] => []
  | request :: rest => (p.answer request).1 :: (p.answer request).2.answerAll rest

theorem pickAll_eq_answerAll (p : Picker) (raws : List Text) :
    p.pickAll raws = p.answerAll (raws.map .column) := by
  induction raws generalizing p with
  | nil => rfl
  | cons raw rest ih => exact congrArg _ (ih _)

theorem pickAllTables_eq_answerAll (p : Picker) (raws : List Text) :
    p.pickAllTables raws = p.answerAll (raws.map .table) := by
  induction raws generalizing p with
  | nil => rfl
  | cons raw rest ih => exact congrArg _ (ih _)

theorem answerAll_length (p : Picker) (requests : List Request) :
    (p.answerAll requests).length = requests.length := by
  induction requests generalizing p with
  | nil => rfl
  | cons request rest ih => exact congrArg (· + 1) (ih _)

theorem pickAll_length (p : Picker) (raws : List Text) : (p.pickAll raws).length = raws.length := by
  rw [pickAll_eq_answerAll, answerAll_length, List.length_map]

theorem pickAllTables_length (p : Picker) (raws : List Text) :
    (p.pickAllTables raws).length = raws.length := by
  rw [pickAllTables_eq_answerAll, answerAll_length, List.length_map]

theorem isFree_iff {p : Picker} {s : Text} :
    p.isFree s ↔ isReserved s = false ∧ upperCase s ∉ p.reserved ++ p.taken := by
  simp [isFree, isReservedHere, and_assoc]

theorem isFree_take_iff {p : Picker} {s t : Text} :
    (p.take s).isFree t ↔ p.isFree t ∧ upperCase t ≠ upperCase s := by
  simp only [isFree_iff, take, List.mem_append, List.mem_cons, not_or]
  tauto

theorem ofNat_append_digit (n : Nat) : ∃ front d, ofNat n = front ++ [d] ∧ d.isDigit := by
  obtain ⟨front, d, heq⟩ := (List.eq_nil_or_concat' (ofNat n)).resolve_left (ofNat_ne_nil n)
  exact ⟨front, d, heq, isDigit_of_mem_ofNat (n := n) (by simp [heq])⟩

theorem isReserved_append_ofNat (s : Text) (n : Nat) : isReserved (s ++ ofNat n) = false := by
  obtain ⟨front, d, heq, hd⟩ := ofNat_append_digit n
  rw [heq, ← List.append_assoc]
  exact isReserved_append_digit hd

theorem upperCase_append_ofNat (s : Text) (n : Nat) :
    upperCase (s ++ ofNat n) = upperCase s ++ ofNat n := by
  rw [upperCase_append, upperCase_digits fun c hc => isDigit_of_mem_ofNat hc]

theorem upperCase_append_ofNat_injective (s : Text) :
    Function.Injective fun n => upperCase (s ++ ofNat n) := by
  intro m n h
  simp only [upperCase_append_ofNat] at h
  exact ofNat_injective (List.append_cancel_left h)

/-- The names that are reserved or taken, in upper case. -/
def names (p : Picker) : Finset Text := (p.reserved ++ p.taken).toFinset

theorem isFree_iff_names {p : Picker} {s : Text} :
    p.isFree s ↔ isReserved s = false ∧ upperCase s ∉ p.names := by
  rw [names, List.mem_toFinset, isFree_iff]

/-- Of one more number than there are names, one makes the stem free: each name that is reserved
or taken rules out one of them only. -/
theorem exists_isFree_le (p : Picker) (s : Text) :
    ∃ k, 2 ≤ k ∧ k ≤ p.names.card + 2 ∧ p.isFree (s ++ ofNat k) := by
  let numbers := Finset.Icc 2 (p.names.card + 2)
  have hcard : p.names.card < (numbers.image fun k => upperCase (s ++ ofNat k)).card := by
    rw [Finset.card_image_of_injective _ (upperCase_append_ofNat_injective s), Nat.card_Icc]
    omega
  obtain ⟨name, hname, hnot⟩ := Finset.exists_mem_notMem_of_card_lt_card hcard
  obtain ⟨k, hk, rfl⟩ := Finset.mem_image.mp hname
  obtain ⟨hge, hle⟩ := Finset.mem_Icc.mp hk
  exact ⟨k, hge, hle, isFree_iff_names.mpr ⟨isReserved_append_ofNat s k, hnot⟩⟩

theorem exists_isFree (p : Picker) (s : Text) :
    ∃ k ∈ List.range' 2 (p.lastSuffix - 1), p.isFree (s ++ ofNat k) := by
  obtain ⟨k, hge, hle, hfree⟩ := p.exists_isFree_le s
  have hcard : p.names.card ≤ p.reserved.length + p.taken.length :=
    List.length_append ▸ List.toFinset_card_le _
  refine ⟨k, List.mem_range'_1.mpr ⟨hge, ?_⟩, hfree⟩
  rw [lastSuffix]
  omega

theorem suffix_isLeast (p : Picker) (s : Text) :
    IsLeast {k | 2 ≤ k ∧ p.isFree (s ++ ofNat k)} (p.suffix s) := by
  obtain ⟨n, hn⟩ := Option.isSome_iff_exists.mp (List.find?_isSome.mpr (p.exists_isFree s))
  rw [suffix, hn, Option.getD_some]
  obtain ⟨hfree, hmem, hleast⟩ := List.find?_range'_eq_some.mp hn
  refine ⟨⟨(List.mem_range'_1.mp hmem).1, hfree⟩, ?_⟩
  rintro k ⟨hge, hk⟩
  by_contra hlt
  have hnot := hleast k hge (Nat.lt_of_not_le hlt)
  simp [hk] at hnot

theorem suffix_le (p : Picker) (s : Text) : p.suffix s ≤ p.names.card + 2 := by
  obtain ⟨k, hge, hle, hfree⟩ := p.exists_isFree_le s
  exact ((p.suffix_isLeast s).2 ⟨hge, hfree⟩).trans hle

theorem suffix_spec (p : Picker) (s : Text) :
    p.isFree (s ++ ofNat (p.suffix s)) ∧ p.suffix s ≤ p.lastSuffix := by
  obtain ⟨k, hk, hfree⟩ := p.exists_isFree s
  obtain ⟨hge, hlt⟩ := List.mem_range'_1.mp hk
  have hle := (p.suffix_isLeast s).2 ⟨hge, hfree⟩
  exact ⟨(p.suffix_isLeast s).1.2, by omega⟩

theorem isLeast_succ {p : Picker} {s : Text} {k n : Nat} (hfree : ¬p.isFree (s ++ ofNat k))
    (h : IsLeast {m | k ≤ m ∧ p.isFree (s ++ ofNat m)} n) :
    IsLeast {m | k + 1 ≤ m ∧ p.isFree (s ++ ofNat m)} n := by
  obtain ⟨⟨hge, hn⟩, hleast⟩ := h
  have hne : k ≠ n := by
    rintro rfl
    exact hfree hn
  refine ⟨⟨by omega, hn⟩, ?_⟩
  rintro m ⟨hm, hfree⟩
  exact hleast ⟨by omega, hfree⟩

theorem countUp?_of_isLeast {p : Picker} {s : Text} {k n : Nat}
    (h : IsLeast {m | k ≤ m ∧ p.isFree (s ++ ofNat m)} n) (hbound : n < numberBound) :
    p.countUp? s k = some n := by
  fun_induction countUp? p s k with
  | case1 k hfree => exact congrArg some (Nat.le_antisymm h.1.1 (h.2 ⟨Nat.le_refl k, hfree⟩))
  | case2 k hfree _ ih => exact ih (isLeast_succ hfree h)
  | case3 k hfree hlast =>
      have hge := (isLeast_succ hfree h).1.1
      omega

theorem isLeast_of_countUp? {p : Picker} {s : Text} {k n : Nat} (h : p.countUp? s k = some n) :
    IsLeast {m | k ≤ m ∧ p.isFree (s ++ ofNat m)} n := by
  fun_induction countUp? p s k with
  | case1 k hfree =>
      obtain rfl := Option.some.inj h
      exact ⟨⟨Nat.le_refl k, hfree⟩, fun m hm => hm.1⟩
  | case2 k hfree _ ih =>
      obtain ⟨⟨hge, hn⟩, hleast⟩ := ih h
      refine ⟨⟨by omega, hn⟩, ?_⟩
      rintro m ⟨hm, hm'⟩
      rcases Nat.eq_or_lt_of_le hm with rfl | hlt
      · exact absurd hm' hfree
      · exact hleast ⟨hlt, hm'⟩
  | case3 => simp at h

theorem number_eq_suffix (p : Picker) (s : Text) : p.number s = p.suffix s := by
  rw [number]
  cases h : p.countUp? s 2 with
  | some n => exact (isLeast_of_countUp? h).unique (p.suffix_isLeast s)
  | none => rfl

theorem isValid_stem {base : Text} (h : isValid base) : isValid (stem base) := by
  rw [stem]
  split
  · split
    · exact isValid_append h (by simp [isWordChar])
    · exact h
  · exact h

theorem isValid_stem_append_ofNat {base : Text} (h : isValid base) (n : Nat) :
    isValid (stem base ++ ofNat n) :=
  isValid_append (isValid_stem h) fun _ hc => isWordChar_of_isDigit (isDigit_of_mem_ofNat hc)

/-- What is handed out for a name: the name itself, or its stem with a number that was tried. -/
structure Hands (p : Picker) (picked : Picked) (next : Picker) : Prop where
  valid : isValid picked.identifier
  free : p.isFree picked.identifier
  next_eq : next = p.take picked.identifier
  numbered : ∀ r, picked.change = some r →
    ∃ n, n ≤ p.lastSuffix ∧ picked.identifier = stem r.base ++ ofNat n

theorem claim_hands {base : Text} (p : Picker) (h : isValid base) (raw : Text) :
    p.Hands (p.claim base raw).1 (p.claim base raw).2 := by
  rw [claim]
  split
  · rename_i hfree
    exact ⟨h, hfree, rfl, fun r hr => by contradiction⟩
  · obtain ⟨hfree, hle⟩ := p.suffix_spec (stem base)
    rw [← number_eq_suffix] at hfree hle
    refine ⟨isValid_stem_append_ofNat h _, hfree, rfl, ?_⟩
    intro r hr
    obtain rfl := Option.some.inj hr
    exact ⟨p.number (stem base), hle, rfl⟩

theorem answer_hands (p : Picker) (request : Request) :
    p.Hands (p.answer request).1 (p.answer request).2 := by
  cases request with
  | column raw => exact p.claim_hands (sanitize_isValid p.fallback raw) raw
  | table raw => exact p.claim_hands (sanitizeTable_isValid raw) raw

theorem take_lastSuffix (p : Picker) (s : Text) : (p.take s).lastSuffix = p.lastSuffix + 1 := by
  simp only [take, lastSuffix, List.length_cons]
  omega

theorem answerAll_isFree {p : Picker} {requests : List Request} :
    ∀ picked ∈ p.answerAll requests, isValid picked.identifier ∧ p.isFree picked.identifier := by
  induction requests generalizing p with
  | nil => simp [answerAll]
  | cons request rest ih =>
      intro picked hpicked
      have hhands := p.answer_hands request
      rcases List.mem_cons.mp hpicked with rfl | hpicked
      · exact ⟨hhands.valid, hhands.free⟩
      · obtain ⟨hvalid, hfree⟩ := ih picked hpicked
        rw [hhands.next_eq] at hfree
        exact ⟨hvalid, (isFree_take_iff.mp hfree).1⟩

theorem answerAll_pairwise (p : Picker) (requests : List Request) :
    (p.answerAll requests).Pairwise fun a b =>
      sameIgnoringCase a.identifier b.identifier = false := by
  induction requests generalizing p with
  | nil => exact List.Pairwise.nil
  | cons request rest ih =>
      refine List.Pairwise.cons ?_ (ih _)
      intro later hlater
      have hhands := p.answer_hands request
      obtain ⟨hvalid, hfree⟩ := answerAll_isFree later hlater
      rw [hhands.next_eq] at hfree
      exact sameIgnoringCase_eq_false hhands.valid hvalid (isFree_take_iff.mp hfree).2.symm

theorem answerAll_numbered {p : Picker} {requests : List Request} :
    ∀ picked ∈ p.answerAll requests, ∀ r, picked.change = some r →
      ∃ n < p.lastSuffix + requests.length, picked.identifier = stem r.base ++ ofNat n := by
  induction requests generalizing p with
  | nil => simp [answerAll]
  | cons request rest ih =>
      intro picked hpicked r hr
      have hhands := p.answer_hands request
      rcases List.mem_cons.mp hpicked with rfl | hpicked
      · obtain ⟨n, hle, heq⟩ := hhands.numbered r hr
        exact ⟨n, by rw [List.length_cons]; omega, heq⟩
      · obtain ⟨n, hlt, heq⟩ := ih picked hpicked r hr
        rw [hhands.next_eq, take_lastSuffix] at hlt
        exact ⟨n, by rw [List.length_cons]; omega, heq⟩

theorem acceptable_of_isFree {words : List Text} {fallback identifier : Text}
    (hvalid : isValid identifier)
    (hfree : (({ fallback } : Picker).withReserved words).isFree identifier) :
    Acceptable words identifier := by
  obtain ⟨hreserved, hnot⟩ := isFree_iff.mp hfree
  refine ⟨hvalid, hreserved, ?_⟩
  intro word hword heq
  apply hnot
  apply List.mem_append_left
  exact List.mem_map.mpr ⟨word, hword, heq.symm⟩

/-- Whatever a fresh picker is asked for, every identifier it hands out is acceptable, and no two
are the same in any case of their letters. A number behind an identifier is at most one more than
there are requests and further words. -/
theorem answerAll_acceptable (words : List Text) (fallback : Option Text)
    (requests : List Request) :
    let p := ({ fallback := fallback.getD defaultFallback } : Picker).withReserved words
    (∀ picked ∈ p.answerAll requests, Acceptable words picked.identifier) ∧
      ((p.answerAll requests).Pairwise fun a b =>
        sameIgnoringCase a.identifier b.identifier = false) ∧
      ∀ picked ∈ p.answerAll requests, ∀ r, picked.change = some r →
        ∃ n < requests.length + words.length + 2, picked.identifier = stem r.base ++ ofNat n := by
  intro p
  refine ⟨?_, p.answerAll_pairwise requests, ?_⟩
  · intro picked hpicked
    obtain ⟨hvalid, hfree⟩ := answerAll_isFree picked hpicked
    exact acceptable_of_isFree hvalid hfree
  · intro picked hpicked r hr
    obtain ⟨n, hlt, heq⟩ := answerAll_numbered picked hpicked r hr
    have hlast : p.lastSuffix = words.length + 2 := by simp [p, lastSuffix, withReserved]
    exact ⟨n, by omega, heq⟩

theorem answerAll_acceptable_total :
    let words := ["total3".toList]
    let requests : List Request :=
      [.column "Total $".toList, .table "total".toList, .column "TOTAL".toList, .column "--".toList]
    let p := ({ fallback := "9-lives".toList } : Picker).withReserved words
    (p.answerAll requests).map (·.identifier) =
        ["Total".toList, "Total2".toList, "TOTAL4".toList, "_9lives".toList] ∧
      (∀ picked ∈ p.answerAll requests, Acceptable words picked.identifier) ∧
      ((p.answerAll requests).Pairwise fun a b =>
        sameIgnoringCase a.identifier b.identifier = false) ∧
      ∀ picked ∈ p.answerAll requests, ∀ r, picked.change = some r →
        ∃ n < requests.length + words.length + 2, picked.identifier = stem r.base ++ ofNat n := by
  intro words requests p
  have hidentifiers : (p.answerAll requests).map (·.identifier) =
      ["Total".toList, "Total2".toList, "TOTAL4".toList, "_9lives".toList] := by decide +kernel
  exact ⟨hidentifiers, answerAll_acceptable words (some "9-lives".toList) requests⟩

end Picker

end ColumnFormula.Identifier
