import ColumnFormula.Proofs.Numerals

namespace ColumnFormula.Column

/-- What a letter counts as a digit, from one for `A` to twenty-six for `Z`. -/
def digit (c : Char) : Nat := c.toNat - 64

/-- A number that fits in 64 bits. -/
def fit? (n : Nat) : Option Nat := if n < indexBound then some n else none

/-- The rank with one more letter behind it, when the product and then the sum fit. -/
def advance? (n : Nat) (c : Char) : Option Nat :=
  if c.isUpper then (fit? (26 * n)).bind fun product => fit? (product + digit c) else none

theorem fit?_eq_some_iff {n m : Nat} : fit? n = some m ↔ n < indexBound ∧ n = m := by
  rw [fit?, Option.ite_none_right_eq_some, Option.some.injEq]

theorem advance?_eq_some_iff {n m : Nat} {c : Char} :
    advance? n c = some m ↔ c.isUpper ∧ m < indexBound ∧ 26 * n + digit c = m := by
  rw [advance?, Option.ite_none_right_eq_some, Option.bind_eq_some_iff]
  simp only [fit?_eq_some_iff]
  constructor
  · rintro ⟨hupper, product, ⟨-, rfl⟩, hsum, rfl⟩
    exact ⟨hupper, hsum, rfl⟩
  · rintro ⟨hupper, hbound, rfl⟩
    exact ⟨hupper, 26 * n, ⟨by omega, rfl⟩, hbound, rfl⟩

theorem rank_concat (s : Text) (c : Char) : rank (s ++ [c]) = 26 * rank s + digit c :=
  rank_append s c

theorem foldlM_advance?_eq_some_iff {s : Text} {m : Nat} :
    s.foldlM advance? 0 = some m ↔
      (∀ c ∈ s, c.isUpper) ∧ m < indexBound ∧ rank s = m := by
  induction s using List.reverseRecOn generalizing m with
  | nil =>
      have hzero : rank [] = 0 := rfl
      simp only [List.foldlM_nil, hzero, Option.pure_def, Option.some.injEq, List.not_mem_nil,
        false_implies, implies_true, true_and]
      constructor
      · rintro rfl
        exact ⟨by decide, rfl⟩
      · exact fun h => h.2
  | append_singleton front c ih =>
      have hstep : (front ++ [c]).foldlM advance? 0 =
          (front.foldlM advance? 0).bind fun n => advance? n c := by
        simp
      rw [hstep, Option.bind_eq_some_iff, rank_concat]
      simp only [ih, advance?_eq_some_iff, List.forall_mem_append, List.forall_mem_singleton]
      constructor
      · rintro ⟨n, ⟨hfront, -, rfl⟩, hupper, hbound, heq⟩
        exact ⟨⟨hfront, hupper⟩, hbound, heq⟩
      · rintro ⟨⟨hfront, hupper⟩, hbound, heq⟩
        exact ⟨rank front, ⟨hfront, by omega, rfl⟩, hupper, hbound, heq⟩

theorem index?_eq_some_iff_foldlM {s : Text} {index : Nat} :
    index? s = some index ↔ s.foldlM advance? 0 = some (index + 1) := by
  rw [index?_eq_some_iff, foldlM_advance?_eq_some_iff]
  constructor
  · rintro ⟨rfl, hbound⟩
    exact ⟨letters_isUpper index, hbound, rank_letters index⟩
  · rintro ⟨hupper, hbound, hrank⟩
    have hne : s ≠ [] := by
      rintro rfl
      exact Nat.succ_ne_zero index hrank.symm
    have hletters := letters_rank hne hupper
    rw [hrank, Nat.add_sub_cancel] at hletters
    exact ⟨hletters.symm, hbound⟩

theorem rank_eq_ofDigits (s : Text) : rank s = Nat.ofDigits 26 (s.map digit).reverse := by
  induction s using List.reverseRecOn with
  | nil => rfl
  | append_singleton front c ih =>
      have hdigits : ((front ++ [c]).map digit).reverse = digit c :: (front.map digit).reverse := by
        simp
      rw [hdigits, Nat.ofDigits_cons, ← ih, rank_concat]
      exact Nat.add_comm _ _

theorem index?_eq_none_iff {s : Text} :
    index? s = none ↔ s = [] ∨ (∃ c ∈ s, c.isUpper = false) ∨ indexBound ≤ rank s := by
  rw [index?, ite_eq_right_iff]
  simp only [reduceCtorEq, imp_false, not_and_or, not_not, List.all_eq_true, not_forall,
    Bool.not_eq_true, exists_prop, Nat.not_lt]

/-- Letters and columns within 64 bits. Letters are read as the column that they are the letters
of, and only the letters of the last column are not read back. Counting with a check of every step
reads the same letters, and what is refused is empty, holds another character, or has too great a
value. -/
theorem index?_decodes (s : Text) (n : Nat) :
    (index? s = some n ↔ n < 2 ^ 64 - 1 ∧ s = letters n) ∧
      (index? (letters n) = some n ↔ n < 2 ^ 64 - 1) ∧
      (index? s = some n ↔ s.foldlM advance? 0 = some (n + 1)) ∧
      (index? s = none ↔ s = [] ∨ (∃ c ∈ s, c.isUpper = false) ∨
        2 ^ 64 - 1 < Nat.ofDigits 26 (s.map digit).reverse) := by
  have hbound : n + 1 < indexBound ↔ n < 2 ^ 64 - 1 := by
    rw [indexBound]
    omega
  refine ⟨?_, ?_, index?_eq_some_iff_foldlM, ?_⟩
  · rw [index?_eq_some_iff, hbound, and_comm]
  · rw [index?_eq_some_iff, hbound, eq_self, true_and]
  · have hrank : indexBound ≤ rank s ↔ 2 ^ 64 - 1 < Nat.ofDigits 26 (s.map digit).reverse := by
      rw [rank_eq_ofDigits, indexBound]
      omega
    rw [index?_eq_none_iff, hrank]

/-- The last letters that are read, and the first that are not. -/
example : index? "GKGWBYLWRXTLPO".toList = some (2 ^ 64 - 2) ∧
    index? "GKGWBYLWRXTLPP".toList = none := by decide

end ColumnFormula.Column
