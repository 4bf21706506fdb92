import Mathlib
import ColumnFormula.Token.Lexeme.Basic

namespace ColumnFormula.Text

/-- The text does not start with a character of a class. -/
def StopsBefore (p : Char → Bool) (s : Text) : Prop := s.head?.all (!p ·)

instance (p : Char → Bool) (s : Text) : Decidable (StopsBefore p s) :=
  inferInstanceAs (Decidable (_ = true))

@[simp] theorem stopsBefore_nil (p : Char → Bool) : StopsBefore p [] := rfl

@[simp] theorem stopsBefore_cons {p : Char → Bool} {c : Char} {s : Text} :
    StopsBefore p (c :: s) ↔ p c = false := by
  simp [StopsBefore]

theorem StopsBefore.eq_false {p : Char → Bool} {c : Char} {s : Text} (h : StopsBefore p s)
    (hc : s.head? = some c) : p c = false := by
  rw [StopsBefore, hc] at h
  simpa using h

theorem StopsBefore.mono {p q : Char → Bool} {s : Text} (hpq : ∀ c, q c → p c)
    (h : StopsBefore p s) : StopsBefore q s := by
  cases s with
  | nil => exact stopsBefore_nil q
  | cons c s =>
      rw [stopsBefore_cons] at h ⊢
      have := hpq c
      grind

theorem stopsBefore_append_iff {p : Char → Bool} {s : Text} (h : s ≠ []) (rest : Text) :
    StopsBefore p (s ++ rest) ↔ StopsBefore p s := by
  obtain ⟨c, s, rfl⟩ := List.exists_cons_of_ne_nil h
  rw [List.cons_append, stopsBefore_cons, stopsBefore_cons]

theorem StopsBefore.of_append {p : Char → Bool} {s rest : Text}
    (h : StopsBefore p (s ++ rest)) : StopsBefore p s := by
  cases s with
  | nil => exact stopsBefore_nil p
  | cons c s => exact stopsBefore_cons.mpr (stopsBefore_cons.mp h)

theorem stopsBefore_of_forall {p : Char → Bool} {s : Text} (h : ∀ c ∈ s, p c = false) :
    StopsBefore p s := by
  cases s with
  | nil => exact stopsBefore_nil p
  | cons c s => exact stopsBefore_cons.mpr (h c (by simp))

theorem stopsBefore_dropWhile (p : Char → Bool) (s : Text) : StopsBefore p (s.dropWhile p) := by
  induction s with
  | nil => exact stopsBefore_nil p
  | cons c s ih =>
      rw [List.dropWhile_cons]
      split
      · exact ih
      · rename_i hc
        simpa using hc

theorem takeWhile_of_stopsBefore {p : Char → Bool} {s : Text} (h : StopsBefore p s) :
    s.takeWhile p = [] := by
  cases s with
  | nil => rfl
  | cons c s => rw [List.takeWhile_cons_of_neg (by simpa using h)]

theorem takeWhile_append_of_stopsBefore {p : Char → Bool} {run s : Text}
    (hrun : ∀ c ∈ run, p c) (h : StopsBefore p s) : (run ++ s).takeWhile p = run := by
  rw [List.takeWhile_append_of_pos hrun, takeWhile_of_stopsBefore h, List.append_nil]

theorem dropWhile_append_of_stopsBefore {p : Char → Bool} {run s : Text}
    (hrun : ∀ c ∈ run, p c) (h : StopsBefore p s) : (run ++ s).dropWhile p = s := by
  rw [List.dropWhile_append_of_pos hrun]
  cases s with
  | nil => rfl
  | cons c s => rw [List.dropWhile_cons_of_neg (by simpa using h)]

theorem isUpper_iff {c : Char} : c.isUpper ↔ 65 ≤ c.toNat ∧ c.toNat ≤ 90 := by
  simp [Char.isUpper, UInt32.le_iff_toNat_le]

theorem isLower_iff {c : Char} : c.isLower ↔ 97 ≤ c.toNat ∧ c.toNat ≤ 122 := by
  simp [Char.isLower, UInt32.le_iff_toNat_le]

theorem isDigit_iff {c : Char} : c.isDigit ↔ 48 ≤ c.toNat ∧ c.toNat ≤ 57 := by
  simp [Char.isDigit, UInt32.le_iff_toNat_le]

theorem isAlpha_iff {c : Char} :
    c.isAlpha ↔ (65 ≤ c.toNat ∧ c.toNat ≤ 90) ∨ (97 ≤ c.toNat ∧ c.toNat ≤ 122) := by
  rw [Char.isAlpha, Bool.or_eq_true, isUpper_iff, isLower_iff]

/-- What holds of the characters with certain code points holds of all characters between. -/
theorem of_code {P : Char → Prop} {first count : Nat}
    (h : ∀ n ∈ List.range' first count, P (Char.ofNat n)) {c : Char}
    (hc : first ≤ c.toNat ∧ c.toNat < first + count) : P c := by
  simpa using h c.toNat (List.mem_range'_1.mpr hc)

/-- The code points of the blank characters, one by one. -/
def blankCodes : List Nat :=
  [0x09, 0x0A, 0x0B, 0x0C, 0x0D, 0x20, 0x85, 0xA0, 0x1680, 0x2000, 0x2001, 0x2002, 0x2003, 0x2004,
    0x2005, 0x2006, 0x2007, 0x2008, 0x2009, 0x200A, 0x2028, 0x2029, 0x202F, 0x205F, 0x3000]

theorem toNat_mem_blankCodes {c : Char} (h : isBlank c) : c.toNat ∈ blankCodes := by
  simp only [isBlank, CodeRanges.holds, blankRanges, List.any_cons, List.any_nil,
    Bool.or_false, Bool.or_eq_true, Bool.and_eq_true, decide_eq_true_eq] at h
  simp only [blankCodes, List.mem_cons, List.not_mem_nil, or_false]
  omega

theorem isWordChar_of_isBlank {c : Char} (h : isBlank c) : Lexeme.isWordChar c = false := by
  have hall : ∀ n ∈ blankCodes, Lexeme.isWordChar (Char.ofNat n) = false := by decide +kernel
  simpa using hall c.toNat (toNat_mem_blankCodes h)

end ColumnFormula.Text
