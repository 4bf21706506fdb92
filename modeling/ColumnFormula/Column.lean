import ColumnFormula.Text.Basic

/-!
Column letters: `A` is column 0, `Z` column 25, `AA` column 26. The letters are the digits of a
bijective numeral in base 26, which has no digit for zero; a column index is a 64-bit number.
-/

namespace ColumnFormula.Column

/-- One more than the greatest column index. -/
def indexBound : Nat := 18446744073709551616

/-- The letter of one of the first 26 columns. -/
def letter (index : Nat) : Char := Char.ofNat ('A'.toNat + index)

def letters (index : Nat) : Text :=
  if index < 26 then [letter index] else letters (index / 26 - 1) ++ [letter (index % 26)]
termination_by index
decreasing_by omega

/-- The value of letters as a numeral, in which `A` counts one. -/
def rank (s : Text) : Nat := s.foldl (fun n c => 26 * n + (c.toNat - 64)) 0

/-- The column that letters stand for. Letters are upper-case, at least one, and their rank must be
a column index itself. -/
def index? (s : Text) : Option Nat :=
  if s ≠ [] ∧ s.all Char.isUpper ∧ rank s < indexBound then some (rank s - 1) else none

/-- The column a number of places after another. Columns are counted modulo the index bound. -/
def after (first places : Nat) : Nat := (first + places) % indexBound

end ColumnFormula.Column
