import ColumnFormula.Column

namespace ColumnFormula

/-- One bound of a reference: a column, and a row unless it stands for the whole column. -/
structure Bound where
  column : Text
  row : Option Nat := none
  columnAbsolute : Bool := false
  rowAbsolute : Bool := false
deriving DecidableEq

/-- A reference to one cell or column, or from one bound to another. -/
inductive Reference
  | single (bound : Bound)
  | range (first last : Bound)
deriving DecidableEq

namespace Bound

def greatestRow : Nat := 4294967295

/-- A bound as written: the marks of absolute columns and rows, letters and digits. -/
structure Written where
  columnMark : Bool
  letters : Text
  rowMark : Bool
  digits : Text
deriving DecidableEq

/-- The text without a dollar sign in front, and whether there was one. -/
def takeMark : Text → Bool × Text
  | '$' :: rest => (true, rest)
  | rest => (false, rest)

/-- The parts of a text of the form `[$]?[A-Z]+[$]?[0-9]*`. -/
def captures? (s : Text) : Option Written :=
  let (columnMark, afterMark) := takeMark s
  let letters := afterMark.takeWhile Char.isUpper
  let (rowMark, digits) := takeMark (afterMark.dropWhile Char.isUpper)
  if letters ≠ [] ∧ digits.all Char.isDigit then some ⟨columnMark, letters, rowMark, digits⟩
  else none

/-- Splits `$AB$12` into its parts. The mark of a row needs a row. -/
def split? (s : Text) : Option Written :=
  (captures? s).filter fun w => !w.rowMark || w.digits != []

/-- The row that digits spell, `none` for no digits; a row is at least 1. -/
def rowOfDigits? (digits : Text) : Option (Option Nat) :=
  if digits = [] then some none
  else
    let row := Text.toNat digits
    if 1 ≤ row ∧ row ≤ greatestRow then some (some row) else none

/-- Reads one bound. -/
def parse? (s : Text) : Option Bound := do
  let w ← split? s
  let _ ← Column.index? w.letters
  let row ← rowOfDigits? w.digits
  return ⟨w.letters, row, w.columnMark, w.rowMark⟩

/-- The text of a bound. -/
def render (b : Bound) : Text :=
  (if b.columnAbsolute then ['$'] else []) ++ b.column ++
    match b.row with
    | none => []
    | some row => (if b.rowAbsolute then ['$'] else []) ++ Text.ofNat row

end Bound

namespace Reference

/-- Reads a reference. The bounds of a range both have a row, or neither has. -/
def parse? (s : Text) : Option Reference :=
  match Text.splitAtEach ':' s with
  | [one] => (Bound.parse? one).map single
  | [one, two] => do
    let first ← Bound.parse? one
    let last ← Bound.parse? two
    if first.row.isSome = last.row.isSome then some (range first last) else none
  | _ => none

/-- The text of a reference. -/
def render : Reference → Text
  | single b => b.render
  | range first last => first.render ++ ':' :: last.render

/-- The bound that stands first. -/
def first : Reference → Bound
  | single b => b
  | range b _ => b

/-- Whether the reference stays in one column. -/
def isSingleColumn : Reference → Bool
  | single _ => true
  | range first last => last.column == first.column

/-- Whether every bound has an absolute row. -/
def rowsAbsolute : Reference → Bool
  | single b => b.rowAbsolute
  | range first last => first.rowAbsolute && last.rowAbsolute

end Reference

end ColumnFormula
