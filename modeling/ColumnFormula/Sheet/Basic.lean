import ColumnFormula.Cell
import ColumnFormula.Column
import ColumnFormula.Reference

namespace ColumnFormula

/-- A sheet. -/
structure Sheet where
  name : Text
  headers : List Text
  /-- The rows of data; the header row is not among them. A row may be shorter than the headers. -/
  rows : List (List Cell)
  /-- The column of the first header. -/
  firstColumn : Nat
  /-- The row number of the first row of data. -/
  firstDataRow : Nat
deriving DecidableEq

/-- What the first row of data tells about a column. -/
structure Sheet.Column where
  name : Text
  /-- The place of the column, counted from the first header. -/
  place : Nat
  letters : Text
  /-- The formula in the first row, if there is one. -/
  formula : Option Text
  /-- The value in the first row, if there is a cell without a formula. -/
  value : Option Cell.Value
deriving DecidableEq

namespace Sheet

def Column.isFormula (c : Column) : Bool := c.formula.isSome

/-- The column at a place, judged by its cell in the first row. -/
def describe (s : Sheet) (header : Text) (place : Nat) : Column :=
  let cell := s.rows.head?.bind (·[place]?)
  let formula := cell.bind Cell.formula?
  { name := header
    place
    letters := ColumnFormula.Column.letters (ColumnFormula.Column.after s.firstColumn place)
    formula
    value := if formula.isSome then none else cell.map (·.value) }

def columns (s : Sheet) : List Column := s.headers.zipIdx.map fun (header, i) => s.describe header i

def formulaCount (s : Sheet) : Nat := s.columns.countP (·.isFormula)

/-- The values at a place in every row of data; a row that is too short has an empty one. -/
def values (s : Sheet) (place : Nat) : List Cell.Value :=
  s.rows.map fun row => (row[place]?.map (·.value)).getD .empty

/-- The column and the row of an address. -/
def splitAddress? (address : Text) : Option (Nat × Nat) := do
  let letters := address.takeWhile (!·.isDigit)
  let digits := address.dropWhile (!·.isDigit)
  if digits = [] ∨ !digits.all Char.isDigit then none
  else
    let row ← (Bound.rowOfDigits? digits).join
    let column ← ColumnFormula.Column.index? letters
    return (column, row)

/-- The sheet of headers and rows, whose place is read off the address of the first cell; `A2` when
there is no such address. -/
def ofRows (name : Text) (headers : List Text) (rows : List (List Cell)) : Sheet :=
  let address := (rows.head?.bind List.head?).map (·.address)
  let (firstColumn, firstDataRow) := (address.bind splitAddress?).getD (0, 2)
  { name, headers, rows, firstColumn, firstDataRow }

end Sheet

end ColumnFormula
