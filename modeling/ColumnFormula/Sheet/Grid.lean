import ColumnFormula.Sheet.Basic

namespace ColumnFormula

/-- A rectangle of a sheet, with entries at some of its positions. -/
structure Grid (α : Type) where
  firstRow : Nat
  firstColumn : Nat
  lastRow : Nat
  lastColumn : Nat
  /-- Row, column and entry; of two entries at one position the later counts. -/
  entries : List (Nat × Nat × α)

/-- The error values of a workbook. -/
inductive Datum.Error
  | divisionByZero
  | notAvailable
  | name
  | null
  | number
  | reference
  | wrongValue
  | gettingData
deriving DecidableEq

/-- What a workbook holds at a position. -/
inductive Datum
  | empty
  | int (value : Int)
  | float (value : Number)
  | bool (value : Bool)
  | string (value : Text)
  /-- A date or a duration, as a number of days. -/
  | serial (value : Number)
  /-- A date or a duration in ISO 8601 notation. -/
  | iso (value : Text)
  | error (value : Datum.Error)
deriving DecidableEq

namespace Datum

def Error.text : Error → Text
  | divisionByZero => "#DIV/0!".toList
  | notAvailable => "#N/A".toList
  | name => "#NAME?".toList
  | null => "#NULL!".toList
  | number => "#NUM!".toList
  | reference => "#REF!".toList
  | wrongValue => "#VALUE!".toList
  | gettingData => "#DATA!".toList

/-- The datum as the value of a cell. -/
def cellValue : Datum → Cell.Value
  | empty => .empty
  | int value => .number (.ofInt value)
  | float value | serial value => .number value
  | bool value => .bool value
  | string value | iso value => .text value
  | error value => .text value.text

/-- The datum as a header: as a cell shows it, but integers to the last digit and truth values in
lower case. -/
def header : Datum → Text
  | int value => (if value < 0 then ['-'] else []) ++ Text.ofNat value.natAbs
  | bool value => if value then "true".toList else "false".toList
  | other => other.cellValue.display

end Datum

namespace Grid

/-- The entry at a position inside the rectangle. -/
def get? {α : Type} (g : Grid α) (row column : Nat) : Option α :=
  if g.firstRow ≤ row ∧ row ≤ g.lastRow ∧ g.firstColumn ≤ column ∧ column ≤ g.lastColumn then
    (g.entries.reverse.find? fun e => e.1 = row ∧ e.2.1 = column).map (·.2.2)
  else none

/-- The smallest rectangle around entries, `none` around none. -/
def around? {α : Type} (entries : List (Nat × Nat × α)) : Option (Grid α) :=
  match entries with
  | [] => none
  | (row, column, _) :: rest =>
    some
      { firstRow := rest.foldl (fun n e => min n e.1) row
        firstColumn := rest.foldl (fun n e => min n e.2.1) column
        lastRow := rest.foldl (fun n e => max n e.1) row
        lastColumn := rest.foldl (fun n e => max n e.2.1) column
        entries }

end Grid

namespace Sheet

/-- The numbers from `first` to `last`. -/
def fromTo (first last : Nat) : List Nat := List.range' first (last + 1 - first)

/-- The address of a position. Row numbers are counted modulo 2^32. -/
def address (row column : Nat) : Text :=
  ColumnFormula.Column.letters column ++ Text.ofNat ((row + 1) % (Bound.greatestRow + 1))

/-- The cell at a position, with its formula if the formulas have a text there. -/
def cellAt (values : Grid Datum) (formulas : Option (Grid Text)) (row column : Nat) : Cell :=
  let value := ((values.get? row column).map Datum.cellValue).getD .empty
  match (formulas.bind (·.get? row column)).filter (· ≠ []) with
  | some formula => .ofFormula formula value (address row column)
  | none => .ofValue value (address row column)

/-- The sheet of a rectangle of values. Its first row holds the headers, and the data starts
`headerRows` rows below. -/
def ofGrid (name : Text) (values : Grid Datum) (formulas : Option (Grid Text)) (headerRows : Nat) :
    Sheet :=
  let columns := fromTo values.firstColumn values.lastColumn
  let start := min (values.firstRow + max headerRows 1) Bound.greatestRow
  { name
    headers := columns.map fun column =>
      ((values.get? values.firstRow column).map Datum.header).getD []
    rows := (fromTo start values.lastRow).map fun row => columns.map (cellAt values formulas row)
    firstColumn := values.firstColumn
    firstDataRow := min (start + 1) Bound.greatestRow }

end Sheet

end ColumnFormula
