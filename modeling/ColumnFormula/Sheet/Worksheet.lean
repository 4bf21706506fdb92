import ColumnFormula.Number.Numeral
import ColumnFormula.Sheet.Grid

namespace ColumnFormula

/-- What a reader finds in a worksheet: its name and the rectangles of its values and formulas.
There are no values where the worksheet is empty or cannot be read. -/
structure Worksheet.Ranges where
  name : Text
  values : Option (Grid Datum)
  formulas : Option (Grid Text)

/-- The sheet of a worksheet, `none` for one without values. -/
def Worksheet.Ranges.sheet? (r : Ranges) (headerRows : Nat) : Option Sheet :=
  r.values.map fun values => Sheet.ofGrid r.name values r.formulas headerRows

/-- What a spreadsheet file holds at a position. -/
inductive Worksheet.Entry
  | number (value : Number)
  | string (value : Text)
  | bool (value : Bool)
  /-- A formula with an equals sign in front, and its last result if there is one. -/
  | formula (text : Text) (result : Option Text)
deriving DecidableEq

/-- A worksheet: its name, and entries with their rows and columns. -/
structure Worksheet where
  name : Text
  cells : List (Nat × Nat × Worksheet.Entry)
deriving DecidableEq

namespace Worksheet

/-- The value of an entry. The result of a formula is a number if its text is one, and zero
without a result. -/
def Entry.datum : Entry → Datum
  | number value => .float value
  | string value => .string value
  | bool value => .bool value
  | formula _ none => .float (.ofInt 0)
  | formula _ (some result) =>
    match Number.parse? result with
    | some value => .float value
    | none => .string result

/-- The formula of an entry, without an equals sign in front. -/
def Entry.formula? : Entry → Option Text
  | formula ('=' :: text) _ => some text
  | formula text _ => some text
  | _ => none

/-- The rectangles around the values and around the formulas of a worksheet. -/
def ranges (w : Worksheet) : Ranges where
  name := w.name
  values := Grid.around? (w.cells.map fun (row, column, e) => (row, column, e.datum))
  formulas := Grid.around? (w.cells.filterMap fun (row, column, e) =>
    e.formula?.map fun text => (row, column, text))

end Worksheet

end ColumnFormula
