import ColumnFormula.Number.Style

namespace ColumnFormula

/-- A literal value. -/
inductive Cell.Value
  | empty
  | bool (value : Bool)
  | number (value : Number)
  | text (value : Text)
deriving DecidableEq

/-- Whether a cell holds a formula or a literal value. -/
inductive Cell.Kind
  | formula
  | value
deriving DecidableEq

/-- One cell. For a formula cell the value is the last result of the formula. -/
structure Cell where
  value : Cell.Value
  /-- The text of the formula, with or without an equals sign in front. -/
  formula : Option Text := none
  kind : Cell.Kind
  /-- The address, such as `AA100`. -/
  address : Text
deriving DecidableEq

namespace Cell

/-- The value as text, the way a cell shows it. -/
def Value.display : Value → Text
  | empty => []
  | bool value => if value then "TRUE".toList else "FALSE".toList
  | number value => Number.cellStyle.write value
  | text value => value

def ofValue (value : Value) (address : Text) : Cell := { value, kind := .value, address }

def ofFormula (formula : Text) (value : Value) (address : Text) : Cell :=
  { value, formula := some formula, kind := .formula, address }

def formula? (c : Cell) : Option Text :=
  match c.kind with
  | .formula => c.formula
  | .value => none

end Cell

end ColumnFormula
