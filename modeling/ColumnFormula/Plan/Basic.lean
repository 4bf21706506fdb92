import ColumnFormula.Cell

namespace ColumnFormula

/-- What a column of a table is filled with: a formula, or the values of its rows. -/
inductive Plan.Content
  /-- The column formula, and the cell formula it was made from. -/
  | formula (text cellFormula : Text)
  | values (values : List Cell.Value)
deriving DecidableEq

/-- A column of a table. -/
structure Plan.Column where
  identifier : Text
  /-- The header of the column. -/
  label : Text
  content : Plan.Content
deriving DecidableEq

/-- A table, made from one sheet. -/
structure Plan.Table where
  name : Text
  sheet : Text
  columns : List Plan.Column
  warnings : List Text := []
deriving DecidableEq

/-- The tables of a workbook. -/
structure Plan where
  tables : List Plan.Table := []
deriving DecidableEq

namespace Plan

def Column.formula? (c : Column) : Option Text :=
  match c.content with
  | .formula text _ => some text
  | .values _ => none

/-- The cell formula that a formula column was made from. -/
def Column.cellFormula? (c : Column) : Option Text :=
  match c.content with
  | .formula _ cellFormula => some cellFormula
  | .values _ => none

/-- The values of a data column; a formula column has none. -/
def Column.values (c : Column) : List Cell.Value :=
  match c.content with
  | .formula .. => []
  | .values values => values

def Column.isFormula (c : Column) : Bool := c.formula?.isSome

def Table.formulaColumns (t : Table) : List Column := t.columns.filter (·.isFormula)

end Plan

end ColumnFormula
