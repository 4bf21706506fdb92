import ColumnFormula.Column
import ColumnFormula.Identifier.Picker
import ColumnFormula.Options.Basic

namespace ColumnFormula

/-- The columns of a table: one identifier for each header, from the first column on. -/
structure Mapping where
  table : Text
  /-- The column of the first header. -/
  firstColumn : Nat := 0
  identifiers : List Text
  /-- The columns whose identifier was renamed. -/
  changes : List (Nat × Identifier.Renaming) := []
deriving DecidableEq

namespace Mapping

/-- The picker that options ask for. -/
def pickerFor (options : Options) : Identifier.Picker :=
  ({ fallback := options.fallbackColumnName } : Identifier.Picker).withReserved
    options.reservedWords

/-- The mapping of headers that start in a given column. -/
def ofHeadersAt (headers : List Text) (firstColumn : Nat) (options : Options) : Mapping :=
  let picked := (pickerFor options).pickAll headers
  { table := options.tableName
    firstColumn
    identifiers := picked.map (·.identifier)
    changes := picked.zipIdx.filterMap fun (p, i) =>
      p.change.map fun r => (Column.after firstColumn i, r) }

/-- The mapping of headers that start in column A. -/
def ofHeaders (headers : List Text) (options : Options) : Mapping := ofHeadersAt headers 0 options

/-- The mapping of identifiers that are valid and different already. -/
def ofIdentifiers (table : Text) (identifiers : List Text) : Mapping := { table, identifiers }

/-- The identifier at a place, counted from the first header. -/
def at? (m : Mapping) (place : Nat) : Option Text := m.identifiers[place]?

/-- The identifier of the column with these letters. -/
def get? (m : Mapping) (letters : Text) : Option Text := do
  let column ← Column.index? letters
  if m.firstColumn ≤ column then m.at? (column - m.firstColumn) else none

def entries (m : Mapping) : List (Text × Text) :=
  m.identifiers.zipIdx.map fun (s, i) => (Column.letters (Column.after m.firstColumn i), s)

def warnings (m : Mapping) : List Text :=
  m.changes.map fun (column, change) =>
    ["Column ".toList, Column.letters column, ": ".toList, change.message].flatten

end Mapping

end ColumnFormula
