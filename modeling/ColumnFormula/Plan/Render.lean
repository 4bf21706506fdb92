import ColumnFormula.Document.Json
import ColumnFormula.Document.Yaml
import ColumnFormula.Plan.Basic

namespace ColumnFormula

/-- The format of a written plan. -/
inductive Format
  | yaml
  | json
deriving DecidableEq

namespace Plan

def valueDocument : Cell.Value → Document
  | .empty => .null
  | .bool b => .bool b
  | .number n => .number n
  | .text s => .text s

/-- A field, unless it has no value. -/
def present (name : String) (value : Option Document) : List (Text × Document) :=
  (value.map fun value => (name.toList, value)).toList

/-- A list as a value, unless it is empty. -/
def unlessEmpty : List Document → Option Document
  | [] => none
  | items => some (.list items)

def Column.document (c : Column) : Document :=
  .record
    ([("identifier".toList, .text c.identifier), ("label".toList, .text c.label),
        ("is_formula".toList, .bool c.isFormula)]
      ++ present "formula" (c.formula?.map .text)
      ++ present "original_formula" (c.cellFormula?.map .text)
      ++ present "values" (unlessEmpty (c.values.map valueDocument)))

def Table.document (t : Table) : Document :=
  .record
    ([("name".toList, .text t.name), ("sheet".toList, .text t.sheet),
        ("columns".toList, .list (t.columns.map Column.document))]
      ++ present "warnings" (unlessEmpty (t.warnings.map .text)))

def fields (p : Plan) : List (Text × Document) :=
  [("tables".toList, .list (p.tables.map Table.document))]

def toYaml (p : Plan) : Text := Document.toYaml p.fields

def toJson (p : Plan) : Text := (Document.record p.fields).toJson

/-- A plan as it is written in a format. -/
def render (format : Format) (p : Plan) : Text :=
  match format with
  | .yaml => p.toYaml
  | .json => p.toJson ++ ['\n']

end Plan

end ColumnFormula
