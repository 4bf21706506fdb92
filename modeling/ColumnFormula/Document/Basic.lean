import ColumnFormula.Number.Style

namespace ColumnFormula

/-- A value of a document. The fields of a record keep their order. -/
inductive Document
  | null
  | bool (value : Bool)
  | number (value : Number)
  | text (value : Text)
  | list (items : List Document)
  | record (fields : List (Text × Document))

namespace Document

def boolText (b : Bool) : Text := if b then "true".toList else "false".toList

end Document

end ColumnFormula
