import ColumnFormula.Yaml.Basic

namespace ColumnFormula.Yaml

/-- A token of a YAML text. -/
inductive Token
  /-- The mark `---`. -/
  | documentStart
  /-- The mark `...`. -/
  | documentEnd
  | blockList
  | blockMapping
  /-- The end of a list or mapping by indentation. -/
  | blockEnd
  | flowList
  | flowListEnd
  | flowMapping
  | flowMappingEnd
  /-- The dash before an item. -/
  | item
  | comma
  | key
  /-- The colon before a value. -/
  | value
  | scalar (isQuoted : Bool) (text : Text)
deriving DecidableEq

/-- Whether a key or value is missing where this token comes instead. -/
def Token.isEnd : Token → Bool
  | blockEnd => true
  | flowListEnd => true
  | flowMappingEnd => true
  | comma => true
  | key => true
  | value => true
  | _ => false

end ColumnFormula.Yaml
