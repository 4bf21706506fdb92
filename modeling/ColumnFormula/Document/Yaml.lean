import ColumnFormula.Document.Basic
import ColumnFormula.Yaml.Printer

namespace ColumnFormula.Document

def spaces (n : Nat) : Text := List.replicate n ' '

mutual

/-- A value behind a key or a dash, with the line ends it needs. `indent` is that of the record
around it, and `fields` that of a record which is the value itself. -/
def yamlAfter (indent fields : Nat) (behindDash : Bool) : Document → Text
  | null => " null\n".toList
  | bool b => ' ' :: boolText b ++ ['\n']
  | number n => ' ' :: Number.yamlStyle.write n ++ ['\n']
  | text s => ' ' :: Yaml.scalarLine (indent + 2) s
  | list [] => " []\n".toList
  | list (item :: items) =>
    if behindDash then
      " -".toList ++ yamlAfter fields (fields + 2) true item ++ yamlItems fields items
    else
      '\n' :: spaces indent ++ '-' :: yamlAfter indent (indent + 2) true item
        ++ yamlItems indent items
  | record [] => " \x7b\x7d\n".toList
  | record ((name, value) :: rest) =>
    (if behindDash then [' '] else '\n' :: spaces fields) ++ name ++ ':' ::
      yamlAfter fields (fields + 2) false value ++ yamlFields fields rest

/-- Items, each on lines of its own. -/
def yamlItems (indent : Nat) : List Document → Text
  | [] => []
  | item :: items =>
    spaces indent ++ '-' :: yamlAfter indent (indent + 2) true item ++ yamlItems indent items

/-- Fields, each on lines of its own. Their names are plain scalars. -/
def yamlFields (indent : Nat) : List (Text × Document) → Text
  | [] => []
  | (name, value) :: fields =>
    spaces indent ++ name ++ ':' :: yamlAfter indent (indent + 2) false value
      ++ yamlFields indent fields

end

def toYaml (fields : List (Text × Document)) : Text := yamlFields 0 fields

end ColumnFormula.Document
