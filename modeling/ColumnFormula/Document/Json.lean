import ColumnFormula.Document.Basic

namespace ColumnFormula.Document

/-- A digit of base 16, in lower case. -/
def hexDigit (n : Nat) : Char := Nat.digitChar n

/-- A character of a JSON string. Only quotes, backslashes and characters below U+0020 are
escaped. -/
def jsonEscape (c : Char) : Text :=
  match c with
  | '"' => "\\\"".toList
  | '\\' => "\\\\".toList
  | '\n' => "\\n".toList
  | '\r' => "\\r".toList
  | '\t' => "\\t".toList
  | '\x08' => "\\b".toList
  | '\x0c' => "\\f".toList
  | c =>
    if c.toNat < 0x20 then
      "\\u00".toList ++ [hexDigit (c.toNat / 16), hexDigit (c.toNat % 16)]
    else [c]

def jsonString (s : Text) : Text := '"' :: s.flatMap jsonEscape ++ ['"']

/-- A line end, and the spaces that open the next line at a depth. -/
def newline (depth : Nat) : Text := '\n' :: List.replicate (2 * depth) ' '

mutual

/-- A value whose own lines stand at a depth. -/
def jsonAt (depth : Nat) : Document → Text
  | null => "null".toList
  | bool b => boolText b
  | number n => Number.jsonStyle.write n
  | text s => jsonString s
  | list [] => "[]".toList
  | list (item :: items) =>
    '[' :: newline (depth + 1) ++ jsonAt (depth + 1) item ++ jsonItems (depth + 1) items
      ++ newline depth ++ [']']
  | record [] => "\x7b\x7d".toList
  | record ((name, value) :: fields) =>
    '\x7b' :: newline (depth + 1) ++ jsonString name ++ ": ".toList ++ jsonAt (depth + 1) value
      ++ jsonFields (depth + 1) fields ++ newline depth ++ ['\x7d']

/-- The items behind the first one. -/
def jsonItems (depth : Nat) : List Document → Text
  | [] => []
  | item :: items => ',' :: newline depth ++ jsonAt depth item ++ jsonItems depth items

/-- The fields behind the first one. -/
def jsonFields (depth : Nat) : List (Text × Document) → Text
  | [] => []
  | (name, value) :: fields =>
    ',' :: newline depth ++ jsonString name ++ ": ".toList ++ jsonAt depth value
      ++ jsonFields depth fields

end

def toJson (d : Document) : Text := jsonAt 0 d

end ColumnFormula.Document
