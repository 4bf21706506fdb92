import ColumnFormula.Number.Numeral

/-!
JSON documents as they are written. Numerals are kept as numerals, and a string that spells no text,
because one of its surrogates stands alone, is kept as `none`: only a reader that needs the value
has to reject it.
-/

namespace ColumnFormula

/-- A JSON value. -/
inductive Json
  | null
  | bool (value : Bool)
  | number (numeral : Numeral)
  | string (content : Option Text)
  | array (items : List Json)
  | object (members : List (Option Text × Json))

namespace Json

def asText? : Json → Option Text
  | string content => content
  | _ => none

def asItems? : Json → Option (List Json)
  | array items => some items
  | _ => none

def asMembers? : Json → Option (List (Text × Json))
  | object members => members.mapM fun (name, value) => name.map (·, value)
  | _ => none

end Json

end ColumnFormula
