import ColumnFormula.Json.Parser
import ColumnFormula.Sheet.Basic

namespace ColumnFormula

namespace Json

/-- The value of the field with a name, `none` inside if there is none; a field that comes twice is
refused. -/
def field? (members : List (Text × Json)) (name : String) : Option (Option Json) :=
  match members.filter (·.1 == name.toList) with
  | [] => some none
  | [(_, value)] => some (some value)
  | _ => none

/-- The value of a field that must be there. -/
def required? (members : List (Text × Json)) (name : String) : Option Json :=
  (field? members name).join

/-- The items of an array, each read by itself. -/
def listOf? {α : Type} (read : Json → Option α) (j : Json) : Option (List α) :=
  j.asItems?.bind (·.mapM read)

end Json

namespace Cell

def Value.ofJson? : Json → Option Value
  | .null => some .empty
  | .bool b => some (.bool b)
  | .number n => n.scaledNumber?.map .number
  | .string content => content.map .text
  | _ => none

/-- The name of a kind. -/
def Kind.ofName? (name : Text) : Option Kind :=
  if name = "formula".toList then some .formula
  else if name = "value".toList then some .value
  else none

/-- A kind is its name, or an object with the name as its only field. -/
def Kind.ofJson? : Json → Option Kind
  | .string content => content.bind ofName?
  | .object [(name, .null)] => name.bind ofName?
  | _ => none

/-- The formula of a cell, if there is one. -/
def formulaOfJson? : Json → Option (Option Text)
  | .null => some none
  | j => j.asText?.map some

def ofFields? (value formula kind address : Json) : Option Cell := do
  return ⟨← Value.ofJson? value, ← formulaOfJson? formula, ← Kind.ofJson? kind, ← address.asText?⟩

/-- A cell. Its formula may be missing. -/
def ofJson? : Json → Option Cell
  | .array [value, formula, kind, address] => ofFields? value formula kind address
  | j => do
    let members ← j.asMembers?
    let formula ← Json.field? members "formula"
    ofFields? (← Json.required? members "value") (formula.getD .null)
      (← Json.required? members "type") (← Json.required? members "address")

end Cell

/-- A sheet as a document has it, without its place. -/
structure Sheet.Draft where
  name : Text
  headers : List Text
  rows : List (List Cell)

namespace Sheet.Draft

def sheet (d : Draft) : Sheet := ofRows d.name d.headers d.rows

def ofFields? (name headers rows : Json) : Option Draft := do
  return ⟨← name.asText?, ← headers.listOf? Json.asText?,
    ← rows.listOf? (Json.listOf? Cell.ofJson?)⟩

/-- A draft, from an object or from an array of its fields in order. Fields that are not known are
skipped; a known field may not come twice. -/
def ofJson? : Json → Option Draft
  | .array [name, headers, rows] => ofFields? name headers rows
  | j => do
    let members ← j.asMembers?
    ofFields? (← Json.required? members "name") (← Json.required? members "headers")
      (← Json.required? members "rows")

def parseAll? (document : Text) : Option (List Draft) :=
  (Json.parse? document).bind (Json.listOf? ofJson?)

end Sheet.Draft

/-- The sheets of a JSON document. -/
def Sheet.parseAll? (document : Text) : Option (List Sheet) :=
  (Draft.parseAll? document).map (·.map Draft.sheet)

end ColumnFormula
