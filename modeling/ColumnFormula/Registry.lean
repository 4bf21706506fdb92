import ColumnFormula.Mapping

namespace ColumnFormula

/-- The sheets of a workbook by name. -/
structure Registry where
  sheets : List (Text × Mapping) := []
deriving DecidableEq

namespace Registry

def size (r : Registry) : Nat := r.sheets.length

/-- The registry with one more sheet at the end. -/
def insert (r : Registry) (name : Text) (mapping : Mapping) : Registry :=
  ⟨r.sheets ++ [(name, mapping)]⟩

/-- Whether two sheet names are the same name. -/
def sameName (a b : Text) : Bool := Text.upperCase a == Text.upperCase b

/-- The place of the first sheet with a name. -/
def positionOf? (r : Registry) (name : Text) : Option Nat :=
  r.sheets.findIdx? fun s => sameName s.1 name

def at? (r : Registry) (position : Nat) : Option Mapping := r.sheets[position]?.map (·.2)

/-- The mapping of the first sheet with a name. -/
def get? (r : Registry) (name : Text) : Option Mapping := (r.positionOf? name).bind r.at?

end Registry

end ColumnFormula
