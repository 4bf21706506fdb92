import ColumnFormula.Text.Basic

namespace ColumnFormula

/-- A formula, what it became, and the warnings on the way. A failed conversion has no output. -/
structure Conversion where
  output : Text
  success : Bool
  warnings : List Text
  formula : Text
deriving DecidableEq

namespace Conversion

def succeeded (formula output : Text) (warnings : List Text) : Conversion :=
  ⟨output, true, warnings, formula⟩

/-- A conversion that failed, with the reason as its one warning. -/
def failed (formula reason : Text) : Conversion := ⟨[], false, [reason], formula⟩

/-- How a conversion went. -/
inductive Status
  | success
  | warning
  | failed
deriving DecidableEq

/-- The status of a conversion: failed, or else with or without warnings. -/
def status (c : Conversion) : Status :=
  if c.success then (if c.warnings.isEmpty then .success else .warning) else .failed

end Conversion

end ColumnFormula
