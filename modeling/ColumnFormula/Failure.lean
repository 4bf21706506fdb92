import ColumnFormula.Options.Basic

namespace ColumnFormula

/-- What is wrong with a workbook. -/
inductive Failure.Excel
  | unreadable (path : Text)
  | noSuchSheet (sheet : Text)
  | noSheets
deriving DecidableEq

/-- The reason for a failure. -/
inductive Failure
  | io
  | yaml
  | json
  | excel (cause : Failure.Excel)
  | config (fault : Options.Fault)
  /-- A formula that was not converted, with the warning that says why. -/
  | conversion (warning : Text)
deriving DecidableEq

namespace Failure

def Excel.message : Excel → Text
  | unreadable path => "Failed to open ".toList ++ path
  | noSuchSheet sheet => ["Sheet '".toList, sheet, "' not found or empty".toList].flatten
  | noSheets => "Workbook has no non-empty sheets".toList

def message : Failure → Text
  | io => "IO error".toList
  | yaml => "YAML error".toList
  | json => "JSON error".toList
  | excel cause => "Excel error: ".toList ++ cause.message
  | config fault => "Config error: ".toList ++ fault.message
  | conversion warning => warning

end Failure

end ColumnFormula
