import ColumnFormula.Command.Basic
import ColumnFormula.Converter

namespace ColumnFormula.Command

/-- What converting a formula is asked with. -/
structure ConvertArgs where
  formula : Text
  columns : List Text
  table : Option Text := none
  config : Option Text := none
  verbose : Bool := false
deriving DecidableEq

def mappingLines (m : Mapping) : List Text :=
  ["🗺️  Column mapping:".toList]
    ++ m.entries.map (fun (letters, s) => line ["   ".toList, letters, " → ".toList, s])
    ++ m.warnings.map ("   ".toList ++ ·) ++ [[]]

def conversionLines (c : Conversion) : List Text :=
  ["   Excel:  ".toList ++ c.formula]
    ++ (if c.success then ["   Column: ".toList ++ c.output] else [])
    ++ c.warnings.map ("   ⚠️ ".toList ++ ·)

/-- The failure of a conversion, told by its warning. -/
def conversionFailure? (c : Conversion) : Option Failure :=
  if c.success then none else some (.conversion (c.warnings.headD []))

/-- The options of the command, checked for faults. -/
def convertOptions (files : Files) (args : ConvertArgs) (formats : Formats) :
    Except Failure Options := do
  let loaded ← Options.loadFrom files args.config formats
  let options :=
    match args.table with
    | some table => loaded.withTableName table
    | none => loaded
  match options.fault? with
  | some fault => .error (.config fault)
  | none => .ok options

/-- Converts a formula that refers to columns with the given headers. -/
def convert (files : Files) (args : ConvertArgs) (formats : Formats := .builtIn) : Run :=
  match convertOptions files args formats with
  | .error failure => ⟨[], files, some failure⟩
  | .ok options =>
    let m := Mapping.ofHeaders args.columns options
    let c := (Converter.ofOptions m options).convert args.formula
    let output := lines ((if args.verbose then mappingLines m else []) ++ conversionLines c)
    ⟨output, files, conversionFailure? c⟩

end ColumnFormula.Command
