import ColumnFormula.Command.Basic
import ColumnFormula.Workbook.Import

namespace ColumnFormula

/-- The format that a path asks for by its extension, or a default. -/
def Format.ofPath (path : Option Text) (default : Format) : Format :=
  match path with
  | none => default
  | some path =>
    if Path.hasExtension path "json" then .json
    else if Path.hasExtension path "yaml" || Path.hasExtension path "yml" then .yaml
    else default

namespace Command

/-- What importing a workbook is asked with. -/
structure ImportArgs where
  input : Text
  output : Option Text := none
  format : Option Format := none
  table : Option Text := none
  sheet : Option Text := none
  config : Option Text := none
  verbose : Bool := false
deriving DecidableEq

def bannerLines (args : ImportArgs) : List Text :=
  ["📥 Formport - Workbook Import".toList, "   Input:  ".toList ++ args.input]
    ++ (args.output.map ("   Output: ".toList ++ ·)).toList ++ [[]]
    ++ (if args.verbose then ["📖 Reading workbook...".toList] else [])

def columnLine (c : Plan.Column) : Text :=
  let kind := if c.isFormula then "formula" else "data"
  line ["      ".toList, c.identifier, " (".toList, c.label, ") [".toList, kind.toList, "]".toList]

/-- The sign in front of a converted column. -/
def marker : Conversion.Status → Text
  | .success => "✅".toList
  | .warning => "⚠️".toList
  | .failed => "❌".toList

def entryLines (e : Report.Entry) : List Text :=
  [line ["      ".toList, marker e.status, " ".toList, e.column],
      "         Excel:  ".toList ++ e.result.formula]
    ++ (if e.result.success then ["         Column: ".toList ++ e.result.output] else [])
    ++ e.result.warnings.map ("         ".toList ++ ·)

def sheetLines (verbose : Bool) (r : SheetReport) (t : Plan.Table) : List Text :=
  [line ["   📊 Sheet ".toList, r.sheet, " → table ".toList, r.table]]
    ++ (if verbose then t.columns.map columnLine else [])
    ++ t.warnings.map ("      ⚠️ ".toList ++ ·) ++ r.report.entries.flatMap entryLines ++ [[]]

def summaryLines (s : Report.Summary) : List Text :=
  ["📋 Formula columns:".toList, "   Total:         ".toList ++ Text.ofNat s.total,
    "   Converted:     ".toList ++ Text.ofNat s.successful,
    "   With warnings: ".toList ++ Text.ofNat s.withWarnings,
    "   Failed:        ".toList ++ Text.ofNat s.failed, []]

def outcomeLines (verbose : Bool) (o : Outcome) : List Text :=
  (List.zipWith (sheetLines verbose) o.reports o.plan.tables).flatten ++ summaryLines o.summary

/-- The failure of an import that finds no sheet. -/
def nothingFound (sheet : Option Text) : Failure :=
  .excel (match sheet with
    | some name => .noSuchSheet name
    | none => .noSheets)

/-- The outcome of an import, which must have a table. -/
def outcome (files : Files) (args : ImportArgs) (options : Options) (formats : Formats) :
    Except Failure Outcome := do
  let o ← Workbook.importFrom files args.input options args.sheet args.table formats
  if o.plan.tables = [] then .error (nothingFound args.sheet) else .ok o

/-- The format that is asked for, or the one that the output file has by its extension. -/
def ImportArgs.outputFormat (args : ImportArgs) : Format :=
  args.format.getD (Format.ofPath args.output .yaml)

/-- Imports a workbook, and writes the plan to a file or prints it. Everything else that can fail
comes before the writing. -/
def importWorkbook (files : Files) (args : ImportArgs) (formats : Formats := .builtIn) : Run :=
  match Options.loadFrom files args.config formats with
  | .error failure => ⟨[], files, some failure⟩
  | .ok options =>
    match outcome files args options formats with
    | .error failure => ⟨lines (bannerLines args), files, some failure⟩
    | .ok o =>
      let report := lines (bannerLines args ++ outcomeLines args.verbose o)
      match formats.write args.outputFormat o.plan with
      | .error failure => ⟨report, files, some failure⟩
      | .ok rendered =>
        match args.output with
        | none => ⟨report ++ rendered, files, none⟩
        | some path =>
          let writing :=
            if args.verbose then lines ["💾 Writing import plan...".toList] else []
          match files.write? path rendered with
          | none => ⟨report ++ writing, files, some .io⟩
          | some written =>
            ⟨report ++ writing
                ++ lines ["✅ Import plan written".toList, "   File: ".toList ++ path, []],
              written, none⟩

end Command

end ColumnFormula
