import ColumnFormula.Failure
import ColumnFormula.Files
import ColumnFormula.Options.Yaml
import ColumnFormula.Plan.Render
import ColumnFormula.Sheet.Json

/-!
The formats of files. What a program does with options, sheets and plans does not depend on how
these are read and written, so it is given a reader or a writer for each. Those of this library
read JSON, a part of YAML, and no spreadsheets but those whose worksheets are known.
-/

namespace ColumnFormula

/-- Readers of documents and spreadsheets, and writers of plans. -/
structure Formats where
  /-- The options in a YAML document, not yet checked for faults. -/
  options? : Text → Option Options
  /-- The sheets in a JSON document. -/
  drafts? : Text → Option (List Sheet.Draft)
  /-- The worksheets in a file that is opened as a spreadsheet, by its path and what it holds. -/
  ranges? : Text → File → Option (List Worksheet.Ranges)
  /-- A plan as YAML text. -/
  yaml? : Plan → Option Text
  /-- A plan as JSON text, without a line end. -/
  json? : Plan → Option Text

namespace Formats

/-- Whether a path is that of a spreadsheet in a format that is not known here. This is told from
the extension, in just this case of its letters. -/
def isUnknown (path : Text) : Bool :=
  ["xls", "xla", "xlsb", "ods"].any fun e => Path.extension? path = some e.toList

/-- The readers and writers of this library. -/
def builtIn : Formats where
  options? := Options.parse?
  drafts? := Sheet.Draft.parseAll?
  ranges? path file :=
    match isUnknown path, file with
    | false, .spreadsheet worksheets => some (worksheets.map Worksheet.ranges)
    | _, _ => none
  yaml? p := some p.toYaml
  json? p := some p.toJson

/-- A plan as it is written in a format. -/
def write (formats : Formats) (format : Format) (p : Plan) : Except Failure Text :=
  match format with
  | .yaml =>
    match formats.yaml? p with
    | some content => .ok content
    | none => .error .yaml
  | .json =>
    match formats.json? p with
    | some content => .ok (content ++ ['\n'])
    | none => .error .json

theorem builtIn_write (format : Format) (p : Plan) :
    builtIn.write format p = .ok (p.render format) := by
  cases format <;> rfl

end Formats

end ColumnFormula
