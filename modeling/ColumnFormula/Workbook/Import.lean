import ColumnFormula.Formats
import ColumnFormula.Workbook.Basic

namespace ColumnFormula.Workbook

/-- The sheets in the file at a path. A file with the extension `json` is a JSON document, any
other is opened as a spreadsheet; of a spreadsheet, worksheets without values are left out. -/
def read (files : Files) (path : Text) (headerRows : Nat) (formats : Formats := .builtIn) :
    Except Failure (List Sheet) :=
  if Path.hasExtension path "json" then
    match files.read? path with
    | none => .error .io
    | some document =>
      match formats.drafts? document with
      | some drafts => .ok (drafts.map (·.sheet))
      | none => .error .json
  else
    match (files.get? path).bind (formats.ranges? path) with
    | some ranges => .ok (ranges.filterMap (·.sheet? headerRows))
    | none => .error (.excel (.unreadable path))

/-- The sheets that are asked for by name, in any case of its ASCII letters. -/
def choose (sheet : Option Text) (sheets : List Sheet) : List Sheet :=
  match sheet with
  | none => sheets
  | some name => sheets.filter fun s => Text.sameIgnoringCase s.name name

/-- Imports the workbook at a path, or one sheet of it. A table name counts only for a single
sheet. -/
def importFrom (files : Files) (path : Text) (options : Options) (sheet table : Option Text)
    (formats : Formats := .builtIn) : Except Failure Outcome := do
  let sheets := choose sheet (← read files path options.headerRows formats)
  return convert sheets options (if sheets.length = 1 then table.map ([·]) else none)

end ColumnFormula.Workbook
