import ColumnFormula.Plan.Basic
import ColumnFormula.Report
import ColumnFormula.Sheet.Basic
import ColumnFormula.Converter

/-!
Converting a workbook: every sheet becomes a table. All mappings are built before any formula is
converted, so a formula may refer to any sheet.
-/

namespace ColumnFormula

/-- The report on one sheet. -/
structure SheetReport where
  sheet : Text
  table : Text
  report : Report
deriving DecidableEq

/-- A plan, and the report on each sheet. -/
structure Outcome where
  plan : Plan := {}
  reports : List SheetReport := []
deriving DecidableEq

/-- The counts of all sheets together. -/
def Outcome.summary (o : Outcome) : Report.Summary :=
  o.reports.foldl (fun s r => s.merge r.report.summary) {}

namespace Workbook

/-- A column of a sheet, planned, with the conversion of its formula if it has one. -/
structure Planned where
  source : Sheet.Column
  column : Plan.Column
  conversion : Option Conversion := none

/-- Plans one column. Its formula is converted in the first row of data; when that fails, the column
keeps its values. -/
def planColumn (sheet : Sheet) (t : Converter) (c : Sheet.Column) : Planned :=
  let identifier := (t.mapping.at? c.place).getD c.name
  let values := Plan.Content.values (sheet.values c.place)
  match c.formula with
  | none => ⟨c, ⟨identifier, c.name, values⟩, none⟩
  | some formula =>
    let r := t.convert formula (some sheet.firstDataRow)
    let content := if r.success then .formula r.output r.formula else values
    ⟨c, ⟨identifier, c.name, content⟩, some r⟩

/-- The entry of a planned column in the report. -/
def Planned.reported (p : Planned) : Option Report.Entry :=
  p.conversion.map fun r => ⟨p.source.name, r⟩

/-- The warning about a formula column that keeps its values. -/
def Planned.warning? (p : Planned) : Option Text :=
  match p.conversion with
  | none => none
  | some r =>
    if r.success then none
    else
      some ["Column ".toList, p.source.letters, " (".toList, p.source.name, "): formula '".toList,
        r.formula, "' not converted; imported as data".toList].flatten

/-- Converts one sheet to a table, with its report. -/
def convertSheet (sheet : Sheet) (t : Converter) : Plan.Table × Report :=
  let planned := sheet.columns.map (planColumn sheet t)
  ({ name := t.mapping.table
     sheet := sheet.name
     columns := planned.map (·.column)
     warnings := t.mapping.warnings ++ planned.filterMap Planned.warning? },
    ⟨planned.filterMap Planned.reported⟩)

/-- The names of the tables: those given, if there is one for each sheet, or else names made from
the sheets' names. -/
def tableNames (sheets : List Sheet) (given : Option (List Text)) : List Text :=
  match given with
  | some names => if names.length = sheets.length then names else made
  | none => made
where
  made : List Text :=
    (({} : Identifier.Picker).pickAllTables (sheets.map (·.name))).map (·.identifier)

/-- The mapping of a sheet that becomes a table of the given name. -/
def mappingOf (options : Options) (sheet : Sheet) (table : Text) : Mapping :=
  .ofHeadersAt sheet.headers sheet.firstColumn (options.withTableName table)

/-- The mappings of sheets, by sheet name. -/
def registry (options : Options) (sheets : List Sheet) (names : List Text) : Registry :=
  ⟨List.zipWith (fun sheet table => (sheet.name, mappingOf options sheet table)) sheets names⟩

def converter (options : Options) (sheets : Registry) (sheet : Sheet) (mapping : Mapping) :
    Converter :=
  ((Converter.ofOptions mapping options).withPlace sheet.name sheets).withFirstDataRow
    sheet.firstDataRow

/-- The warning about a sheet that has the name of an earlier one. -/
def shadowWarning? (sheets : Registry) (position : Nat) (name : Text) : Option Text :=
  match (sheets.positionOf? name).filter (· ≠ position) with
  | none => none
  | some first =>
    let other := (sheets.sheets[first]?.map (·.1)).getD []
    some ["Sheet '".toList, name, "' has the same name as sheet '".toList, other,
      "'; references to it from other sheets resolve to '".toList, other, "'".toList].flatten

/-- Converts the sheet at a position of a workbook. -/
def convertAt (options : Options) (sheets : Registry) (position : Nat) (sheet : Sheet)
    (mapping : Mapping) : Plan.Table × SheetReport :=
  let (table, report) := convertSheet sheet (converter options sheets sheet mapping)
  ({ table with warnings := table.warnings ++ (shadowWarning? sheets position sheet.name).toList },
    ⟨sheet.name, table.name, report⟩)

/-- Converts the sheets of a workbook, with table names if they are given. -/
def convert (sheets : List Sheet) (options : Options) (given : Option (List Text) := none) :
    Outcome :=
  let names := tableNames sheets given
  let all := registry options sheets names
  let converted := (List.zip sheets names).zipIdx.map fun ((sheet, table), position) =>
    convertAt options all position sheet (mappingOf options sheet table)
  ⟨⟨converted.map (·.1)⟩, converted.map (·.2)⟩

end Workbook

end ColumnFormula
