import ColumnFormula.Proofs.ImportPlan
import ColumnFormula.Proofs.ReportCounts
import ColumnFormula.Proofs.TokenReplacement

namespace ColumnFormula

theorem Cell.formula?_eq_some_iff {c : Cell} {formula : Text} :
    c.formula? = some formula ↔ c.kind = .formula ∧ c.formula = some formula := by
  rw [Cell.formula?]
  cases c.kind with
  | formula => simp
  | value => simp

/-- The cell at a place of the first row of data is a formula cell, and it has this formula. -/
def Sheet.HasFormula (s : Sheet) (place : Nat) (formula : Text) : Prop :=
  ∃ row cell, s.rows.head? = some row ∧ row[place]? = some cell ∧
    cell.kind = .formula ∧ cell.formula = some formula

theorem Sheet.describe_formula_eq_some_iff {s : Sheet} (header : Text) {formula : Text}
    {place : Nat} :
    (s.describe header place).formula = some formula ↔ s.HasFormula place formula := by
  simp only [describe, HasFormula, Option.bind_eq_some_iff, Cell.formula?_eq_some_iff]
  constructor
  · rintro ⟨cell, ⟨row, hrow, hcell⟩, hformula⟩
    exact ⟨row, cell, hrow, hcell, hformula⟩
  · rintro ⟨row, cell, hrow, hcell, hformula⟩
    exact ⟨cell, ⟨row, hrow, hcell⟩, hformula⟩

namespace Workbook

/-- What the formulas of a sheet are converted with, when the sheets of the workbook become tables
of given names. -/
def sheetConverter (options : Options) (sheets : List Sheet) (names : List Text) (sheet : Sheet)
    (name : Text) : Converter :=
  converter options (registry options sheets names) sheet (mappingOf options sheet name)

def firstRowConversion (sheet : Sheet) (t : Converter) (formula : Text) : Conversion :=
  t.convert formula (some sheet.firstDataRow)

/-- A column of a table holds what the column at a place of the sheet held: the conversion of its
formula if that succeeds, and otherwise its values. -/
structure Holds (sheet : Sheet) (t : Converter) (place : Nat) (column : Plan.Column) : Prop where
  isFormula_iff : column.isFormula ↔
    ∃ formula, sheet.HasFormula place formula ∧ (firstRowConversion sheet t formula).success
  formula : ∀ formula, column.isFormula → sheet.HasFormula place formula →
    column.formula? = some (firstRowConversion sheet t formula).output ∧ column.values = []
  values : ¬ column.isFormula → column.formula? = none ∧
    column.values.length = sheet.rows.length ∧
      ∀ (i : Nat) (row : List Cell), sheet.rows[i]? = some row →
        column.values[i]? = some ((row[place]?.map Cell.value).getD .empty)

/-- The entries about the formula columns of a sheet, in order. -/
def entriesOf (sheet : Sheet) (t : Converter) : List Report.Entry :=
  sheet.columns.filterMap fun c =>
    c.formula.map fun formula => ⟨c.name, firstRowConversion sheet t formula⟩

/-- A table and a report account for every column of a sheet. -/
structure Accounts (sheet : Sheet) (t : Converter) (table : Plan.Table) (report : SheetReport) :
    Prop where
  sheet_eq : table.sheet = sheet.name ∧ report.sheet = sheet.name
  table_eq : report.table = table.name
  labels : table.columns.map (·.label) = sheet.headers
  columns : ∀ place column, table.columns[place]? = some column → Holds sheet t place column
  entries : report.report.entries = entriesOf sheet t

/-- How many formula columns of a sheet have become data columns. -/
def keptCount (sheet : Sheet) (columns : List Plan.Column) : Nat :=
  (sheet.columns.zip columns).countP fun (source, column) => source.isFormula && !column.isFormula

variable {sheet : Sheet} {t : Converter}

theorem planColumn_label (c : Sheet.Column) : (planColumn sheet t c).column.label = c.name := by
  rw [planColumn]
  split <;> rfl

theorem planColumn_reported (c : Sheet.Column) :
    (planColumn sheet t c).reported =
      c.formula.map fun formula => ⟨c.name, firstRowConversion sheet t formula⟩ := by
  cases hformula : c.formula <;> simp [planColumn, Planned.reported, hformula, firstRowConversion]

theorem planColumn_of_success {c : Sheet.Column} {formula : Text}
    (hformula : c.formula = some formula)
    (hsuccess : (firstRowConversion sheet t formula).success = true) :
    (planColumn sheet t c).column.content =
      .formula (firstRowConversion sheet t formula).output formula := by
  rw [firstRowConversion] at hsuccess
  simp only [planColumn, hformula, hsuccess, if_true, Converter.convert_formula, firstRowConversion]

theorem planColumn_of_not_success {c : Sheet.Column}
    (h : ∀ formula, c.formula = some formula →
      (firstRowConversion sheet t formula).success = false) :
    (planColumn sheet t c).column.content = .values (sheet.values c.place) := by
  rw [planColumn]
  split
  · rfl
  · rename_i formula hformula
    have hsuccess := h formula hformula
    rw [firstRowConversion] at hsuccess
    simp only [hsuccess, Bool.false_eq_true, if_false]

theorem planColumn_isFormula (c : Sheet.Column) :
    (planColumn sheet t c).column.isFormula =
      c.formula.any fun formula => (firstRowConversion sheet t formula).success := by
  rw [Plan.Column.isFormula, Plan.Column.formula?]
  cases hformula : c.formula with
  | none =>
      rw [planColumn_of_not_success (by simp [hformula])]
      rfl
  | some formula =>
      rw [Option.any_some]
      cases hsuccess : (firstRowConversion sheet t formula).success with
      | true =>
          rw [planColumn_of_success hformula hsuccess]
          rfl
      | false =>
          rw [planColumn_of_not_success (by simpa [hformula] using hsuccess)]
          rfl

theorem values_getElem? {place i : Nat} {row : List Cell} (h : sheet.rows[i]? = some row) :
    (sheet.values place)[i]? = some ((row[place]?.map Cell.value).getD .empty) := by
  rw [Sheet.values, List.getElem?_map, h, Option.map_some]

theorem holds_planColumn (header : Text) (place : Nat) :
    Holds sheet t place (planColumn sheet t (sheet.describe header place)).column := by
  have hisFormula : (planColumn sheet t (sheet.describe header place)).column.isFormula ↔
      ∃ formula, sheet.HasFormula place formula ∧ (firstRowConversion sheet t formula).success := by
    simp only [planColumn_isFormula, Option.any_eq_true, Sheet.describe_formula_eq_some_iff]
  constructor
  case isFormula_iff => exact hisFormula
  case formula =>
    intro formula h hformula
    rw [← Sheet.describe_formula_eq_some_iff header] at hformula
    rw [planColumn_isFormula, hformula, Option.any_some] at h
    rw [Plan.Column.formula?, Plan.Column.values, planColumn_of_success hformula h]
    exact ⟨rfl, rfl⟩
  case values =>
    intro h
    have hcontent : (planColumn sheet t (sheet.describe header place)).column.content =
        .values (sheet.values place) := by
      apply planColumn_of_not_success
      intro formula hformula
      rw [Sheet.describe_formula_eq_some_iff] at hformula
      by_contra hsuccess
      exact h (hisFormula.mpr ⟨formula, hformula, by simpa using hsuccess⟩)
    rw [Plan.Column.formula?, Plan.Column.values, hcontent]
    exact ⟨rfl, List.length_map _, fun i row hrow => values_getElem? hrow⟩

theorem convertSheet_columns :
    (convertSheet sheet t).1.columns =
      sheet.columns.map fun c => (planColumn sheet t c).column := by
  rw [convertSheet, List.map_map]
  rfl

theorem convertSheet_labels : (convertSheet sheet t).1.columns.map (·.label) = sheet.headers := by
  rw [convertSheet_columns, Sheet.columns, List.map_map, List.map_map]
  refine Eq.trans (List.map_congr_left fun pair _ => ?_) (List.zipIdx_map_fst 0 sheet.headers)
  exact planColumn_label _

theorem convertSheet_entries : (convertSheet sheet t).2.entries = entriesOf sheet t := by
  change (sheet.columns.map (planColumn sheet t)).filterMap Planned.reported = _
  rw [List.filterMap_map, entriesOf]
  exact List.filterMap_congr fun c _ => planColumn_reported c

theorem accounts_convertAt (options : Options) (all : Registry) (position : Nat) (sheet : Sheet)
    (m : Mapping) :
    Accounts sheet (converter options all sheet m) (convertAt options all position sheet m).1
      (convertAt options all position sheet m).2 where
  sheet_eq := ⟨rfl, rfl⟩
  table_eq := rfl
  labels := convertSheet_labels
  columns := by
    intro place column hcolumn
    obtain ⟨header, -, rfl⟩ := convertSheet_columns_getElem?_eq_some_iff.mp hcolumn
    exact holds_planColumn header place
  entries := convertSheet_entries

theorem entriesOf_length : (entriesOf sheet t).length = sheet.formulaCount := by
  rw [entriesOf, List.length_filterMap_eq_countP, Sheet.formulaCount]
  congr 1
  funext c
  exact Option.isSome_map

theorem entriesOf_countP (p : Bool → Bool) :
    (entriesOf sheet t).countP (fun e => p e.result.success) =
      sheet.columns.countP fun c =>
        c.isFormula && p ((planColumn sheet t c).column.isFormula) := by
  rw [entriesOf, List.countP_filterMap]
  congr 1
  funext c
  rw [planColumn_isFormula, Sheet.Column.isFormula]
  cases c.formula <;> rfl

theorem entriesOf_succeeded :
    (entriesOf sheet t).countP (·.result.success) =
      (convertSheet sheet t).1.formulaColumns.length := by
  refine (entriesOf_countP id).trans ?_
  rw [Plan.Table.formulaColumns, ← List.countP_eq_length_filter, convertSheet_columns,
    List.countP_map]
  congr 1
  funext c
  rw [Function.comp_apply, planColumn_isFormula, Sheet.Column.isFormula]
  cases c.formula <;> rfl

theorem entriesOf_failed :
    (entriesOf sheet t).countP (!·.result.success) =
      keptCount sheet (convertSheet sheet t).1.columns := by
  have hzip : sheet.columns.zip (sheet.columns.map fun c => (planColumn sheet t c).column) =
      sheet.columns.map fun c => (c, (planColumn sheet t c).column) := by
    simpa using List.zip_map' (l := sheet.columns) (f := id)
      (g := fun c => (planColumn sheet t c).column)
  rw [entriesOf_countP not, keptCount, convertSheet_columns, hzip, List.countP_map]
  rfl

variable (sheets : List Sheet) (options : Options) (given : Option (List Text))

theorem exists_convertAt {position : Nat} {sheet : Sheet} (h : sheets[position]? = some sheet) :
    ∃ name, (tableNames sheets given)[position]? = some name ∧
      (convert sheets options given).plan.tables[position]? =
        some (convertAt options (registry options sheets (tableNames sheets given)) position sheet
          (mappingOf options sheet name)).1 ∧
      (convert sheets options given).reports[position]? =
        some (convertAt options (registry options sheets (tableNames sheets given)) position sheet
          (mappingOf options sheet name)).2 := by
  obtain ⟨hposition, -⟩ := List.getElem?_eq_some_iff.mp h
  rw [← tableNames_length sheets given] at hposition
  have hname := List.getElem?_eq_getElem hposition
  have hpair : (sheets.zip (tableNames sheets given))[position]? = some (sheet, _) :=
    List.getElem?_zip_eq_some.mpr ⟨h, hname⟩
  refine ⟨_, hname, ?_, ?_⟩ <;> simp [convert, List.getElem?_zipIdx, hpair]

theorem tables_columns :
    (convert sheets options given).plan.tables.map (·.columns) =
      (sheets.zip (tableNames sheets given)).map fun pair => (convertSheet pair.1
        (sheetConverter options sheets (tableNames sheets given) pair.1 pair.2)).1.columns := by
  rw [convert, List.map_map, List.map_map]
  exact map_zipIdx_eq_map fun _ _ _ => rfl

theorem map_entries {β : Type} (f : List Report.Entry → β) :
    (convert sheets options given).reports.map (fun r => f r.report.entries) =
      (sheets.zip (tableNames sheets given)).map fun pair => f (entriesOf pair.1
        (sheetConverter options sheets (tableNames sheets given) pair.1 pair.2)) := by
  rw [convert, List.map_map, List.map_map]
  exact map_zipIdx_eq_map fun _ _ _ => congrArg f convertSheet_entries

theorem map_fst_pairs : (sheets.zip (tableNames sheets given)).map Prod.fst = sheets :=
  List.map_fst_zip (tableNames_length sheets given).ge

theorem convert_total :
    (convert sheets options given).summary.total = (sheets.map (·.formulaCount)).sum := by
  have hsheets : sheets.map (·.formulaCount) =
      (sheets.zip (tableNames sheets given)).map fun pair => pair.1.formulaCount := by
    conv_lhs => rw [← map_fst_pairs sheets given, List.map_map]
    rfl
  rw [Outcome.summary_eq, Report.summary_total, List.length_flatMap,
    map_entries sheets options given List.length, hsheets]
  simp only [entriesOf_length]

theorem convert_succeeded :
    (convert sheets options given).summary.successful +
        (convert sheets options given).summary.withWarnings =
      ((convert sheets options given).plan.tables.map (·.formulaColumns.length)).sum := by
  have htables : (convert sheets options given).plan.tables.map (·.formulaColumns.length) =
      ((convert sheets options given).plan.tables.map (·.columns)).map
        fun columns => (columns.filter (·.isFormula)).length := by
    rw [List.map_map]
    rfl
  rw [Outcome.summary_eq, Report.summary_succeeded, List.countP_flatMap, htables, tables_columns,
    List.map_map]
  refine congrArg List.sum ((map_entries sheets options given _).trans ?_)
  exact List.map_congr_left fun pair _ => entriesOf_succeeded

theorem convert_failed :
    (convert sheets options given).summary.failed =
      (List.zipWith keptCount sheets
        ((convert sheets options given).plan.tables.map (·.columns))).sum := by
  have hzip : ∀ columns : Sheet × Text → List Plan.Column,
      List.zipWith keptCount sheets ((sheets.zip (tableNames sheets given)).map columns) =
        (sheets.zip (tableNames sheets given)).map fun pair => keptCount pair.1 (columns pair) := by
    intro columns
    calc
      _ = List.zipWith keptCount ((sheets.zip (tableNames sheets given)).map Prod.fst)
          ((sheets.zip (tableNames sheets given)).map columns) := by rw [map_fst_pairs]
      _ = _ := by rw [List.zipWith_map, List.zipWith_self]
  rw [Outcome.summary_eq, Report.summary_failed, List.countP_flatMap, tables_columns, hzip]
  refine congrArg List.sum ((map_entries sheets options given _).trans ?_)
  exact List.map_congr_left fun pair _ => entriesOf_failed

/-- Every sheet has a table and a report, in order, which account for all its columns, and the
counts of the outcome are the numbers of formula columns found, converted and kept as data. -/
theorem convert_accounts :
    let outcome := convert sheets options given
    let names := tableNames sheets given
    outcome.plan.tables.length = sheets.length ∧ outcome.reports.length = sheets.length ∧
      (∀ (position : Nat) (sheet : Sheet), sheets[position]? = some sheet →
        ∃ name table report, names[position]? = some name ∧
          outcome.plan.tables[position]? = some table ∧
          outcome.reports[position]? = some report ∧ table.name = name ∧
          Accounts sheet (sheetConverter options sheets names sheet name) table report) ∧
      outcome.summary.total = (sheets.map (·.formulaCount)).sum ∧
      outcome.summary.successful + outcome.summary.withWarnings =
        (outcome.plan.tables.map (·.formulaColumns.length)).sum ∧
      outcome.summary.failed =
        (List.zipWith keptCount sheets (outcome.plan.tables.map (·.columns))).sum := by
  intro outcome names
  refine ⟨tables_length sheets options given, ?_, ?_, convert_total sheets options given,
    convert_succeeded sheets options given, convert_failed sheets options given⟩
  · simp [outcome, convert, tableNames_length]
  · intro position sheet hsheet
    obtain ⟨name, hname, htable, hreport⟩ := exists_convertAt sheets options given hsheet
    exact ⟨name, _, _, hname, htable, hreport, rfl, accounts_convertAt ..⟩

/-- One formula is converted, another one is not and keeps the values of its column, and a cell with
a formula that is no formula cell counts as a value. -/
theorem convert_accounts_mixed :
    let sheet : Sheet :=
      { name := "Orders".toList
        headers := ["Price".toList, "Total".toList, "Note".toList]
        rows := [
          [{ value := .text "six".toList, formula := some "=1".toList, kind := .value,
             address := "A2".toList },
            .ofFormula "=A2*2".toList (.text "twelve".toList) "B2".toList,
            .ofFormula "=\"".toList (.text "open".toList) "C2".toList],
          [.ofValue (.text "seven".toList) "A3".toList]]
        firstColumn := 0
        firstDataRow := 2 }
    let outcome := convert [sheet] {} none
    let names := tableNames [sheet] none
    sheet.HasFormula 1 "=A2*2".toList ∧ sheet.HasFormula 2 "=\"".toList ∧
      (¬ ∃ formula, sheet.HasFormula 0 formula) ∧
      outcome.plan.tables.map (·.columns.map (·.content)) =
        [[.values [.text "six".toList, .text "seven".toList],
          .formula "$Price * 2".toList "=A2*2".toList, .values [.text "open".toList, .empty]]] ∧
      (outcome.summary.total, outcome.summary.failed) = (2, 1) ∧
      (∃ name table report, names[0]? = some name ∧ outcome.plan.tables[0]? = some table ∧
        outcome.reports[0]? = some report ∧ table.name = name ∧
        Accounts sheet (sheetConverter {} [sheet] names sheet name) table report) ∧
      outcome.summary.failed =
        (List.zipWith keptCount [sheet] (outcome.plan.tables.map (·.columns))).sum := by
  intro sheet outcome names
  obtain ⟨-, -, haccounts, -, -, hfailed⟩ := convert_accounts [sheet] {} none
  refine ⟨⟨_, _, rfl, rfl, rfl, rfl⟩, ⟨_, _, rfl, rfl, rfl, rfl⟩, ?_, ?_, ?_,
    haccounts 0 sheet rfl, hfailed⟩
  · rintro ⟨formula, row, cell, ⟨⟩, ⟨⟩, hkind, -⟩
    cases hkind
  · decide +kernel
  · decide +kernel

end Workbook

end ColumnFormula
