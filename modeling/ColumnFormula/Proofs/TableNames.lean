import ColumnFormula.Proofs.ImportPlan

namespace ColumnFormula

open Identifier

namespace Workbook

theorem made_isValid {sheets : List Sheet} {name : Text} (h : name ∈ tableNames.made sheets) :
    isValid name ∧ isReserved name = false := by
  rw [tableNames.made, Picker.pickAllTables_eq_answerAll] at h
  obtain ⟨picked, hpicked, rfl⟩ := List.mem_map.mp h
  obtain ⟨hvalid, hfree⟩ := Picker.answerAll_isFree picked hpicked
  exact ⟨hvalid, (Picker.isFree_iff.mp hfree).1⟩

theorem made_pairwise (sheets : List Sheet) :
    (tableNames.made sheets).Pairwise fun a b => Text.sameIgnoringCase a b = false := by
  rw [tableNames.made, Picker.pickAllTables_eq_answerAll, List.pairwise_map]
  exact Picker.answerAll_pairwise _ _

theorem columns_acceptable {sheets : List Sheet} {options : Options} {given : Option (List Text)}
    {table : Plan.Table} {column : Plan.Column}
    (htable : table ∈ (convert sheets options given).plan.tables)
    (hcolumn : column ∈ table.columns) :
    Acceptable options.reservedWords column.identifier := by
  obtain ⟨position, hposition⟩ := List.mem_iff_getElem?.mp htable
  obtain ⟨sheet, name, -, -, rfl⟩ := tables_getElem?_eq_some_iff.mp hposition
  let t := converter options (registry options sheets (tableNames sheets given)) sheet
    (mappingOf options sheet name)
  have hidentifiers : (convertSheet sheet t).1.columns.map (·.identifier) =
      (mappingOf options sheet name).identifiers :=
    convertSheet_identifiers (Mapping.ofHeadersAt_identifiers_length _ _ _)
  have hmem : column.identifier ∈ (mappingOf options sheet name).identifiers :=
    hidentifiers ▸ List.mem_map_of_mem hcolumn
  exact Mapping.ofHeadersAt_acceptable sheet.headers sheet.firstColumn hmem

/-- Tables that are given no names get valid ones, none of which is reserved for every
destination, and no two the same in any case. The options have no say in them; the words that
these reserve are kept free by the identifiers of columns. -/
theorem convert_names (sheets : List Sheet) (options : Options) :
    let tables := (convert sheets options none).plan.tables
    (∀ table ∈ tables, isValid table.name ∧ isReserved table.name = false) ∧
      (tables.Pairwise fun a b => Text.sameIgnoringCase a.name b.name = false) ∧
      (∀ options', (convert sheets options' none).plan.tables.map (·.name) = tables.map (·.name)) ∧
      ∀ table ∈ tables, ∀ column ∈ table.columns,
        Acceptable options.reservedWords column.identifier := by
  intro tables
  have hnames : tables.map (·.name) = tableNames.made sheets := tables_name sheets options none
  refine ⟨?_, ?_, ?_, ?_⟩
  · intro table htable
    exact made_isValid (hnames ▸ List.mem_map_of_mem htable)
  · have hpairwise := made_pairwise sheets
    rwa [← hnames, List.pairwise_map] at hpairwise
  · intro options'
    rw [hnames]
    exact tables_name sheets options' none
  · intro table htable column hcolumn
    exact columns_acceptable htable hcolumn

/-- A table gets the name that the options reserve; a column of it does not. -/
theorem convert_names_reserved :
    let sheet : Sheet :=
      { name := "status".toList
        headers := ["Status".toList]
        rows := []
        firstColumn := 0
        firstDataRow := 2 }
    let options : Options := { reservedWords := ["Status".toList] }
    ∃ table column, (convert [sheet] options none).plan.tables = [table] ∧
      table.columns = [column] ∧
      table.name ∈ options.reservedWords ∧ column.identifier = "Status2".toList := by
  intro sheet options
  let column : Plan.Column := ⟨"Status2".toList, "Status".toList, .values []⟩
  let warning :=
    "Column A: 'Status' is a reserved name; 'Status' renamed to 'Status2'".toList
  refine ⟨⟨"Status".toList, "status".toList, [column], [warning]⟩, column, ?_, rfl, ?_, rfl⟩
  · decide +kernel
  · decide

end Workbook

end ColumnFormula
