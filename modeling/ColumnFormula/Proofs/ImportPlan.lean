import Mathlib
import ColumnFormula.Proofs.ColumnMapping
import ColumnFormula.Proofs.RegistryLookup
import ColumnFormula.Workbook.Basic

namespace ColumnFormula

namespace Workbook

theorem map_zipIdx_eq_map {α β : Type} {xs : List α} {f : α × Nat → β} {g : α → β}
    (h : ∀ i x, xs[i]? = some x → f (x, i) = g x) : xs.zipIdx.map f = xs.map g := by
  conv_rhs => rw [← List.zipIdx_map_fst 0 xs, List.map_map]
  apply List.map_congr_left
  rintro ⟨x, i⟩ hx
  exact h i x (List.mem_zipIdx_iff_getElem?.mp hx)

theorem tableNames_length (sheets : List Sheet) (given : Option (List Text)) :
    (tableNames sheets given).length = sheets.length := by
  have hmade : (tableNames.made sheets).length = sheets.length := by
    simp [tableNames.made, Identifier.Picker.pickAllTables_length]
  cases given with
  | none => exact hmade
  | some names =>
      simp only [tableNames]
      split
      · assumption
      · exact hmade

theorem columns_getElem?_eq_some_iff {sheet : Sheet} {k : Nat} {c : Sheet.Column} :
    sheet.columns[k]? = some c ↔
      ∃ header, sheet.headers[k]? = some header ∧ sheet.describe header k = c := by
  simp [Sheet.columns]

theorem convertSheet_columns_getElem?_eq_some_iff {sheet : Sheet} {t : Converter} {k : Nat}
    {column : Plan.Column} :
    (convertSheet sheet t).1.columns[k]? = some column ↔
      ∃ header, sheet.headers[k]? = some header ∧
        (planColumn sheet t (sheet.describe header k)).column = column := by
  simp [convertSheet, Sheet.columns]

theorem planColumn_identifier (sheet : Sheet) (t : Converter) (c : Sheet.Column) :
    (planColumn sheet t c).column.identifier = (t.mapping.at? c.place).getD c.name := by
  rw [planColumn]
  split <;> rfl

theorem convertSheet_identifiers {sheet : Sheet} {t : Converter}
    (h : t.mapping.identifiers.length = sheet.headers.length) :
    (convertSheet sheet t).1.columns.map (·.identifier) = t.mapping.identifiers := by
  apply List.ext_getElem?
  intro k
  rw [List.getElem?_map]
  cases hheader : sheet.headers[k]? with
  | none =>
      have hk := List.getElem?_eq_none_iff.mp hheader
      have hcolumns : (convertSheet sheet t).1.columns[k]? = none :=
        List.getElem?_eq_none (by simpa [convertSheet, Sheet.columns] using hk)
      rw [hcolumns, List.getElem?_eq_none (h ▸ hk), Option.map_none]
  | some header =>
      obtain ⟨hk, -⟩ := List.getElem?_eq_some_iff.mp hheader
      rw [convertSheet_columns_getElem?_eq_some_iff.mpr ⟨header, hheader, rfl⟩, Option.map_some,
        planColumn_identifier, Mapping.at?, Sheet.describe, List.getElem?_eq_getElem (h ▸ hk)]
      rfl

theorem registry_getElem?_eq_some_iff {options : Options} {sheets : List Sheet} {names : List Text}
    {j : Nat} {own : Text} {m : Mapping} :
    (registry options sheets names).sheets[j]? = some (own, m) ↔
      ∃ sheet table, sheets[j]? = some sheet ∧ names[j]? = some table ∧
        sheet.name = own ∧ mappingOf options sheet table = m := by
  simp [registry, List.getElem?_zipWith_eq_some]

theorem tables_getElem?_eq_some_iff {sheets : List Sheet} {options : Options}
    {given : Option (List Text)} {j : Nat} {table : Plan.Table} :
    (convert sheets options given).plan.tables[j]? = some table ↔
      ∃ sheet name, sheets[j]? = some sheet ∧ (tableNames sheets given)[j]? = some name ∧
        (convertAt options (registry options sheets (tableNames sheets given)) j sheet
          (mappingOf options sheet name)).1 = table := by
  simp [convert, List.getElem?_zipIdx, List.getElem?_zip_eq_some, and_assoc]

theorem tables_name (sheets : List Sheet) (options : Options) (given : Option (List Text)) :
    (convert sheets options given).plan.tables.map (·.name) = tableNames sheets given := by
  rw [convert, List.map_map, List.map_map]
  refine (map_zipIdx_eq_map fun _ _ _ => rfl).trans ?_
  exact List.map_snd_zip (tableNames_length sheets given).le

theorem tables_length (sheets : List Sheet) (options : Options) (given : Option (List Text)) :
    (convert sheets options given).plan.tables.length = sheets.length := by
  simp [convert, tableNames_length]

end Workbook

end ColumnFormula
