import ColumnFormula.Proofs.ImportPlan
import ColumnFormula.Sheet.Json

namespace ColumnFormula

namespace Column

variable {first i : Nat}

theorem index?_letters_after_eq_some_iff :
    index? (letters (after first i)) = some (first + i) ↔ first + i + 1 < indexBound := by
  rw [index?_eq_some_iff, and_iff_right_iff_imp]
  intro hbound
  rw [after_of_lt (Nat.lt_of_succ_lt hbound)]

end Column

namespace Mapping

theorem ofHeadersAt_get?_after_iff {headers : List Text} {firstColumn i : Nat} {options : Options}
    {identifier : Text}
    (h : (ofHeadersAt headers firstColumn options).at? i = some identifier) :
    (ofHeadersAt headers firstColumn options).get? (Column.letters (Column.after firstColumn i)) =
        some identifier ↔ firstColumn + i + 1 < Column.indexBound := by
  constructor
  · intro hget
    obtain ⟨column, hindex, hle, hidentifier⟩ := get?_eq_some_iff.mp hget
    change firstColumn ≤ column at hle
    change _[column - firstColumn]? = _ at hidentifier
    have hplace : i = column - firstColumn := by
      by_contra hne
      have hdiffer := ofHeadersAt_sameIgnoringCase h hidentifier hne
      simp [Text.sameIgnoringCase] at hdiffer
    have hcolumn : column = firstColumn + i := by omega
    exact Column.index?_letters_after_eq_some_iff.mp (hcolumn ▸ hindex)
  · intro hbound
    rw [Column.after_of_lt (Nat.lt_of_succ_lt hbound)]
    exact get?_letters (m := ofHeadersAt headers firstColumn options) hbound h

end Mapping

namespace Sheet

theorem splitAddress?_column_lt {address : Text} {column row : Nat}
    (h : splitAddress? address = some (column, row)) :
    column + 1 < ColumnFormula.Column.indexBound := by
  simp only [splitAddress?, Option.bind_eq_bind] at h
  split at h
  · contradiction
  · simp only [Option.bind_eq_some_iff, Option.pure_def, Option.some.injEq, Prod.mk.injEq] at h
    obtain ⟨_, -, _, hindex, rfl, -⟩ := h
    exact (ColumnFormula.Column.index?_eq_some_iff.mp hindex).2

theorem ofRows_firstColumn_lt (name : Text) (headers : List Text) (rows : List (List Cell)) :
    (ofRows name headers rows).firstColumn + 1 < ColumnFormula.Column.indexBound := by
  simp only [ofRows]
  cases h : ((rows.head?.bind List.head?).map (·.address)).bind splitAddress? with
  | none => decide
  | some place =>
      obtain ⟨address, -, hsplit⟩ := Option.bind_eq_some_iff.mp h
      exact splitAddress?_column_lt hsplit

theorem exists_ofRows_of_parseAll? {document : Text} {sheets : List Sheet} {sheet : Sheet}
    (h : parseAll? document = some sheets) (hsheet : sheet ∈ sheets) :
    ∃ name headers rows, ofRows name headers rows = sheet := by
  obtain ⟨drafts, -, rfl⟩ := Option.map_eq_some_iff.mp h
  obtain ⟨draft, -, hdraft⟩ := List.mem_map.mp hsheet
  exact ⟨draft.name, draft.headers, draft.rows, hdraft⟩

/-- How the columns of a sheet are counted: on from the first one, which is not the last column that
there is. A column before the last one is read back from its letters, and by them its identifier is
found; the last one is not, and past it the count starts again. -/
structure Counted (sheet : Sheet) : Prop where
  first_lt : sheet.firstColumn + 1 < ColumnFormula.Column.indexBound
  letters_eq : ∀ i column, sheet.columns[i]? = some column →
    column.letters = ColumnFormula.Column.letters
      ((sheet.firstColumn + i) % ColumnFormula.Column.indexBound)
  index?_iff : ∀ i column, sheet.columns[i]? = some column →
    (ColumnFormula.Column.index? column.letters = some (sheet.firstColumn + i) ↔
      sheet.firstColumn + i + 1 < ColumnFormula.Column.indexBound)
  get?_iff : ∀ (options : Options) (i : Nat) (column : Column) (identifier : Text),
    sheet.columns[i]? = some column →
    (Mapping.ofHeadersAt sheet.headers sheet.firstColumn options).at? i = some identifier →
    ((Mapping.ofHeadersAt sheet.headers sheet.firstColumn options).get? column.letters =
      some identifier ↔ sheet.firstColumn + i + 1 < ColumnFormula.Column.indexBound)
  entries_eq : ∀ options : Options,
    (Mapping.ofHeadersAt sheet.headers sheet.firstColumn options).entries.map (·.1) =
      sheet.columns.map (·.letters)
  all_lt_iff : (∀ i column, sheet.columns[i]? = some column →
      sheet.firstColumn + i < ColumnFormula.Column.indexBound) ↔
    sheet.firstColumn + sheet.headers.length ≤ ColumnFormula.Column.indexBound
  all_index?_iff : (∀ i column, sheet.columns[i]? = some column →
      ColumnFormula.Column.index? column.letters = some (sheet.firstColumn + i)) ↔
    sheet.firstColumn + sheet.headers.length < ColumnFormula.Column.indexBound

theorem forall_columns_lt_iff {sheet : Sheet} {bound : Nat} (h : sheet.firstColumn ≤ bound) :
    (∀ i column, sheet.columns[i]? = some column → sheet.firstColumn + i < bound) ↔
      sheet.firstColumn + sheet.headers.length ≤ bound := by
  have hlength : sheet.columns.length = sheet.headers.length := by simp [columns]
  constructor
  · intro hall
    cases hheaders : sheet.headers.length with
    | zero => exact h
    | succ last =>
        have hlast : last < sheet.columns.length := by omega
        exact hall last _ (List.getElem?_eq_getElem hlast)
  · intro hle i column hcolumn
    obtain ⟨hi, -⟩ := List.getElem?_eq_some_iff.mp hcolumn
    omega

theorem counted_of_first_lt {sheet : Sheet}
    (h : sheet.firstColumn + 1 < ColumnFormula.Column.indexBound) : sheet.Counted := by
  have hletters : ∀ i column, sheet.columns[i]? = some column → column.letters =
      ColumnFormula.Column.letters (ColumnFormula.Column.after sheet.firstColumn i) := by
    intro i column hcolumn
    obtain ⟨header, -, rfl⟩ := Workbook.columns_getElem?_eq_some_iff.mp hcolumn
    rfl
  have hindex : ∀ i column, sheet.columns[i]? = some column →
      (ColumnFormula.Column.index? column.letters = some (sheet.firstColumn + i) ↔
        sheet.firstColumn + i + 1 < ColumnFormula.Column.indexBound) := by
    intro i column hcolumn
    rw [hletters i column hcolumn]
    exact ColumnFormula.Column.index?_letters_after_eq_some_iff
  refine ⟨h, hletters, hindex, ?_, fun options => (Mapping.columns_letters_eq sheet options).symm,
    forall_columns_lt_iff (by omega), ?_⟩
  · intro options i column identifier hcolumn hidentifier
    rw [hletters i column hcolumn]
    exact Mapping.ofHeadersAt_get?_after_iff hidentifier
  · calc
      _ ↔ ∀ i column, sheet.columns[i]? = some column →
          sheet.firstColumn + i < ColumnFormula.Column.indexBound - 1 := by
        refine forall_congr' fun i => forall_congr' fun column => forall_congr' fun hcolumn => ?_
        rw [hindex i column hcolumn]
        omega
      _ ↔ sheet.firstColumn + sheet.headers.length ≤ ColumnFormula.Column.indexBound - 1 :=
        forall_columns_lt_iff (by omega)
      _ ↔ _ := by
        have : 0 < ColumnFormula.Column.indexBound := by decide
        omega

/-- Whatever the first address of a sheet is, its columns are counted on from there. They all have
64 bits, or are all read back from their letters, just when the headers leave room for it. -/
theorem parseAll?_counted {document : Text} {sheets : List Sheet} {sheet : Sheet}
    (h : parseAll? document = some sheets) (hsheet : sheet ∈ sheets) : sheet.Counted := by
  obtain ⟨name, headers, rows, rfl⟩ := exists_ofRows_of_parseAll? h hsheet
  exact counted_of_first_lt (ofRows_firstColumn_lt name headers rows)

theorem parseAll?_counted_within :
    let document := "[[\"Far\",[\"a\",\"b\"],[[[7,null,\"value\",\"GKGWBYLWRXTLPN2\"]]]]]".toList
    let sheet : Sheet :=
      { name := "Far".toList
        headers := ["a".toList, "b".toList]
        rows := [[.ofValue (.number (.ofInt 7)) "GKGWBYLWRXTLPN2".toList]]
        firstColumn := 2 ^ 64 - 3
        firstDataRow := 2 }
    parseAll? document = some [sheet] ∧ sheet ∈ [sheet] ∧ sheet.Counted := by
  intro document sheet
  have hparse : parseAll? document = some [sheet] := by decide +kernel
  have hsheet : sheet ∈ [sheet] := List.mem_singleton_self sheet
  exact ⟨hparse, hsheet, parseAll?_counted hparse hsheet⟩

/-- One column further on, the second header has letters that are not read back. A third one would
not have a column of 64 bits, and gets the letters of the first column of all. -/
theorem parseAll?_counted_past :
    let document := "[[\"Far\",[\"a\",\"b\"],[[[7,null,\"value\",\"GKGWBYLWRXTLPO2\"]]]]]".toList
    let longer :=
      "[[\"Far\",[\"a\",\"b\",\"c\"],[[[7,null,\"value\",\"GKGWBYLWRXTLPO2\"]]]]]".toList
    (∃ sheet, parseAll? document = some [sheet] ∧ sheet.firstColumn = 2 ^ 64 - 2 ∧
      sheet.columns.map (·.letters) = ["GKGWBYLWRXTLPO".toList, "GKGWBYLWRXTLPP".toList] ∧
      ColumnFormula.Column.index? "GKGWBYLWRXTLPP".toList = none) ∧
    ∃ sheet, parseAll? longer = some [sheet] ∧ 2 ^ 64 ≤ sheet.firstColumn + 2 ∧
      sheet.columns.map (·.letters) =
        ["GKGWBYLWRXTLPO".toList, "GKGWBYLWRXTLPP".toList, "A".toList] ∧
      ColumnFormula.Column.index? "A".toList = some 0 := by
  intro document longer
  let rows : List (List Cell) := [[.ofValue (.number (.ofInt 7)) "GKGWBYLWRXTLPO2".toList]]
  refine ⟨⟨⟨"Far".toList, ["a".toList, "b".toList], rows, 2 ^ 64 - 2, 2⟩, ?_, rfl, ?_, ?_⟩,
    ⟨"Far".toList, ["a".toList, "b".toList, "c".toList], rows, 2 ^ 64 - 2, 2⟩, ?_, ?_, ?_, ?_⟩
  all_goals decide +kernel

end Sheet

end ColumnFormula
