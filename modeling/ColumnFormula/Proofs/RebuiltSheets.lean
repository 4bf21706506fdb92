import ColumnFormula.Proofs.CellAddresses

namespace ColumnFormula.Sheet

open Text

theorem splitAddress?_append {column row : Nat}
    (hcolumn : column + 1 < ColumnFormula.Column.indexBound) (hpos : 1 ≤ row)
    (hle : row ≤ Bound.greatestRow) :
    splitAddress? (ColumnFormula.Column.letters column ++ ofNat row) = some (column, row) := by
  have hletters : ∀ c ∈ ColumnFormula.Column.letters column, (!c.isDigit) = true := by
    intro c hc
    rw [Bound.not_isDigit_of_isUpper (ColumnFormula.Column.letters_isUpper column c hc),
      Bool.not_false]
  have hdigits : ∀ c ∈ ofNat row, c.isDigit := fun c hc => isDigit_of_mem_ofNat hc
  have hstop : StopsBefore (!·.isDigit) (ofNat row) :=
    stopsBefore_of_forall fun c hc => by simp [hdigits c hc]
  have hindex : ColumnFormula.Column.index? (ColumnFormula.Column.letters column) = some column :=
    ColumnFormula.Column.index?_eq_some_iff.mpr ⟨rfl, hcolumn⟩
  simp only [splitAddress?, takeWhile_append_of_stopsBefore hletters hstop,
    dropWhile_append_of_stopsBefore hletters hstop]
  rw [if_neg (by simp [ofNat_ne_nil, List.all_eq_true.mpr hdigits])]
  simp [Bound.rowOfDigits?_ofNat hpos hle, hindex]

variable {name : Text} {values : Grid Datum} {formulas : Option (Grid Text)} {headerRows : Nat}

theorem cellAt_value (values : Grid Datum) (formulas : Option (Grid Text)) (row column : Nat) :
    (cellAt values formulas row column).value =
      ((values.get? row column).map Datum.cellValue).getD .empty := by
  rw [cellAt]
  split <;> rfl

theorem cellAt_formula_eq_some_iff {row column : Nat} {formula : Text} :
    (cellAt values formulas row column).formula = some formula ↔
      formula ≠ [] ∧ ∃ grid, formulas = some grid ∧ grid.get? row column = some formula := by
  have hformula : (cellAt values formulas row column).formula =
      (formulas.bind (·.get? row column)).filter (· ≠ []) := by
    rw [cellAt]
    split
    · rename_i found hfound
      rw [hfound]
      rfl
    · rename_i hnone
      rw [hnone]
      rfl
  rw [hformula, Option.filter_eq_some_iff, Option.bind_eq_some_iff, and_comm, decide_eq_true_eq]

theorem cellAt_kind_eq_formula_iff {row column : Nat} :
    (cellAt values formulas row column).kind = .formula ↔
      ∃ formula, (cellAt values formulas row column).formula = some formula := by
  rw [cellAt]
  split <;> simp [Cell.ofFormula, Cell.ofValue]

theorem ofGrid_row_length {row : List Cell} (hcolumns : values.firstColumn ≤ values.lastColumn)
    (h : row ∈ (ofGrid name values formulas headerRows).rows) :
    row.length = values.lastColumn - values.firstColumn + 1 := by
  simp only [ofGrid, List.mem_map] at h
  obtain ⟨r, -, rfl⟩ := h
  simp only [fromTo, List.length_map, List.length_range']
  omega

theorem splitAddress?_ofGrid {sheet : Sheet} {k c : Nat} {row : List Cell} {cell : Cell}
    (hlastRow : values.lastRow < Bound.greatestRow)
    (hlastColumn : values.lastColumn + 1 < ColumnFormula.Column.indexBound)
    (hsheet : ofGrid name values formulas headerRows = sheet)
    (hrow : sheet.rows[k]? = some row) (hcell : row[c]? = some cell) :
    splitAddress? cell.address = some (sheet.firstColumn + c, sheet.firstDataRow + k) := by
  have hpos : 1 ≤ sheet.firstDataRow := hsheet ▸ ofGrid_firstDataRow_pos
  have hstands : sheet.Stands values.lastColumn k c cell := by
    subst hsheet
    exact ofGrid_stands hlastRow hrow hcell
  have hcolumn := hstands.column_le
  rw [hstands.address_eq]
  exact splitAddress?_append (by omega) (by omega) hstands.row_le

/-- The sheet shows the values and the formulas of a workbook. The entry of row number 1 is in row
0 of the workbook. -/
structure Shows (sheet : Sheet) (values : Grid Datum) (formulas : Option (Grid Text)) : Prop where
  headers_length : sheet.headers.length = values.lastColumn - values.firstColumn + 1
  columns_length : sheet.columns.length = values.lastColumn - values.firstColumn + 1
  row_length : ∀ row ∈ sheet.rows, row.length = values.lastColumn - values.firstColumn + 1
  address : ∀ (k c : Nat) (row : List Cell) (cell : Cell), sheet.rows[k]? = some row →
    row[c]? = some cell →
    splitAddress? cell.address = some (sheet.firstColumn + c, sheet.firstDataRow + k)
  content : ∀ (k c : Nat) (row : List Cell) (cell : Cell), sheet.rows[k]? = some row →
    row[c]? = some cell → ∃ r, r + 1 = sheet.firstDataRow + k ∧
      cell.value = ((values.get? r (sheet.firstColumn + c)).map Datum.cellValue).getD .empty ∧
      (cell.kind = .formula ↔ ∃ formula, cell.formula = some formula) ∧
      ∀ formula, cell.formula = some formula ↔ formula ≠ [] ∧
        ∃ grid, formulas = some grid ∧ grid.get? r (sheet.firstColumn + c) = some formula

/-- The address of the first cell is all that is needed to tell where a sheet stands. -/
theorem ofRows_of_splitAddress? {sheet : Sheet} {cell : Cell}
    (hcell : sheet.rows.head?.bind List.head? = some cell)
    (haddress : splitAddress? cell.address = some (sheet.firstColumn, sheet.firstDataRow)) :
    ofRows sheet.name sheet.headers sheet.rows = sheet := by
  simp [ofRows, hcell, haddress]

/-- A sheet that is read from a workbook shows what the workbook holds, and is the sheet that its
headers and rows make. -/
theorem ofGrid_shows {sheet : Sheet} (hcolumns : values.firstColumn ≤ values.lastColumn)
    (hlastRow : values.lastRow < Bound.greatestRow)
    (hlastColumn : values.lastColumn + 1 < ColumnFormula.Column.indexBound)
    (hsheet : ofGrid name values formulas headerRows = sheet) :
    sheet.Shows values formulas ∧
      (sheet.rows ≠ [] → ofRows sheet.name sheet.headers sheet.rows = sheet) := by
  have hheaders : sheet.headers.length = values.lastColumn - values.firstColumn + 1 := by
    rw [← hsheet, ofGrid_headers_length]
    omega
  have hlength : ∀ row ∈ sheet.rows,
      row.length = values.lastColumn - values.firstColumn + 1 := by
    subst hsheet
    exact fun row hrow => ofGrid_row_length hcolumns hrow
  have haddress : ∀ (k c : Nat) (row : List Cell) (cell : Cell), sheet.rows[k]? = some row →
      row[c]? = some cell →
      splitAddress? cell.address = some (sheet.firstColumn + c, sheet.firstDataRow + k) :=
    fun k c row cell hrow hcell => splitAddress?_ofGrid hlastRow hlastColumn hsheet hrow hcell
  refine ⟨⟨hheaders, ?_, hlength, haddress, ?_⟩, ?_⟩
  · rw [columns, List.length_map, List.length_zipIdx, hheaders]
  · intro k c row cell hrow hcell
    subst hsheet
    obtain ⟨r, hr, -, -, rfl⟩ := exists_eq_cellAt hlastRow hrow hcell
    exact ⟨r, hr, cellAt_value .., cellAt_kind_eq_formula_iff,
      fun formula => cellAt_formula_eq_some_iff⟩
  · intro hne
    obtain ⟨row, rows, hrows⟩ := List.exists_cons_of_ne_nil hne
    have hwidth := hlength row (by simp [hrows])
    obtain ⟨cell, cells, rfl⟩ : ∃ cell cells, row = cell :: cells := by
      apply List.exists_cons_of_length_pos
      omega
    exact ofRows_of_splitAddress? (by rw [hrows]; rfl)
      (haddress 0 0 _ cell (by rw [hrows]; rfl) rfl)

theorem ofGrid_shows_prices :
    let values : Grid Datum :=
      { firstRow := 2
        firstColumn := 1
        lastRow := 5
        lastColumn := 2
        entries := [(2, 1, .string "Item".toList), (2, 2, .string "Price".toList),
          (4, 1, .string "Tea".toList), (5, 2, .int 7)] }
    let formulas : Grid Text :=
      { firstRow := 0
        firstColumn := 0
        lastRow := 5
        lastColumn := 3
        entries := [(4, 2, []), (5, 2, "B6*7".toList)] }
    let sheet := ofGrid "Orders".toList values (some formulas) 2
    values.firstColumn ≤ values.lastColumn ∧ values.lastRow < Bound.greatestRow ∧
      values.lastColumn + 1 < ColumnFormula.Column.indexBound ∧
      sheet.rows = [
        [.ofValue (.text "Tea".toList) "B5".toList, .ofValue .empty "C5".toList],
        [.ofValue .empty "B6".toList, .ofFormula "B6*7".toList (.number (.ofInt 7)) "C6".toList]] ∧
      sheet.Shows values (some formulas) ∧
      ofRows sheet.name sheet.headers sheet.rows = sheet := by
  intro values formulas sheet
  have hcolumns : values.firstColumn ≤ values.lastColumn := by decide
  have hlastRow : values.lastRow < Bound.greatestRow := by decide
  have hlastColumn : values.lastColumn + 1 < ColumnFormula.Column.indexBound := by decide
  have hrows : sheet.rows = [
      [.ofValue (.text "Tea".toList) "B5".toList, .ofValue .empty "C5".toList],
      [.ofValue .empty "B6".toList,
        .ofFormula "B6*7".toList (.number (.ofInt 7)) "C6".toList]] := by
    decide +kernel
  obtain ⟨hshows, hrebuilt⟩ := ofGrid_shows hcolumns hlastRow hlastColumn rfl
  have hne : sheet.rows ≠ [] := by
    rw [hrows]
    exact List.cons_ne_nil _ _
  exact ⟨hcolumns, hlastRow, hlastColumn, hrows, hshows, hrebuilt hne⟩

end ColumnFormula.Sheet
