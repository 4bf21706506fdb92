import ColumnFormula.Proofs.ColumnMapping
import ColumnFormula.Proofs.SingleReference
import ColumnFormula.Sheet.Grid

namespace ColumnFormula

namespace Sheet

theorem fromTo_getElem?_eq_some_iff {first last k n : Nat} :
    (fromTo first last)[k]? = some n ↔ n = first + k ∧ first + k ≤ last := by
  simp only [fromTo, List.getElem?_eq_some_iff, List.length_range', List.getElem_range',
    Nat.one_mul]
  constructor
  · rintro ⟨hk, rfl⟩
    exact ⟨rfl, by omega⟩
  · rintro ⟨rfl, hle⟩
    exact ⟨by omega, rfl⟩

variable {name : Text} {values : Grid Datum} {formulas : Option (Grid Text)} {headerRows : Nat}

theorem ofGrid_headers_length :
    (ofGrid name values formulas headerRows).headers.length =
      values.lastColumn + 1 - values.firstColumn := by
  simp [ofGrid, fromTo]

theorem ofGrid_firstDataRow_pos : 1 ≤ (ofGrid name values formulas headerRows).firstDataRow := by
  simp only [ofGrid, Bound.greatestRow]
  omega

theorem exists_eq_cellAt {k c : Nat} {row : List Cell} {cell : Cell}
    (hlast : values.lastRow < Bound.greatestRow)
    (hrow : (ofGrid name values formulas headerRows).rows[k]? = some row)
    (hcell : row[c]? = some cell) :
    ∃ r, r + 1 = (ofGrid name values formulas headerRows).firstDataRow + k ∧ r ≤ values.lastRow ∧
      values.firstColumn + c ≤ values.lastColumn ∧
      cell = cellAt values formulas r (values.firstColumn + c) := by
  simp only [ofGrid, List.getElem?_map, Option.map_eq_some_iff] at hrow
  obtain ⟨r, hr, rfl⟩ := hrow
  rw [List.getElem?_map, Option.map_eq_some_iff] at hcell
  obtain ⟨column, hcolumn, rfl⟩ := hcell
  obtain ⟨rfl, hrle⟩ := fromTo_getElem?_eq_some_iff.mp hr
  obtain ⟨rfl, hcle⟩ := fromTo_getElem?_eq_some_iff.mp hcolumn
  -- As the data ends above the last row there is, no row number was cut off.
  have hdata : (ofGrid name values formulas headerRows).firstDataRow =
      min (values.firstRow + max headerRows 1) Bound.greatestRow + 1 := by
    simp only [ofGrid]
    omega
  exact ⟨_, by omega, hrle, hcle, rfl⟩

theorem cellAt_address (values : Grid Datum) (formulas : Option (Grid Text)) (row column : Nat) :
    (cellAt values formulas row column).address = address row column := by
  rw [cellAt]
  split <;> rfl

/-- What the places of a cell in the rows of a sheet say about its place in the workbook. -/
structure Stands (sheet : Sheet) (lastColumn k c : Nat) (cell : Cell) : Prop where
  address_eq : cell.address =
    ColumnFormula.Column.letters (sheet.firstColumn + c) ++ Text.ofNat (sheet.firstDataRow + k)
  row_le : sheet.firstDataRow + k ≤ Bound.greatestRow
  column_le : sheet.firstColumn + c ≤ lastColumn

theorem ofGrid_stands {k c : Nat} {row : List Cell} {cell : Cell}
    (hlast : values.lastRow < Bound.greatestRow)
    (hrow : (ofGrid name values formulas headerRows).rows[k]? = some row)
    (hcell : row[c]? = some cell) :
    (ofGrid name values formulas headerRows).Stands values.lastColumn k c cell := by
  obtain ⟨r, hr, hrle, hcle, rfl⟩ := exists_eq_cellAt hlast hrow hcell
  refine ⟨?_, by omega, hcle⟩
  rw [cellAt_address, address, Nat.mod_eq_of_lt (by omega), hr]
  rfl

end Sheet

namespace Converter

theorem convert_fixedCell {t : Converter} {column row : Nat} {identifier : Text}
    (hcolumn : column + 1 < Column.indexBound) (hpos : 1 ≤ row) (hle : row ≤ Bound.greatestRow)
    (hdata : t.firstDataRow ≤ row) (hget : t.mapping.get? (Column.letters column) = some identifier)
    (mark : Bool) (formulaRow : Option Nat) :
    let formula := (Bound.Written.ofCell mark column true row).text
    (t.convert formula formulaRow).success = true ∧ (t.convert formula formulaRow).output =
      identifier ++ '[' :: Text.ofNat (row - t.firstDataRow) ++ [']'] := by
  intro formula
  have hrewrites : t.Rewrites ⟨.cell none, formula, 0⟩
      (identifier ++ '[' :: Text.ofNat (row - t.firstDataRow) ++ [']']) :=
    .fixedRow rfl trivial (Bound.parse?_ofCell hcolumn hpos hle) rfl rfl hdata hget
  rw [convert_of_isCell t (Bound.isCell_ofCell ..), replace_of_rewrites hrewrites]
  exact ⟨rfl, rfl⟩

theorem convert_currentCell {t : Converter} {column row : Nat} {identifier : Text}
    (hcolumn : column + 1 < Column.indexBound) (hpos : 1 ≤ row) (hle : row ≤ Bound.greatestRow)
    (hget : t.mapping.get? (Column.letters column) = some identifier) (mark : Bool) :
    let formula := (Bound.Written.ofCell mark column false row).text
    t.convert formula (some row) = .succeeded formula ('$' :: identifier) [] := by
  intro formula
  have hparse : Reference.parse? formula =
      some (.single ⟨Column.letters column, some row, mark, false⟩) :=
    Bound.parse?_ofCell hcolumn hpos hle
  have hreplace : t.replace (some row) ⟨.cell none, formula, 0⟩ = ⟨'$' :: identifier, []⟩ := by
    simp [replace, cell, target, ownCell, Token.referenceText, hparse, Reference.first, hget]
  rw [convert_of_isCell t (Bound.isCell_ofCell ..), hreplace]
  rfl

theorem of_rewrites_fixed {t : Converter} {token : Token} {identifier : Text} {k : Nat}
    (hidentifier : Identifier.isValid identifier)
    (h : t.Rewrites token (identifier ++ '[' :: Text.ofNat k ++ [']'])) :
    ∃ bound, Reference.parse? token.referenceText = some (.single bound) ∧ bound.rowAbsolute ∧
      bound.row = some (t.firstDataRow + k) ∧ t.mapping.get? bound.column = some identifier := by
  generalize htext : identifier ++ '[' :: Text.ofNat k ++ [']'] = text at h
  rw [List.append_assoc, List.cons_append] at htext
  have hnumber : ∀ c, c.isDigit = false → c ≠ ']' → c ∉ Text.ofNat k ++ [']'] := by
    intro c hdigit hne hmem
    rcases List.mem_append.mp hmem with hmem | hmem
    · have := Text.isDigit_of_mem_ofNat hmem
      simp [hdigit] at this
    · exact hne (List.mem_singleton.mp hmem)
  cases h with
  | currentRow =>
      cases identifier with
      | nil => contradiction
      | cons c s =>
          obtain rfl := (List.cons.inj htext).1
          have := (Identifier.isValid_cons.mp hidentifier).1
          contradiction
  | @fixedRow _ bound row other _ _ hparses habsolute hrow hdata hknown =>
      rw [List.append_assoc, List.cons_append] at htext
      have hbracket :=
        Identifier.not_mem_of_isValid (c := '[') hidentifier rfl
      have hbracket' := hnumber '[' rfl (by decide)
      obtain ⟨rfl, -, htail⟩ := (List.append_cons_inj_of_notMem hbracket hbracket').mp htext
      have hk : k = row - t.firstDataRow := Text.ofNat_injective (List.append_cancel_right htail)
      refine ⟨bound, hparses, habsolute, ?_, hknown⟩
      rw [hrow, hk, Nat.add_sub_cancel' hdata]
  | @wholeColumn _ m _ _ other =>
      have hdot : '.' ∈ identifier ++ '[' :: (Text.ofNat k ++ [']']) := htext ▸ by simp
      rcases List.mem_append.mp hdot with hmem | hmem
      · exact absurd hmem (Identifier.not_mem_of_isValid hidentifier rfl)
      · have := hnumber '.' rfl (by decide)
        simp [this] at hmem

theorem replace_eq_fixed {t : Converter} {token : Token} {rest identifier : Text} {k : Nat}
    {row : Option Nat} (hidentifier : Identifier.isValid identifier)
    (hreads : Lexeme.Reads token.kind token.text rest) (href : token.IsReference)
    (h : (t.replace row token).text = identifier ++ '[' :: Text.ofNat k ++ [']']) :
    ∃ bound, Reference.parse? token.referenceText = some (.single bound) ∧ bound.rowAbsolute ∧
      bound.row = some (t.firstDataRow + k) ∧ t.mapping.get? bound.column = some identifier := by
  rcases replace_reference hreads href row with hrewrites | ⟨d, hkeep, -⟩
  · rw [h] at hrewrites
    exact of_rewrites_fixed hidentifier hrewrites
  · obtain ⟨front, c, htext, hc⟩ := exists_text_eq_append hreads href
    rw [hkeep] at h
    change token.text = _ at h
    rw [htext] at h
    obtain rfl := (List.append_inj' h rfl).2 |> List.singleton_inj.mp
    contradiction

/-- The converter numbers the columns and the rows of data as the sheet does. -/
structure CountsLike (t : Converter) (sheet : Sheet) (options : Options) : Prop where
  mapping_eq : t.mapping = .ofHeadersAt sheet.headers sheet.firstColumn options
  firstDataRow_eq : t.firstDataRow = sheet.firstDataRow
  firstDataRow_pos : 1 ≤ sheet.firstDataRow

variable {t : Converter} {sheet : Sheet} {options : Options}

theorem CountsLike.identifiers_length (h : t.CountsLike sheet options) :
    t.mapping.identifiers.length = sheet.headers.length :=
  h.mapping_eq ▸ Mapping.ofHeadersAt_identifiers_length _ _ _

theorem CountsLike.firstColumn_eq (h : t.CountsLike sheet options) :
    t.mapping.firstColumn = sheet.firstColumn := by
  rw [h.mapping_eq]
  rfl

theorem CountsLike.get?_letters {c : Nat} {identifier : Text} (h : t.CountsLike sheet options)
    (hbound : sheet.firstColumn + c + 1 < Column.indexBound)
    (hidentifier : t.mapping.identifiers[c]? = some identifier) :
    t.mapping.get? (Column.letters (sheet.firstColumn + c)) = some identifier := by
  rw [← h.firstColumn_eq] at hbound ⊢
  exact Mapping.get?_letters hbound hidentifier

theorem CountsLike.convert_fixed {k c lastColumn : Nat} {cell : Cell} {identifier : Text}
    (h : t.CountsLike sheet options) (hstands : sheet.Stands lastColumn k c cell)
    (hlast : lastColumn + 1 < Column.indexBound)
    (hidentifier : t.mapping.identifiers[c]? = some identifier) (mark : Bool)
    (formulaRow : Option Nat) :
    let r := t.convert (Bound.Written.ofCell mark (sheet.firstColumn + c) true
      (sheet.firstDataRow + k)).text formulaRow
    r.success = true ∧ r.output = identifier ++ '[' :: Text.ofNat k ++ [']'] := by
  have hcolumn : sheet.firstColumn + c + 1 < Column.indexBound := by
    have := hstands.column_le
    omega
  have hpos := h.firstDataRow_pos
  have hdata : t.firstDataRow ≤ sheet.firstDataRow + k := by
    rw [h.firstDataRow_eq]
    omega
  have hk : sheet.firstDataRow + k - t.firstDataRow = k := by
    rw [h.firstDataRow_eq, Nat.add_sub_cancel_left]
  have hfixed := convert_fixedCell hcolumn (by omega) hstands.row_le hdata
    (h.get?_letters hcolumn hidentifier) mark formulaRow
  rwa [hk] at hfixed

theorem CountsLike.convert_current {k c lastColumn : Nat} {cell : Cell} {identifier : Text}
    (h : t.CountsLike sheet options) (hstands : sheet.Stands lastColumn k c cell)
    (hlast : lastColumn + 1 < Column.indexBound)
    (hidentifier : t.mapping.identifiers[c]? = some identifier) (mark : Bool) :
    let formula := (Bound.Written.ofCell mark (sheet.firstColumn + c) false
      (sheet.firstDataRow + k)).text
    t.convert formula (some (sheet.firstDataRow + k)) =
      .succeeded formula ('$' :: identifier) [] := by
  have hcolumn : sheet.firstColumn + c + 1 < Column.indexBound := by
    have := hstands.column_le
    omega
  have hpos := h.firstDataRow_pos
  exact convert_currentCell hcolumn (by omega) hstands.row_le (h.get?_letters hcolumn hidentifier)
    mark

/-- A fixed row in the output names the row of the reference, and a column that no other column of
the sheet has the identifier of. -/
theorem CountsLike.of_replace_eq_fixed {c k : Nat} {identifier : Text} {token : Token} {rest : Text}
    {formulaRow : Option Nat} (h : t.CountsLike sheet options)
    (hbound : sheet.firstColumn + c < Column.indexBound)
    (hidentifier : t.mapping.identifiers[c]? = some identifier)
    (hreads : Lexeme.Reads token.kind token.text rest) (href : token.IsReference)
    (hfixed : (t.replace formulaRow token).text = identifier ++ '[' :: Text.ofNat k ++ [']']) :
    ∃ (bound : Bound) (column : Sheet.Column),
      Reference.parse? token.referenceText = some (.single bound) ∧
      bound.rowAbsolute ∧ sheet.columns[c]? = some column ∧ bound.column = column.letters ∧
      bound.row = some (sheet.firstDataRow + k) := by
  have hvalid : Identifier.isValid identifier := by
    rw [h.mapping_eq] at hidentifier
    exact Mapping.ofHeadersAt_isValid (List.mem_of_getElem? hidentifier)
  obtain ⟨bound, hparse, habsolute, hrow, hget⟩ := replace_eq_fixed hvalid hreads href hfixed
  obtain ⟨i, hletters, hi⟩ := Mapping.exists_of_get? hget
  have hic : i = c := by
    by_contra hne
    rw [h.mapping_eq] at hi hidentifier
    have hsame := Mapping.ofHeadersAt_sameIgnoringCase hi hidentifier hne
    simp [Text.sameIgnoringCase] at hsame
  subst hic
  have hc : i < sheet.headers.length :=
    h.identifiers_length ▸ (List.getElem?_eq_some_iff.mp hidentifier).1
  refine ⟨bound, sheet.describe sheet.headers[i] i, hparse, habsolute, ?_, ?_, ?_⟩
  · simp [Sheet.columns, List.getElem?_eq_getElem hc]
  · rw [hletters, h.firstColumn_eq, Sheet.describe, Column.after_of_lt hbound]
  · rw [hrow, h.firstDataRow_eq]

/-- The addresses of a sheet's cells lead to the cells, and a fixed row comes from no other
address. -/
structure FindsCells (t : Converter) (sheet : Sheet) : Prop where
  /-- With an absolute row an address becomes its column and its place among the rows of data, and
  otherwise its column in the row at hand. -/
  address : ∀ (k c : Nat) (cells : List Cell) (cell : Cell), sheet.rows[k]? = some cells →
    cells[c]? = some cell →
    ∃ letters row identifier, cell.address = letters ++ Text.ofNat row ∧
      (∀ d ∈ letters, d.isUpper) ∧ t.mapping.identifiers[c]? = some identifier ∧
      (∀ mark formulaRow,
        let r := t.convert (Bound.markText mark ++ letters ++ '$' :: Text.ofNat row) formulaRow
        r.success = true ∧ r.output = identifier ++ '[' :: Text.ofNat k ++ [']']) ∧
      t.convert (letters ++ Text.ofNat row) (some row) =
        .succeeded (letters ++ Text.ofNat row) ('$' :: identifier) []
  fixedRow : ∀ (c k : Nat) (identifier : Text), t.mapping.identifiers[c]? = some identifier →
    ∀ formula tokens token formulaRow, Token.tokenize formula = .ok tokens → token ∈ tokens →
      token.IsReference →
      (t.replace formulaRow token).text = identifier ++ '[' :: Text.ofNat k ++ [']'] →
      ∃ (bound : Bound) (column : Sheet.Column),
        Reference.parse? token.referenceText = some (.single bound) ∧ bound.rowAbsolute ∧
        sheet.columns[c]? = some column ∧ bound.column = column.letters ∧
        bound.row = some (sheet.firstDataRow + k)

/-- A converter with the columns and the first row of data of a sheet that was read from a workbook
finds the sheet's cells. -/
theorem findsCells_ofGrid {name : Text} {values : Grid Datum} {formulas : Option (Grid Text)}
    {headerRows : Nat} (hlastRow : values.lastRow < Bound.greatestRow)
    (hlastColumn : values.lastColumn + 1 < Column.indexBound)
    (hsheet : Sheet.ofGrid name values formulas headerRows = sheet)
    (hmapping : t.mapping = .ofHeadersAt sheet.headers sheet.firstColumn options) :
    (t.withFirstDataRow sheet.firstDataRow).FindsCells sheet := by
  have hpos : 1 ≤ sheet.firstDataRow := hsheet ▸ Sheet.ofGrid_firstDataRow_pos
  have hcounts : (t.withFirstDataRow sheet.firstDataRow).CountsLike sheet options :=
    ⟨hmapping, max_eq_left hpos, hpos⟩
  have hheaders : sheet.headers.length = values.lastColumn + 1 - sheet.firstColumn := by
    rw [← hsheet]
    exact Sheet.ofGrid_headers_length
  have hlength : t.mapping.identifiers.length = sheet.headers.length := hcounts.identifiers_length
  constructor
  case address =>
    intro k c cells cell hcells hcell
    have hstands : sheet.Stands values.lastColumn k c cell := by
      subst hsheet
      exact Sheet.ofGrid_stands hlastRow hcells hcell
    have hcolumn := hstands.column_le
    have hidentifier := List.getElem?_eq_getElem (l := t.mapping.identifiers) (i := c) (by omega)
    refine ⟨_, _, _, hstands.address_eq, Column.letters_isUpper _, hidentifier, ?_, ?_⟩
    · intro mark formulaRow
      rw [← Bound.Written.ofCell_text]
      exact hcounts.convert_fixed hstands hlastColumn hidentifier mark formulaRow
    · exact hcounts.convert_current hstands hlastColumn hidentifier false
  case fixedRow =>
    intro c k identifier hidentifier formula tokens token formulaRow htokens htoken href hfixed
    obtain ⟨-, hlexed, -⟩ := Token.tokenize_eq_ok_iff.mp htokens
    obtain ⟨rest, hreads⟩ := hlexed.reads token htoken
    have hc : c < t.mapping.identifiers.length := (List.getElem?_eq_some_iff.mp hidentifier).1
    exact hcounts.of_replace_eq_fixed (by omega) hidentifier hreads href hfixed

theorem findsCells_ofGrid_prices :
    let values : Grid Datum :=
      { firstRow := 2
        firstColumn := 1
        lastRow := 5
        lastColumn := 2
        entries := [(2, 1, .string "Item".toList), (2, 2, .string "Price".toList),
          (4, 1, .string "Tea".toList), (5, 2, .int 7)] }
    let sheet := Sheet.ofGrid "Orders".toList values none 2
    let t := ofOptions (.ofHeadersAt sheet.headers sheet.firstColumn {}) {}
    let t' := t.withFirstDataRow sheet.firstDataRow
    values.lastRow < Bound.greatestRow ∧ values.lastColumn + 1 < Column.indexBound ∧
      (sheet.rows[1]?.bind (·[1]?)).map (·.address) = some "C6".toList ∧
      (t'.convert "$C$6".toList none).output = "Price[1]".toList ∧
      t'.convert "C6".toList (some 6) = .succeeded "C6".toList "$Price".toList [] ∧
      t'.FindsCells sheet := by
  intro values sheet t t'
  have hlastRow : values.lastRow < Bound.greatestRow := by decide
  have hlastColumn : values.lastColumn + 1 < Column.indexBound := by decide
  have haddress : (sheet.rows[1]?.bind (·[1]?)).map (·.address) = some "C6".toList := by
    decide +kernel
  have hfixed : (t'.convert "$C$6".toList none).output = "Price[1]".toList := by decide +kernel
  have hcurrent : t'.convert "C6".toList (some 6) =
      .succeeded "C6".toList "$Price".toList [] := by decide +kernel
  exact ⟨hlastRow, hlastColumn, haddress, hfixed, hcurrent,
    findsCells_ofGrid hlastRow hlastColumn rfl rfl⟩

end Converter

end ColumnFormula
