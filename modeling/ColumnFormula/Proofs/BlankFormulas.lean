import ColumnFormula.Proofs.ImportedColumns
import ColumnFormula.Sheet.Json

namespace ColumnFormula

namespace Text

theorem isAllBlank_eq_false_iff {s : Text} : isAllBlank s = false ↔ ∃ c ∈ s, isBlank c = false := by
  simp [isAllBlank]

theorem isAllBlank_eq_false_of_mem {s : Text} {c : Char} (hc : c ∈ s) (h : isBlank c = false) :
    isAllBlank s = false := isAllBlank_eq_false_iff.mpr ⟨c, hc, h⟩

theorem isAllBlank_append (s t : Text) : isAllBlank (s ++ t) = (isAllBlank s && isAllBlank t) :=
  List.all_append

end Text

open Lexeme Text

namespace Lexeme

theorem Reads.isAllBlank_eq_false {kind : Token.Kind} {text rest : Text} (h : Reads kind text rest)
    (hkind : kind ≠ .blank) : isAllBlank text = false := by
  have hstop := (h.stopsBefore_isBlank_iff rest).mpr hkind
  rw [stopsBefore_append_iff h.text_ne_nil] at hstop
  cases text with
  | nil => exact absurd rfl h.text_ne_nil
  | cons c text => exact isAllBlank_eq_false_of_mem (by simp) (stopsBefore_cons.mp hstop)

end Lexeme

namespace Token

theorem subset_spacedText {tokens : List Token} {t : Token} (ht : t ∈ tokens)
    (blankBefore operand : Bool) : t.text ⊆ spacedText blankBefore operand tokens := by
  induction tokens generalizing blankBefore operand with
  | nil => contradiction
  | cons u rest ih =>
      intro c hc
      rw [spacedText]
      rcases List.mem_cons.mp ht with rfl | ht
      · apply List.mem_append_left
        split
        · simp [hc]
        · exact hc
      · exact List.mem_append_right _ (ih ht _ _ hc)

theorem Lexed.exists_lasting {tokens : List Token} (h : Lexed tokens)
    (hblank : isAllBlank (render tokens) = false) :
    ∃ t ∈ tokens, t.kind ≠ .blank ∧ t.kind ≠ .function := by
  induction tokens with
  | nil => contradiction
  | cons t rest ih =>
      obtain ⟨hreads, hrest⟩ := h
      by_cases hkind : t.kind ≠ .blank ∧ t.kind ≠ .function
      · exact ⟨t, by simp, hkind⟩
      have hbehind : isAllBlank (render rest) = false := by
        rw [not_and_or, not_not, not_not] at hkind
        rcases hkind with hkind | hkind
        · have htext := (hkind ▸ hreads).blank_isAllBlank
          rwa [render_cons, isAllBlank_append, htext, Bool.true_and] at hblank
        · obtain ⟨more, hmore⟩ := (hkind ▸ hreads).function_paren
          rw [hmore]
          rfl
      obtain ⟨u, hu, hkinds⟩ := ih hrest hbehind
      exact ⟨u, List.mem_cons_of_mem _ hu, hkinds⟩

end Token

namespace Converter

variable {t : Converter}

theorem Rewrites.isAllBlank_eq_false {token : Token} {text : Text} (h : t.Rewrites token text) :
    isAllBlank text = false := by
  cases h with
  | currentRow => rfl
  | fixedRow => exact isAllBlank_eq_false_of_mem (c := '[') (by simp) rfl
  | wholeColumn => exact isAllBlank_eq_false_of_mem (c := '.') (by simp) rfl

theorem replace_isAllBlank {token : Token} {rest : Text} (h : Reads token.kind token.text rest)
    (hblank : token.kind ≠ .blank) (hfunction : token.kind ≠ .function) (row : Option Nat) :
    isAllBlank (t.replace row token).text = false := by
  have htext := h.isAllBlank_eq_false hblank
  by_cases href : token.IsReference
  · rcases replace_reference h href row with hrewrites | ⟨d, hkeep, -⟩
    · exact hrewrites.isAllBlank_eq_false
    · rwa [hkeep]
  · rwa [replace_other href hfunction]

theorem convert_of_isAllBlank {formula : Text} (h : isAllBlank (body formula)) (row : Option Nat) :
    t.convert formula row = .succeeded formula [] [] := if_pos h

/-- What a conversion gives is blank just when there was nothing to convert. -/
theorem convert_output_isAllBlank {formula : Text} {row : Option Nat}
    (hsuccess : (t.convert formula row).success = true) :
    isAllBlank (t.convert formula row).output = isAllBlank (body formula) := by
  cases hbody : isAllBlank (body formula) with
  | true =>
      rw [convert_of_isAllBlank hbody]
      rfl
  | false =>
      rcases of_convert_success hsuccess with ⟨hblank, -⟩ | ⟨tokens, htokens, houtput⟩
      · simp [hbody] at hblank
      obtain ⟨hrender, hlexed, -⟩ := Token.tokenize_eq_ok_iff.mp htokens
      obtain ⟨token, htoken, hblank, hfunction⟩ := hlexed.exists_lasting (hrender.symm ▸ hbody)
      obtain ⟨rest, hreads⟩ := hlexed.reads token htoken
      obtain ⟨c, hc, hink⟩ := isAllBlank_eq_false_iff.mp
        (replace_isAllBlank (t := t) hreads hblank hfunction row)
      have hmem : { token with text := (t.replace row token).text } ∈ t.replaceAll row tokens :=
        List.mem_map_of_mem htoken
      rw [houtput]
      exact isAllBlank_eq_false_of_mem (Token.subset_spacedText hmem false false hc) hink

end Converter

/-- The formula at a place of the first row is blank, but for an equals sign in front. -/
def Sheet.HasBlankFormula (s : Sheet) (place : Nat) : Prop :=
  ∃ formula, s.HasFormula place formula ∧ isAllBlank (Converter.body formula)

namespace Workbook

variable {sheet : Sheet} {t : Converter} {place : Nat} {column : Plan.Column}

theorem firstRowConversion_of_isAllBlank (sheet : Sheet) (t : Converter) {formula : Text}
    (h : isAllBlank (Converter.body formula)) :
    firstRowConversion sheet t formula = .succeeded formula [] [] :=
  Converter.convert_of_isAllBlank h _

theorem Holds.of_hasBlankFormula (h : Holds sheet t place column)
    (hblank : sheet.HasBlankFormula place) : column.formula? = some [] ∧ column.values = [] := by
  obtain ⟨formula, hformula, hblank⟩ := hblank
  have hconversion := firstRowConversion_of_isAllBlank sheet t hblank
  have hisFormula : column.isFormula :=
    h.isFormula_iff.mpr ⟨formula, hformula, by rw [hconversion]; rfl⟩
  have hcontent := h.formula formula hisFormula hformula
  rwa [hconversion] at hcontent

theorem Holds.hasBlankFormula (h : Holds sheet t place column) {text : Text}
    (htext : column.formula? = some text) (hblank : isAllBlank text) :
    sheet.HasBlankFormula place := by
  have hisFormula : column.isFormula := by
    rw [Plan.Column.isFormula, htext]
    rfl
  obtain ⟨formula, hformula, hsuccess⟩ := h.isFormula_iff.mp hisFormula
  obtain ⟨houtput, -⟩ := h.formula formula hisFormula hformula
  obtain rfl := Option.some.inj (htext.symm.trans houtput)
  exact ⟨formula, hformula, Converter.convert_output_isAllBlank hsuccess ▸ hblank⟩

/-- A column of a plan has a blank formula just when the formula of its cell is blank, and then it
has given up its values for the empty formula. -/
theorem convert_blank_formula_iff (sheets : List Sheet) (options : Options)
    (given : Option (List Text)) {position place : Nat} {table : Plan.Table} {column : Plan.Column}
    (htable : (convert sheets options given).plan.tables[position]? = some table)
    (hcolumn : table.columns[place]? = some column) :
    ∃ sheet, sheets[position]? = some sheet ∧
      ((∃ text, column.formula? = some text ∧ isAllBlank text) ↔ sheet.HasBlankFormula place) ∧
      (sheet.HasBlankFormula place → column.formula? = some [] ∧ column.values = []) := by
  obtain ⟨sheet, name, hsheet, -, rfl⟩ := tables_getElem?_eq_some_iff.mp htable
  have hholds := (accounts_convertAt options _ position sheet _).columns place column hcolumn
  refine ⟨sheet, hsheet, ⟨?_, ?_⟩, hholds.of_hasBlankFormula⟩
  · rintro ⟨text, htext, hblank⟩
    exact hholds.hasBlankFormula htext hblank
  · intro hblank
    exact ⟨[], (hholds.of_hasBlankFormula hblank).1, rfl⟩

theorem convert_blank_formula_iff_mark :
    let sheet : Sheet :=
      { name := "Orders".toList
        headers := ["Price".toList, "Total".toList]
        rows := [[.ofValue (.text "six".toList) "A2".toList,
          .ofFormula "= _xlfn.()".toList (.text "six".toList) "B2".toList]]
        firstColumn := 0
        firstDataRow := 2 }
    let column : Plan.Column :=
      ⟨"Total".toList, "Total".toList, .formula " ()".toList "= _xlfn.()".toList⟩
    ∃ table, (convert [sheet] {} none).plan.tables[0]? = some table ∧
      table.columns[1]? = some column ∧ ¬ isAllBlank " ()".toList ∧
      ∃ sheet', [sheet][0]? = some sheet' ∧
        ((∃ text, column.formula? = some text ∧ isAllBlank text) ↔ sheet'.HasBlankFormula 1) ∧
        (sheet'.HasBlankFormula 1 → column.formula? = some [] ∧ column.values = []) := by
  intro sheet column
  let table : Plan.Table :=
    { name := "Orders".toList
      sheet := "Orders".toList
      columns := [⟨"Price".toList, "Price".toList, .values [.text "six".toList]⟩, column]
      warnings := [] }
  have htable : (convert [sheet] {} none).plan.tables[0]? = some table := by decide +kernel
  have hcolumn : table.columns[1]? = some column := rfl
  exact ⟨table, htable, hcolumn, by decide,
    convert_blank_formula_iff [sheet] {} none htable hcolumn⟩

/-- The value of a cell is lost for a formula that is an equals sign and nothing else. -/
theorem convert_blank_formula_iff_lost :
    let cell :=
      "\x7b\"value\":\"six\",\"formula\":\"=\",\"type\":\"formula\",\"address\":\"A2\"\x7d"
    let document :=
      ("[\x7b\"name\":\"Orders\",\"headers\":[\"Total\"],\"rows\":[[" ++ cell ++ "]]\x7d]").toList
    ∃ sheet table column, Sheet.parseAll? document = some [sheet] ∧
      sheet.values 0 = [.text "six".toList] ∧
      (convert [sheet] {} none).plan.tables[0]? = some table ∧ table.columns[0]? = some column ∧
      column.isFormula ∧ column.formula? = some [] ∧ column.values = [] := by
  intro cell document
  let sheet : Sheet :=
    { name := "Orders".toList
      headers := ["Total".toList]
      rows := [[.ofFormula "=".toList (.text "six".toList) "A2".toList]]
      firstColumn := 0
      firstDataRow := 2 }
  let column : Plan.Column := ⟨"Total".toList, "Total".toList, .formula [] "=".toList⟩
  let table : Plan.Table := ⟨"Orders".toList, "Orders".toList, [column], []⟩
  refine ⟨sheet, table, column, ?_, rfl, ?_, rfl, rfl, rfl, rfl⟩
  · decide +kernel
  · decide +kernel

end Workbook

end ColumnFormula
