import ColumnFormula.Proofs.ImportPlan
import ColumnFormula.Proofs.TokenReplacement

namespace ColumnFormula

/-- What a sheet's own formulas call the sheet: nothing, or its name in any case of its letters. -/
def Sheet.Answers (s : Sheet) : Option Text → Prop
  | none => True
  | some name => Text.sameIgnoringCase s.name name

namespace Workbook

/-- The position of the sheet that a reference in the sheet at `position` is to. -/
inductive RefersTo (sheets : List Sheet) (position : Nat) : Option Text → Nat → Prop
  | own {sheet : Sheet} {qualifier : Option Text} (isAt : sheets[position]? = some sheet)
      (answers : sheet.Answers qualifier) : RefersTo sheets position qualifier position
  | first {sheet other : Sheet} {name : Text} {j : Nat} (isAt : sheets[position]? = some sheet)
      (notOwn : ¬ sheet.Answers (some name)) (otherAt : sheets[j]? = some other)
      (same : Text.upperCase other.name = Text.upperCase name)
      (noEarlier : ∀ i < j, ∀ earlier, sheets[i]? = some earlier →
        Text.upperCase earlier.name ≠ Text.upperCase name) :
      RefersTo sheets position (some name) j

/-- The table at a position of a plan, and the column of it that letters of its sheet stand for. -/
structure IsColumn (sheets : List Sheet) (plan : Plan) (position : Nat) (letters : Text)
    (table : Plan.Table) (column : Plan.Column) : Prop where
  tableAt : plan.tables[position]? = some table
  columnAt : ∃ sheet index, sheets[position]? = some sheet ∧
    ColumnFormula.Column.index? letters = some index ∧ sheet.firstColumn ≤ index ∧
      table.columns[index - sheet.firstColumn]? = some column

/-- The text that refers to what a token of the sheet at `position` referred to. -/
inductive Refers (sheets : List Sheet) (plan : Plan) (position : Nat) (token : Token) : Text → Prop
  | currentRow {sheet : Sheet} {qualifier : Option Text} {bound : Bound} {table : Plan.Table}
      {column : Plan.Column} (kind : token.kind = .cell qualifier)
      (isAt : sheets[position]? = some sheet) (answers : sheet.Answers qualifier)
      (parses : Reference.parse? token.referenceText = some (.single bound))
      (relative : bound.rowAbsolute = false)
      (isColumn : IsColumn sheets plan position bound.column table column) :
      Refers sheets plan position token ('$' :: column.identifier)
  | fixedRow {sheet : Sheet} {qualifier : Option Text} {bound : Bound} {row : Nat}
      {table : Plan.Table} {column : Plan.Column} (kind : token.kind = .cell qualifier)
      (isAt : sheets[position]? = some sheet) (answers : sheet.Answers qualifier)
      (parses : Reference.parse? token.referenceText = some (.single bound))
      (absolute : bound.rowAbsolute) (hasRow : bound.row = some row)
      (isData : max sheet.firstDataRow 1 ≤ row)
      (isColumn : IsColumn sheets plan position bound.column table column) :
      Refers sheets plan position token
        (column.identifier ++ '[' :: Text.ofNat (row - max sheet.firstDataRow 1) ++ [']'])
  | wholeColumn {qualifier : Option Text} {j : Nat} {first last : Bound} {table : Plan.Table}
      {column : Plan.Column} (kind : token.kind = .range qualifier)
      (refersTo : RefersTo sheets position qualifier j)
      (parses : Reference.parse? token.referenceText = some (.range first last))
      (sameColumn : last.column = first.column)
      (isColumn : IsColumn sheets plan j first.column table column) :
      Refers sheets plan position token (table.name ++ '.' :: column.identifier)

/-- A token of a cell formula and what it became in the plan: a reference stays or refers. -/
structure Agrees (sheets : List Sheet) (plan : Plan) (position : Nat) (old new : Token) : Prop
    extends old.Matches new where
  refers : old.IsReference → new.text = old.text ∨ Refers sheets plan position old new.text

variable {sheets : List Sheet} {options : Options} {given : Option (List Text)}

theorem isColumn_of_get? {j : Nat} {sheet : Sheet} {name letters identifier : Text}
    (hsheet : sheets[j]? = some sheet) (hname : (tableNames sheets given)[j]? = some name)
    (hget : (mappingOf options sheet name).get? letters = some identifier) :
    ∃ table column, IsColumn sheets (convert sheets options given).plan j letters table column ∧
      table.name = name ∧ column.identifier = identifier := by
  obtain ⟨index, hindex, hle, hidentifier⟩ := Mapping.get?_eq_some_iff.mp hget
  let all := registry options sheets (tableNames sheets given)
  let table := (convertAt options all j sheet (mappingOf options sheet name)).1
  have htable : (convert sheets options given).plan.tables[j]? = some table :=
    tables_getElem?_eq_some_iff.mpr ⟨sheet, name, hsheet, hname, rfl⟩
  have hcolumns : table.columns.map (·.identifier) = (mappingOf options sheet name).identifiers :=
    convertSheet_identifiers (t := converter options all sheet (mappingOf options sheet name))
      (Mapping.ofHeadersAt_identifiers_length _ _ _)
  rw [← hcolumns, List.getElem?_map] at hidentifier
  obtain ⟨column, hcolumn, rfl⟩ := Option.map_eq_some_iff.mp hidentifier
  exact ⟨table, column, ⟨htable, sheet, index, hsheet, hindex, hle, hcolumn⟩, rfl, rfl⟩

theorem isOwn_converter_iff {all : Registry} {sheet : Sheet} {m : Mapping}
    {qualifier : Option Text} :
    (converter options all sheet m).IsOwn qualifier ↔ sheet.Answers qualifier := by
  cases qualifier with
  | none => exact Iff.rfl
  | some name =>
      constructor
      · rintro ⟨place, hplace, hsame⟩
        obtain rfl := Option.some.inj hplace
        exact hsame
      · intro hsame
        exact ⟨⟨sheet.name, all⟩, rfl, hsame⟩

theorem refersTo_of_resolvesTo {names : List Text} {position : Nat} {sheet : Sheet} {name : Text}
    {qualifier : Option Text} {m : Mapping} (hsheet : sheets[position]? = some sheet)
    (hname : names[position]? = some name)
    (h : (converter options (registry options sheets names) sheet
      (mappingOf options sheet name)).ResolvesTo qualifier m) :
    ∃ j other table, RefersTo sheets position qualifier j ∧ sheets[j]? = some other ∧
      names[j]? = some table ∧ mappingOf options other table = m := by
  cases h with
  | own hown =>
      exact ⟨position, sheet, name, .own hsheet (isOwn_converter_iff.mp hown), hsheet, hname, rfl⟩
  | other hplace hnot hget =>
      rename_i qualifier place
      obtain rfl := Option.some.inj hplace
      obtain ⟨j, own, hentry, hsame, hfirst⟩ := Registry.get?_eq_some_iff.mp hget
      obtain ⟨other, table, hother, htable, rfl, hm⟩ := registry_getElem?_eq_some_iff.mp hentry
      have hnotOwn : ¬ sheet.Answers (some qualifier) := by
        simpa [Sheet.Answers] using hnot
      refine ⟨j, other, table, .first hsheet hnotOwn hother hsame ?_, hother, htable, hm⟩
      intro i hij earlier hearlier
      obtain ⟨hj, -⟩ := List.getElem?_eq_some_iff.mp htable
      have hi : names[i]? = some names[i] := List.getElem?_eq_getElem (by omega)
      exact hfirst i hij _ (registry_getElem?_eq_some_iff.mpr ⟨earlier, _, hearlier, hi, rfl, rfl⟩)

theorem refers_of_rewrites {position : Nat} {sheet : Sheet} {name : Text} {token : Token}
    {text : Text} (hsheet : sheets[position]? = some sheet)
    (hname : (tableNames sheets given)[position]? = some name)
    (h : (converter options (registry options sheets (tableNames sheets given)) sheet
      (mappingOf options sheet name)).Rewrites token text) :
    Refers sheets (convert sheets options given).plan position token text := by
  cases h with
  | currentRow hkind hown hparses hrelative hknown =>
      obtain ⟨table, column, hcolumn, -, rfl⟩ := isColumn_of_get? hsheet hname hknown
      exact .currentRow hkind hsheet (isOwn_converter_iff.mp hown) hparses hrelative hcolumn
  | fixedRow hkind hown hparses habsolute hrow hdata hknown =>
      obtain ⟨table, column, hcolumn, -, rfl⟩ := isColumn_of_get? hsheet hname hknown
      exact .fixedRow hkind hsheet (isOwn_converter_iff.mp hown) hparses habsolute hrow hdata
        hcolumn
  | wholeColumn hkind hresolves hparses hsame hknown =>
      obtain ⟨j, other, otherName, hrefers, hother, htable, rfl⟩ :=
        refersTo_of_resolvesTo hsheet hname hresolves
      obtain ⟨table, column, hcolumn, rfl, rfl⟩ := isColumn_of_get? hother htable hknown
      exact .wholeColumn hkind hrefers hparses hsame hcolumn

theorem planColumn_formula {sheet : Sheet} {t : Converter} {c : Sheet.Column}
    {text cellFormula : Text}
    (h : (planColumn sheet t c).column.content = .formula text cellFormula) :
    c.formula = some cellFormula ∧
      (t.convert cellFormula (some sheet.firstDataRow)).success = true ∧
      (t.convert cellFormula (some sheet.firstDataRow)).output = text := by
  rw [planColumn] at h
  split at h
  · contradiction
  · rename_i formula hformula
    cases hsuccess : (t.convert formula (some sheet.firstDataRow)).success with
    | false => simp [hsuccess] at h
    | true =>
        simp only [hsuccess, if_true, Converter.convert_formula, Plan.Content.formula.injEq] at h
        obtain ⟨houtput, rfl⟩ := h
        exact ⟨hformula, hsuccess, houtput⟩

theorem agrees_replaceAll {position : Nat} {sheet : Sheet} {name : Text} {tokens : List Token}
    {row : Option Nat} (hlexed : Token.Lexed tokens) (hsheet : sheets[position]? = some sheet)
    (hname : (tableNames sheets given)[position]? = some name) :
    List.Forall₂ (Agrees sheets (convert sheets options given).plan position) tokens
      ((converter options (registry options sheets (tableNames sheets given)) sheet
        (mappingOf options sheet name)).replaceAll row tokens) := by
  rw [Converter.replaceAll, List.forall₂_map_right_iff, List.forall₂_same]
  intro token htoken
  obtain ⟨rest, hreads⟩ := hlexed.reads token htoken
  refine ⟨Converter.replace_matches _ row token, fun href => ?_⟩
  rcases Converter.replace_reference hreads href row with hrewrites | ⟨d, hkeep, -⟩
  · exact .inr (refers_of_rewrites hsheet hname hrewrites)
  · exact .inl (congrArg Replacement.text hkeep)

/-- Every formula of a plan comes from the cell formula of its column, and refers to tables and
columns of the plan where the cell formula referred to sheets and columns of the workbook. -/
theorem convert_agrees (sheets : List Sheet) (options : Options) (given : Option (List Text))
    {position place : Nat} {table : Plan.Table} {column : Plan.Column} {text cellFormula : Text}
    (htable : (convert sheets options given).plan.tables[position]? = some table)
    (hcolumn : table.columns[place]? = some column)
    (hformula : column.content = .formula text cellFormula) :
    ∃ sheet source, sheets[position]? = some sheet ∧ sheet.columns[place]? = some source ∧
      source.formula = some cellFormula ∧
      ((Text.isAllBlank (Converter.body cellFormula) = true ∧ text = []) ∨
        ∃ tokens tokens', Token.tokenize (Converter.body cellFormula) = .ok tokens ∧
          text = Token.spaced tokens' ∧
          List.Forall₂ (Agrees sheets (convert sheets options given).plan position)
            tokens tokens') := by
  obtain ⟨sheet, name, hsheet, hname, rfl⟩ := tables_getElem?_eq_some_iff.mp htable
  obtain ⟨header, hheader, rfl⟩ := convertSheet_columns_getElem?_eq_some_iff.mp hcolumn
  obtain ⟨hsource, hsuccess, rfl⟩ := planColumn_formula hformula
  refine ⟨sheet, sheet.describe header place, hsheet,
    columns_getElem?_eq_some_iff.mpr ⟨header, hheader, rfl⟩, hsource, ?_⟩
  rcases Converter.of_convert_success hsuccess with hblank | ⟨tokens, htokens, houtput⟩
  · exact .inl hblank
  · obtain ⟨-, hlexed, -⟩ := Token.tokenize_eq_ok_iff.mp htokens
    exact .inr ⟨tokens, _, htokens, houtput, agrees_replaceAll hlexed hsheet hname⟩

theorem convert_agrees_rates :
    let orders : Sheet :=
      { name := "Orders".toList
        headers := ["Item".toList, "Total".toList]
        rows := [[.ofValue (.text "Tea".toList) "B3".toList,
          .ofFormula "SUM(rates!C2:C9)*B$4".toList .empty "C3".toList]]
        firstColumn := 1
        firstDataRow := 3 }
    let rates : Sheet :=
      { name := "Rates".toList
        headers := ["Rate".toList]
        rows := []
        firstColumn := 2
        firstDataRow := 2 }
    let sheets := [orders, rates, { rates with name := "RATES".toList, headers := ["Old".toList] }]
    let plan := (convert sheets {} none).plan
    let column : Plan.Column :=
      ⟨"Total".toList, "Total".toList,
        .formula "SUM(Rates.Rate) * Item[1]".toList "SUM(rates!C2:C9)*B$4".toList⟩
    let table : Plan.Table :=
      { name := "Orders".toList
        sheet := "Orders".toList
        columns := [⟨"Item".toList, "Item".toList, .values [.text "Tea".toList]⟩, column] }
    plan.tables[0]? = some table ∧ table.columns[1]? = some column ∧
      ∃ sheet source, sheets[0]? = some sheet ∧ sheet.columns[1]? = some source ∧
        source.formula = some "SUM(rates!C2:C9)*B$4".toList ∧
        ((Text.isAllBlank (Converter.body "SUM(rates!C2:C9)*B$4".toList) = true ∧
            "SUM(Rates.Rate) * Item[1]".toList = []) ∨
          ∃ tokens tokens',
            Token.tokenize (Converter.body "SUM(rates!C2:C9)*B$4".toList) = .ok tokens ∧
              "SUM(Rates.Rate) * Item[1]".toList = Token.spaced tokens' ∧
              List.Forall₂ (Agrees sheets plan 0) tokens tokens') := by
  intro orders rates sheets plan column table
  have htable : plan.tables[0]? = some table := by decide +kernel
  have hcolumn : table.columns[1]? = some column := rfl
  exact ⟨htable, hcolumn, convert_agrees sheets {} none htable hcolumn rfl⟩

end Workbook

end ColumnFormula
