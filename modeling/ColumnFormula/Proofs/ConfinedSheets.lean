import ColumnFormula.Proofs.ImportedColumns
import ColumnFormula.Proofs.PlanReferences
import ColumnFormula.Proofs.SheetOrder

namespace ColumnFormula

/-- Every reference in the formulas of the sheet has no sheet, or the name of this one. -/
def Sheet.IsConfined (s : Sheet) : Prop :=
  ∀ c ∈ s.columns, ∀ formula, c.formula = some formula →
    ∀ tokens, Token.tokenize (Converter.body formula) = .ok tokens →
      ∀ token ∈ tokens, ∀ qualifier,
        token.kind = .cell qualifier ∨ token.kind = .range qualifier → s.Answers qualifier

namespace Workbook

variable {sheet : Sheet}

theorem target_converter_of_answers (options : Options) (all : Registry) (m : Mapping)
    {qualifier : Option Text}
    (h : sheet.Answers qualifier) : (converter options all sheet m).target qualifier = .own :=
  Converter.target_eq_own_iff.mpr (isOwn_converter_iff.mpr h)

theorem convertSheet_of_isConfined (h : sheet.IsConfined) (options : Options) (all all' : Registry)
    (m : Mapping) :
    convertSheet sheet (converter options all' sheet m) =
      convertSheet sheet (converter options all sheet m) := by
  apply convertSheet_congr
  · rfl
  intro c hc formula hformula
  apply Converter.convert_congr
  intro tokens htokens token htoken
  apply Converter.replace_congr
  · rfl
  · rfl
  · rfl
  intro qualifier hkind
  have hanswers : sheet.Answers qualifier :=
    h c hc formula hformula tokens htokens token htoken _ hkind
  rw [target_converter_of_answers options all' m hanswers,
    target_converter_of_answers options all m hanswers]

/-- A sheet that refers to no other sheet becomes the same columns, with the same entries in the
report, in any workbook where its table has the same name. -/
theorem convert_isConfined {sheets sheets' : List Sheet} {given given' : Option (List Text)}
    {position position' : Nat} (options : Options) (hconfined : sheet.IsConfined)
    (hsheet : sheets[position]? = some sheet) (hsheet' : sheets'[position']? = some sheet)
    (hnames : (tableNames sheets given)[position]? = (tableNames sheets' given')[position']?) :
    ∃ table report table' report',
      (convert sheets options given).plan.tables[position]? = some table ∧
      (convert sheets options given).reports[position]? = some report ∧
      (convert sheets' options given').plan.tables[position']? = some table' ∧
      (convert sheets' options given').reports[position']? = some report' ∧
      table.columns = table'.columns ∧ report.report.entries = report'.report.entries := by
  obtain ⟨name, hname, htable, hreport⟩ := exists_convertAt sheets options given hsheet
  obtain ⟨name', hname', htable', hreport'⟩ := exists_convertAt sheets' options given' hsheet'
  obtain rfl : name = name' := by
    rw [hname, hname'] at hnames
    exact Option.some.inj hnames
  have hsame := convertSheet_of_isConfined hconfined options
    (registry options sheets (tableNames sheets given))
    (registry options sheets' (tableNames sheets' given')) (mappingOf options sheet name)
  refine ⟨_, _, _, _, htable, hreport, htable', hreport', ?_, ?_⟩
  · change (convertSheet _ _).1.columns = (convertSheet _ _).1.columns
    rw [hsame]
  · change (convertSheet _ _).2.entries = (convertSheet _ _).2.entries
    rw [hsame]

theorem convert_isConfined_duplicate :
    let sheet : Sheet :=
      { name := "Data".toList
        headers := ["Price".toList, "Total".toList]
        rows := [[.ofValue .empty "A2".toList,
          .ofFormula "A2/SUM('DATA'!A:A)*B$2".toList .empty "B2".toList]]
        firstColumn := 0
        firstDataRow := 2 }
    let other : Sheet :=
      { sheet with name := "DATA".toList, headers := ["Other".toList], rows := [] }
    let sheets' := [other, { other with name := "Rates".toList }, sheet]
    let names := ["Sales".toList]
    let names' := ["Old".toList, "Rates".toList, "Sales".toList]
    sheet.IsConfined ∧ [sheet][0]? = some sheet ∧ sheets'[2]? = some sheet ∧
      (tableNames [sheet] (some names))[0]? = (tableNames sheets' (some names'))[2]? ∧
      (convert sheets' {} (some names')).plan.tables[2]?.map (·.columns.map (·.formula?)) =
        some [none, some "$Price / SUM(Sales.Price) * Total[0]".toList] ∧
      ∃ table report table' report',
        (convert [sheet] {} (some names)).plan.tables[0]? = some table ∧
        (convert [sheet] {} (some names)).reports[0]? = some report ∧
        (convert sheets' {} (some names')).plan.tables[2]? = some table' ∧
        (convert sheets' {} (some names')).reports[2]? = some report' ∧
        table.columns = table'.columns ∧ report.report.entries = report'.report.entries := by
  intro sheet other sheets' names names'
  have hkinds : ∀ c ∈ sheet.columns, ∀ formula ∈ c.formula,
      ∀ tokens ∈ (Token.tokenize (Converter.body formula)).toOption, ∀ token ∈ tokens,
        token.kind ∈ [.cell none, .range (some "DATA".toList)] ∨ ¬ token.IsReference := by
    decide +kernel
  have hconfined : sheet.IsConfined := by
    intro c hc formula hformula tokens htokens token htoken qualifier hkind
    have htokens' : tokens ∈ (Token.tokenize (Converter.body formula)).toOption := by
      rw [htokens]
      rfl
    have hmem : token.kind ∈ [.cell none, .range (some "DATA".toList)] := by
      rcases hkinds c hc formula hformula tokens htokens' token htoken with hmem | hnot
      · exact hmem
      · exact absurd (hkind.imp (⟨qualifier, ·⟩) (⟨qualifier, ·⟩)) hnot
    rcases hkind with hkind | hkind
    · obtain rfl : qualifier = none := by simpa [hkind] using hmem
      trivial
    · obtain rfl : qualifier = some "DATA".toList := by simpa [hkind] using hmem
      exact (by decide : Text.sameIgnoringCase "Data".toList "DATA".toList = true)
  have hnames : (tableNames [sheet] (some names))[0]? =
      (tableNames sheets' (some names'))[2]? := rfl
  exact ⟨hconfined, rfl, rfl, hnames, by decide +kernel,
    convert_isConfined {} hconfined rfl rfl hnames⟩

end Workbook

end ColumnFormula
