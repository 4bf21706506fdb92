import ColumnFormula.Command.Convert
import ColumnFormula.Proofs.ImportRuns
import ColumnFormula.Proofs.PlanReferences
import ColumnFormula.Proofs.TableNames
import ColumnFormula.Proofs.WrittenTokens

namespace ColumnFormula

namespace Options

variable {o : Options} {name : Text}

/-- The options with this table name have no fault. -/
def Accepts (o : Options) (name : Text) : Prop := (o.withTableName name).fault? = none

theorem fault?_eq_none_iff :
    o.fault? = none ↔ o.headerRows ≠ 0 ∧ Text.isAllBlank o.tableName = false := by
  rw [fault?]
  split
  · simp [*]
  · split <;> simp [*]

theorem fault?_of_loadFrom {files : Files} {path : Option Text} {formats : Formats}
    (h : loadFrom files path formats = .ok o) : o.fault? = none := by
  cases path with
  | none =>
      obtain rfl := Except.ok.inj h
      decide
  | some path =>
      rw [loadFrom] at h
      split at h
      · contradiction
      · rw [load] at h
        split at h
        · contradiction
        · split at h
          · contradiction
          · obtain rfl := Except.ok.inj h
            assumption

theorem fault?_withTableName (h : o.fault? = none) (name : Text) :
    (o.withTableName name).fault? =
      if Text.isAllBlank name then some .blankTableName else none := by
  rw [fault?]
  exact if_neg (fault?_eq_none_iff.mp h).1

theorem accepts_iff (h : o.fault? = none) : o.Accepts name ↔ Text.isAllBlank name = false := by
  rw [Accepts, fault?_withTableName h]
  cases Text.isAllBlank name <;> simp

end Options

theorem Identifier.isAllBlank_of_isValid {name : Text} (h : isValid name) :
    Text.isAllBlank name = false := by
  cases name with
  | nil => contradiction
  | cons c s =>
      obtain ⟨hc, -, -⟩ := isValid_cons.mp h
      have hblank : Text.isBlank c = false := by
        by_contra hblank
        have hword := Text.isWordChar_of_isBlank (Bool.not_eq_false _ ▸ hblank)
        rw [Lexeme.isWordChar_of_isNameChar hc] at hword
        contradiction
      simp [Text.isAllBlank, hblank]

namespace Command

variable {formats : Formats} {files : Files} {args : ImportArgs} {options : Options}
  {sheets : List Sheet}

theorem plan_names (args : ImportArgs) (options : Options) (sheets : List Sheet) :
    (args.plan options sheets).tables.map (·.name) =
      Workbook.tableNames sheets (args.givenNames sheets) :=
  Workbook.tables_name sheets options _

theorem tableNames_given {name : Text} (hname : args.table = some name) (hone : sheets.length = 1) :
    Workbook.tableNames sheets (args.givenNames sheets) = [name] := by
  simp [ImportArgs.givenNames, Workbook.tableNames, hname, hone]

theorem tableNames_made (h : ¬ (∃ name, args.table = some name) ∨ sheets.length ≠ 1) :
    Workbook.tableNames sheets (args.givenNames sheets) = Workbook.tableNames.made sheets := by
  have hgiven : args.givenNames sheets = none := by
    rw [ImportArgs.givenNames]
    rcases h with h | h
    · have hnone : args.table = none := by simpa [Option.eq_none_iff_forall_not_mem] using h
      simp [hnone]
    · exact if_neg h
  rw [hgiven]
  rfl

/-- The tables of an import have names that its options accept just when the name that it is given
is not blank, or is not used because there are several sheets. -/
theorem accepts_names_iff (h : options.fault? = none) :
    (∀ table ∈ (args.plan options sheets).tables, options.Accepts table.name) ↔
      ∀ name, args.table = some name → sheets.length = 1 → Text.isAllBlank name = false := by
  have hnames : (∀ table ∈ (args.plan options sheets).tables, options.Accepts table.name) ↔
      ∀ name ∈ Workbook.tableNames sheets (args.givenNames sheets),
        Text.isAllBlank name = false := by
    simp only [← plan_names args options sheets, List.forall_mem_map, Options.accepts_iff h]
  rw [hnames]
  by_cases hgiven : (∃ name, args.table = some name) ∧ sheets.length = 1
  · obtain ⟨⟨name, hname⟩, hone⟩ := hgiven
    simp [tableNames_given hname hone, hname, hone]
  · rw [not_and_or] at hgiven
    rw [tableNames_made hgiven]
    constructor
    · intro _ name hname hone
      rcases hgiven with hno | hno
      · exact absurd ⟨name, hname⟩ hno
      · exact absurd hone hno
    · intro _ name hmade
      exact Identifier.isAllBlank_of_isValid (Workbook.made_isValid hmade).1

/-- A reference to a column of cells stays, or it names a table of the plan and a column of this. -/
def NamesTable (plan : Plan) (old new : Token) : Prop :=
  ∀ qualifier, old.kind = .range qualifier →
    new.text = old.text ∨
      ∃ table ∈ plan.tables, ∃ column ∈ table.columns,
        new.text = table.name ++ '.' :: column.identifier

theorem namesTable_of_agrees {plan : Plan} {position : Nat} {old new : Token}
    (h : Workbook.Agrees sheets plan position old new) : NamesTable plan old new := by
  intro qualifier hrange
  have href : old.IsReference := by simp [Token.IsReference, hrange]
  refine (h.refers href).imp_right fun hrefers => ?_
  generalize new.text = text at hrefers
  cases hrefers with
  | currentRow hcell | fixedRow hcell => simp [hrange] at hcell
  | wholeColumn _ _ _ _ hcolumn =>
      obtain ⟨_, _, _, _, _, hat⟩ := hcolumn.columnAt
      exact ⟨_, List.mem_of_getElem? hcolumn.tableAt, _, List.mem_of_getElem? hat, rfl⟩

theorem convert_refuses_iff {request : ConvertArgs} {name : Text}
    (hload : Options.loadFrom files request.config formats = .ok options)
    (hname : request.table = some name) :
    (convert files request formats).failure = some (.config .blankTableName) ↔
      Text.isAllBlank name := by
  have hfault := Options.fault?_withTableName (Options.fault?_of_loadFrom hload) name
  have hbind (next : Options → Except Failure Options) :
      Options.loadFrom files request.config formats >>= next = next options := by
    rw [hload]
    rfl
  by_cases hblank : Text.isAllBlank name
  · have hoptions : convertOptions files request formats =
        .error (.config .blankTableName) := by
      simp only [convertOptions, hbind, hname, hfault, if_pos hblank]
    simp [convert, hoptions, hblank]
  · have hoptions : convertOptions files request formats =
        .ok (options.withTableName name) := by
      simp only [convertOptions, hbind, hname, hfault, if_neg hblank]
    simp only [convert, hoptions, hblank, conversionFailure?]
    split <;> simp

/-- What names the tables of an import have: in the plan, in its formulas, and if a formula is
converted with the name that the import is given. -/
structure Named (formats : Formats) (files : Files) (args : ImportArgs) (options : Options)
    (sheets : List Sheet) : Prop where
  accepts_iff :
    (∀ table ∈ (args.plan options sheets).tables, options.Accepts table.name) ↔
      ∀ name, args.table = some name → sheets.length = 1 → Text.isAllBlank name = false
  references : ∀ table ∈ (args.plan options sheets).tables, ∀ column ∈ table.columns,
    ∀ text cellFormula, column.content = .formula text cellFormula →
      text = [] ∨ ∃ tokens tokens', Token.tokenize (Converter.body cellFormula) = .ok tokens ∧
        text = Token.spaced tokens' ∧
        List.Forall₂ (NamesTable (args.plan options sheets)) tokens tokens'
  refuses_iff : ∀ (request : ConvertArgs) (name : Text), request.config = args.config →
    request.table = some name →
      ((convert files request formats).failure = some (.config .blankTableName) ↔
        Text.isAllBlank name)

/-- An import that goes well has tables with names that its options accept, unless it is given a
blank name for its only table; with that name, converting a formula is refused. Where the formulas
of the plan refer to a column of cells, it is by the names of these tables. -/
theorem importWorkbook_names (h : (importWorkbook files args formats).failure = none) :
    ∃ options sheets, Prepared formats files args options sheets ∧
      Named formats files args options sheets := by
  have hends := importWorkbook_ends formats files args
  rw [h] at hends
  obtain ⟨_, ⟨options, sheets, hprepared, -⟩, -, -⟩ := hends.of_none
  refine ⟨options, sheets, hprepared,
    accepts_names_iff (Options.fault?_of_loadFrom hprepared.options_eq), ?_, ?_⟩
  · intro table htable column hcolumn text cellFormula hformula
    obtain ⟨position, hposition⟩ := List.mem_iff_getElem?.mp htable
    obtain ⟨place, hplace⟩ := List.mem_iff_getElem?.mp hcolumn
    obtain ⟨_, _, -, -, -, hblank | ⟨tokens, tokens', htokens, htext, hagrees⟩⟩ :=
      Workbook.convert_agrees sheets options _ hposition hplace hformula
    · exact .inl hblank.2
    · exact .inr ⟨tokens, tokens', htokens, htext, hagrees.imp fun _ _ => namesTable_of_agrees⟩
  · intro request name hconfig hname
    exact convert_refuses_iff (hconfig ▸ hprepared.options_eq) hname

theorem importWorkbook_names_sales :
    let document := "[[\"Orders\",[\"Price\",\"Total\"],[[[7,null,\"value\",\"A2\"],".toList ++
      "[7,\"SUM(A2:A9)\",\"formula\",\"B2\"]]]]]".toList
    let files := Files.ofList [("orders.json".toList, .text document)]
    let args : ImportArgs := { input := "orders.json".toList, table := some "Sales".toList }
    (importWorkbook files args).failure = none ∧
      ∃ options sheets, Prepared .builtIn files args options sheets ∧
        Named .builtIn files args options sheets := by
  intro document files args
  have hnone : (importWorkbook files args).failure = none := by decide +kernel
  exact ⟨hnone, importWorkbook_names hnone⟩

/-- A table with a blank name, and a formula that refers to it. Converting a formula with this
name is refused. -/
theorem importWorkbook_names_blank :
    let document := "[[\"Orders\",[\"Price\",\"Total\"],[[[7,null,\"value\",\"A2\"],".toList ++
      "[7,\"SUM(A2:A9)\",\"formula\",\"B2\"]]]]]".toList
    let files := Files.ofList [("orders.json".toList, .text document)]
    let args : ImportArgs := { input := "orders.json".toList, table := some " ".toList }
    let request : ConvertArgs :=
      { formula := "SUM(A:A)".toList, columns := ["Price".toList], table := some " ".toList }
    (importWorkbook files args).failure = none ∧
      (convert files request).failure = some (.config .blankTableName) ∧
      ∃ options sheets table column, Prepared .builtIn files args options sheets ∧
        table ∈ (args.plan options sheets).tables ∧ ¬ options.Accepts table.name ∧
        column ∈ table.columns ∧
        column.content = .formula "SUM( .Price)".toList "SUM(A2:A9)".toList := by
  intro document files args request
  let sheet : Sheet :=
    { name := "Orders".toList
      headers := ["Price".toList, "Total".toList]
      rows := [[.ofValue (.number (.ofInt 7)) "A2".toList,
        .ofFormula "SUM(A2:A9)".toList (.number (.ofInt 7)) "B2".toList]]
      firstColumn := 0
      firstDataRow := 2 }
  let price : Plan.Column := ⟨"Price".toList, "Price".toList, .values [.number (.ofInt 7)]⟩
  let total : Plan.Column :=
    ⟨"Total".toList, "Total".toList, .formula "SUM( .Price)".toList "SUM(A2:A9)".toList⟩
  have hread : Workbook.read files args.input 1 = .ok [sheet] := by decide +kernel
  have hplan : (args.plan {} [sheet]).tables =
      [⟨" ".toList, "Orders".toList, [price, total], []⟩] := by
    decide +kernel
  have hprepared : Prepared .builtIn files args {} [sheet] := ⟨rfl, ⟨[sheet], hread, rfl⟩, by simp⟩
  refine ⟨by decide +kernel, by decide +kernel, {}, [sheet], _, total, hprepared,
    hplan ▸ List.mem_singleton_self _, ?_, by simp, rfl⟩
  rw [Options.accepts_iff (by decide)]
  decide

end Command

end ColumnFormula
