import ColumnFormula.Command.Import
import ColumnFormula.Proofs.ImportPlan
import ColumnFormula.Proofs.WrittenFiles

/-!
What an import does to files. It comes to the writing only when everything else has gone well, so
it ends at the stage that fails with the files as they were, or with nothing but the output file
changed. Main statement: this, with the plan that the output file holds, and when an import goes
well.
-/

namespace ColumnFormula.Command

/-- The name that an import gives to its table, if it has one to give and makes a single table. -/
def ImportArgs.givenNames (args : ImportArgs) (sheets : List Sheet) : Option (List Text) :=
  if sheets.length = 1 then args.table.map ([·]) else none

/-- The plan that an import makes of the sheets that it has chosen. -/
def ImportArgs.plan (args : ImportArgs) (options : Options) (sheets : List Sheet) : Plan :=
  (Workbook.convert sheets options (args.givenNames sheets)).plan

/-- An import comes as far as to convert these sheets with these options. -/
structure Prepared (formats : Formats) (files : Files) (args : ImportArgs) (options : Options)
    (sheets : List Sheet) : Prop where
  options_eq : Options.loadFrom files args.config formats = .ok options
  sheets_eq : ∃ all, Workbook.read files args.input options.headerRows formats = .ok all ∧
    Workbook.choose args.sheet all = sheets
  sheets_ne_nil : sheets ≠ []

/-- An import comes as far as to write its plan, which is this text. -/
def Renders (formats : Formats) (files : Files) (args : ImportArgs) (content : Text) : Prop :=
  ∃ options sheets, Prepared formats files args options sheets ∧
    formats.write args.outputFormat (args.plan options sheets) = .ok content

/-- How an import ends: with which failure, if there is one, and with which files. -/
inductive Ends (formats : Formats) (files : Files) (args : ImportArgs) :
    Option Failure → Files → Prop
  | noOptions {cause : Failure} (load : Options.loadFrom files args.config formats = .error cause) :
      Ends formats files args (some cause) files
  | noWorkbook {options : Options} {cause : Failure}
      (load : Options.loadFrom files args.config formats = .ok options)
      (read : Workbook.read files args.input options.headerRows formats = .error cause) :
      Ends formats files args (some cause) files
  | noSheet {options : Options} {all : List Sheet}
      (load : Options.loadFrom files args.config formats = .ok options)
      (read : Workbook.read files args.input options.headerRows formats = .ok all)
      (choose : Workbook.choose args.sheet all = []) :
      Ends formats files args (some (nothingFound args.sheet)) files
  | notRendered {options : Options} {sheets : List Sheet} {cause : Failure}
      (prepared : Prepared formats files args options sheets)
      (render : formats.write args.outputFormat (args.plan options sheets) = .error cause) :
      Ends formats files args (some cause) files
  | printed {content : Text} (renders : Renders formats files args content)
      (output : args.output = none) : Ends formats files args none files
  | notWritten {content path : Text} (renders : Renders formats files args content)
      (output : args.output = some path) (write : ¬ files.IsWritable path) :
      Ends formats files args (some .io) files
  | written {content path : Text} {files' : Files} (renders : Renders formats files args content)
      (output : args.output = some path) (write : files.write? path content = some files') :
      Ends formats files args none files'

variable {formats : Formats} {files : Files} {args : ImportArgs}

theorem plan_tables_eq_nil_iff (args : ImportArgs) (options : Options) (sheets : List Sheet) :
    (args.plan options sheets).tables = [] ↔ sheets = [] := by
  rw [← List.length_eq_zero_iff, ← List.length_eq_zero_iff, ImportArgs.plan, Workbook.tables_length]

theorem outcome_eq {options : Options} {all sheets : List Sheet}
    (hread : Workbook.read files args.input options.headerRows formats = .ok all)
    (hchoose : Workbook.choose args.sheet all = sheets) :
    outcome files args options formats =
      if sheets = [] then .error (nothingFound args.sheet)
      else .ok (Workbook.convert sheets options (args.givenNames sheets)) := by
  have himport : Workbook.importFrom files args.input options args.sheet args.table formats =
      .ok (Workbook.convert sheets options (args.givenNames sheets)) := by
    rw [Workbook.importFrom, hread]
    subst hchoose
    rfl
  rw [outcome, himport]
  exact if_congr (plan_tables_eq_nil_iff args options sheets) rfl rfl

theorem outcome_eq_error {options : Options} {cause : Failure}
    (hread : Workbook.read files args.input options.headerRows formats = .error cause) :
    outcome files args options formats = .error cause := by
  rw [outcome, Workbook.importFrom, hread]
  rfl

theorem Prepared.ends {options : Options} {sheets : List Sheet}
    (h : Prepared formats files args options sheets) :
    Ends formats files args (importWorkbook files args formats).failure
      (importWorkbook files args formats).files := by
  obtain ⟨all, hread, hchoose⟩ := h.sheets_eq
  have hplan : (Workbook.convert sheets options (args.givenNames sheets)).plan =
      args.plan options sheets := rfl
  simp only [importWorkbook, h.options_eq, outcome_eq hread hchoose, if_neg h.sheets_ne_nil, hplan]
  cases hrender : formats.write args.outputFormat (args.plan options sheets) with
  | error cause => exact .notRendered h hrender
  | ok content =>
      have hrenders : Renders formats files args content := ⟨options, sheets, h, hrender⟩
      cases houtput : args.output with
      | none => exact .printed hrenders houtput
      | some path =>
          cases hwrite : files.write? path content with
          | none =>
              simp only [hwrite]
              exact .notWritten hrenders houtput (Files.not_isWritable_of_write? hwrite)
          | some written =>
              simp only [hwrite]
              exact .written hrenders houtput hwrite

theorem importWorkbook_ends (formats : Formats) (files : Files) (args : ImportArgs) :
    Ends formats files args (importWorkbook files args formats).failure
      (importWorkbook files args formats).files := by
  cases hload : Options.loadFrom files args.config formats with
  | error cause =>
      simp only [importWorkbook, hload]
      exact .noOptions hload
  | ok options =>
      cases hread : Workbook.read files args.input options.headerRows formats with
      | error cause =>
          simp only [importWorkbook, hload, outcome_eq_error hread]
          exact .noWorkbook hload hread
      | ok all =>
          by_cases hchoose : Workbook.choose args.sheet all = []
          · simp only [importWorkbook, hload, outcome_eq hread rfl, if_pos hchoose]
            exact .noSheet hload hread hchoose
          · exact Prepared.ends ⟨hload, ⟨all, hread, rfl⟩, hchoose⟩

theorem Prepared.unique {options options' : Options} {sheets sheets' : List Sheet}
    (h : Prepared formats files args options sheets)
    (h' : Prepared formats files args options' sheets') :
    options = options' ∧ sheets = sheets' := by
  obtain rfl := Except.ok.inj (h.options_eq.symm.trans h'.options_eq)
  obtain ⟨all, hread, rfl⟩ := h.sheets_eq
  obtain ⟨all', hread', rfl⟩ := h'.sheets_eq
  obtain rfl := Except.ok.inj (hread.symm.trans hread')
  exact ⟨rfl, rfl⟩

/-- The files that a text leaves: all as they were, but the output file, if there is one, holds
it. -/
def Leaves (files : Files) (output : Option Text) (content : Text) (files' : Files) : Prop :=
  match output with
  | none => files' = files
  | some path =>
      files'.get? path = some (.text content) ∧
        ∀ other, files.filePlace? other ≠ files.filePlace? path →
          files'.get? other = files.get? other

theorem Ends.of_none {files' : Files} (h : Ends formats files args none files') :
    ∃ content, Renders formats files args content ∧ Leaves files args.output content files' ∧
      ∀ path, args.output = some path → files.IsWritable path := by
  cases h with
  | printed hrenders houtput =>
      refine ⟨_, hrenders, ?_, ?_⟩
      · rw [houtput]
        rfl
      · simp [houtput]
  | written hrenders houtput hwrite =>
      refine ⟨_, hrenders, ?_, ?_⟩
      · rw [houtput]
        exact ⟨Files.get?_of_write? hwrite, fun other => Files.get?_of_write?_of_ne hwrite⟩
      · intro path' hpath'
        obtain rfl := Option.some.inj (houtput.symm.trans hpath')
        exact Files.isWritable_of_write? hwrite

end ColumnFormula.Command
