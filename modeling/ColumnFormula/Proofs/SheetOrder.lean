import ColumnFormula.Proofs.ImportPlan

namespace ColumnFormula

namespace Registry

/-- No two sheets have the same name. -/
def HasDistinctNames (r : Registry) : Prop :=
  r.sheets.Pairwise fun a b => Text.upperCase a.1 ≠ Text.upperCase b.1

theorem HasDistinctNames.perm {r r' : Registry} (h : r.HasDistinctNames)
    (hperm : r'.sheets.Perm r.sheets) : r'.HasDistinctNames :=
  (hperm.pairwise_iff fun hne => hne.symm).mpr h

theorem HasDistinctNames.positionOf? {r : Registry} (h : r.HasDistinctNames) {i : Nat}
    {sheet : Text × Mapping} (hsheet : r.sheets[i]? = some sheet) :
    r.positionOf? sheet.1 = some i := by
  obtain ⟨hi, rfl⟩ := List.getElem?_eq_some_iff.mp hsheet
  rw [Registry.positionOf?, List.findIdx?_eq_some_iff_getElem]
  refine ⟨hi, by simp [sameName], fun j hji => ?_⟩
  simpa [sameName] using List.pairwise_iff_getElem.mp h j i (by omega) hi hji

theorem HasDistinctNames.get?_eq_some_iff_mem {r : Registry} (h : r.HasDistinctNames) {name : Text}
    {m : Mapping} :
    r.get? name = some m ↔
      ∃ own, (own, m) ∈ r.sheets ∧ Text.upperCase own = Text.upperCase name := by
  constructor
  · intro hget
    obtain ⟨j, own, hj, hsame, -⟩ := get?_eq_some_iff.mp hget
    exact ⟨own, List.mem_of_getElem? hj, hsame⟩
  · rintro ⟨own, hmem, hsame⟩
    obtain ⟨i, hi⟩ := List.mem_iff_getElem?.mp hmem
    rw [r.get?_congr hsame.symm, get?, h.positionOf? hi, Option.bind_some, at?, hi]
    rfl

theorem HasDistinctNames.get?_perm {r r' : Registry} (h : r.HasDistinctNames)
    (hperm : r'.sheets.Perm r.sheets) (name : Text) : r'.get? name = r.get? name := by
  ext m
  rw [(h.perm hperm).get?_eq_some_iff_mem, h.get?_eq_some_iff_mem]
  simp only [hperm.mem_iff]

end Registry

namespace Converter

variable {t t' : Converter} {row : Option Nat}

/-- What a token becomes depends only on the own mapping, the first row of data, whether functions
are warned about, and the sheet that the token is to. -/
theorem replace_congr {token : Token} (hmapping : t'.mapping = t.mapping)
    (hrow : t'.firstDataRow = t.firstDataRow)
    (hwarn : t'.warnUnknownFunctions = t.warnUnknownFunctions)
    (htarget : ∀ sheet, token.kind = .cell sheet ∨ token.kind = .range sheet →
      t'.target sheet = t.target sheet) :
    t'.replace row token = t.replace row token := by
  have hown : t'.ownCell row token = t.ownCell row token := by
    rw [ownCell, ownCell, hmapping, hrow]
  cases hkind : token.kind with
  | cell sheet => simp only [replace, hkind, cell, htarget sheet (.inl hkind), hown]
  | range sheet => simp only [replace, hkind, range, htarget sheet (.inr hkind), hmapping]
  | function => simp only [replace, hkind, function, hwarn]
  | _ => simp only [replace, hkind]

theorem convert_congr {formula : Text}
    (h : ∀ tokens, Token.tokenize (body formula) = .ok tokens →
      ∀ token ∈ tokens, t'.replace row token = t.replace row token) :
    t'.convert formula row = t.convert formula row := by
  rw [convert, convert]
  split
  · rfl
  split
  · rfl
  · rename_i tokens htokens
    have hreplace := h tokens htokens
    have hall : t'.replaceAll row tokens = t.replaceAll row tokens := by
      apply List.map_congr_left
      intro token htoken
      rw [hreplace token htoken]
    have hdiagnose : t'.diagnose row tokens = t.diagnose row tokens := by
      apply List.flatMap_congr
      intro token htoken
      rw [hreplace token ((List.filter_append_perm isRange tokens).mem_iff.mp htoken)]
    rw [hall, hdiagnose]

end Converter

namespace Workbook

/-- The items at some places of a list, in the order of the places. -/
def arrange {α : Type} (order : List Nat) (xs : List α) : List α := order.filterMap (xs[·]?)

variable {α β : Type} {order : List Nat}

theorem arrange_range (xs : List α) : arrange (List.range xs.length) xs = xs := by
  induction xs using List.reverseRecOn with
  | nil => rfl
  | append_singleton xs x ih =>
      have hfront : (List.range xs.length).filterMap ((xs ++ [x])[·]?) = xs := by
        refine Eq.trans (List.filterMap_congr fun i hi => ?_) ih
        exact List.getElem?_append_left (List.mem_range.mp hi)
      rw [arrange, List.length_append, List.length_singleton, List.range_succ,
        List.filterMap_append,
        hfront]
      simp

theorem arrange_perm {xs : List α} (h : order.Perm (List.range xs.length)) :
    (arrange order xs).Perm xs := by
  have hperm := h.filterMap (xs[·]?)
  rwa [← arrange, ← arrange, arrange_range] at hperm

theorem arrange_map (f : α → β) (order : List Nat) (xs : List α) :
    arrange order (xs.map f) = (arrange order xs).map f := by
  rw [arrange, arrange, List.map_filterMap]
  exact List.filterMap_congr fun i _ => List.getElem?_map ..

theorem arrange_zip (order : List Nat) {xs : List α} {ys : List β} (h : xs.length = ys.length) :
    arrange order (xs.zip ys) = (arrange order xs).zip (arrange order ys) := by
  induction order with
  | nil => rfl
  | cons i order ih =>
      unfold arrange at ih ⊢
      by_cases hi : i < xs.length
      · simp [ih, hi, h ▸ hi]
      · simp [ih, Nat.not_lt.mp hi, h ▸ Nat.not_lt.mp hi]

theorem convertSheet_congr {sheet : Sheet} {t t' : Converter} (hmapping : t'.mapping = t.mapping)
    (hconvert : ∀ c ∈ sheet.columns, ∀ formula, c.formula = some formula →
      t'.convert formula (some sheet.firstDataRow) = t.convert formula (some sheet.firstDataRow)) :
    convertSheet sheet t' = convertSheet sheet t := by
  have hplanned :
      sheet.columns.map (planColumn sheet t') = sheet.columns.map (planColumn sheet t) := by
    apply List.map_congr_left
    intro c hc
    cases hformula : c.formula with
    | none => simp only [planColumn, hformula, hmapping]
    | some formula => simp only [planColumn, hformula, hmapping, hconvert c hc formula hformula]
  rw [convertSheet, convertSheet, hplanned, hmapping]

theorem target_converter {options : Options} {all all' : Registry} {sheet : Sheet} {m : Mapping}
    (hget : ∀ name, all'.get? name = all.get? name) (name : Option Text) :
    (converter options all' sheet m).target name = (converter options all sheet m).target name := by
  cases name with
  | none => rfl
  | some name => simp only [converter, Converter.withFirstDataRow, Converter.withPlace,
      Converter.target, hget]

theorem convertSheet_of_get? {options : Options} {all all' : Registry} {sheet : Sheet} {m : Mapping}
    (hget : ∀ name, all'.get? name = all.get? name) :
    convertSheet sheet (converter options all' sheet m) =
      convertSheet sheet (converter options all sheet m) := by
  refine convertSheet_congr rfl ?_
  intro c _ formula _
  apply Converter.convert_congr
  intro tokens _ token _
  exact Converter.replace_congr rfl rfl rfl fun name _ => target_converter hget name

/-- The table and the report of a sheet whose name no other sheet has. -/
def convertAlone (options : Options) (all : Registry) (pair : Sheet × Text) :
    Plan.Table × SheetReport :=
  let (table, report) :=
    convertSheet pair.1 (converter options all pair.1 (mappingOf options pair.1 pair.2))
  (table, ⟨pair.1.name, table.name, report⟩)

theorem convertAt_eq_convertAlone {options : Options} {all : Registry} (h : all.HasDistinctNames)
    {position : Nat} {pair : Sheet × Text}
    (hentry : all.sheets[position]? = some (pair.1.name, mappingOf options pair.1 pair.2)) :
    convertAt options all position pair.1 (mappingOf options pair.1 pair.2) =
      convertAlone options all pair := by
  have hshadow : shadowWarning? all position pair.1.name = none := by
    have hfirst : (some position).filter (· ≠ position) = none := by simp
    rw [shadowWarning?, h.positionOf? hentry, hfirst]
  rw [convertAt, hshadow, Option.toList_none, convertAlone]
  simp only [List.append_nil]

theorem registry_eq (options : Options) (sheets : List Sheet) (names : List Text) :
    registry options sheets names =
      ⟨(sheets.zip names).map fun pair => (pair.1.name, mappingOf options pair.1 pair.2)⟩ := by
  rw [registry, ← List.map_uncurry_zip_eq_zipWith]
  rfl

theorem registry_hasDistinctNames {sheets : List Sheet} {names : List Text} (options : Options)
    (hlength : names.length = sheets.length)
    (hnames : sheets.Pairwise fun a b => Text.upperCase a.name ≠ Text.upperCase b.name) :
    (registry options sheets names).HasDistinctNames := by
  have hsheets : (sheets.zip names).map Prod.fst = sheets := List.map_fst_zip hlength.ge
  rw [← hsheets, List.pairwise_map] at hnames
  rw [registry_eq, Registry.HasDistinctNames, List.pairwise_map]
  exact hnames

theorem convert_of_distinct {sheets : List Sheet} {names : List Text} (options : Options)
    (hlength : names.length = sheets.length)
    (hdistinct : (registry options sheets names).HasDistinctNames) :
    convert sheets options (some names) =
      let converted :=
        (sheets.zip names).map (convertAlone options (registry options sheets names))
      ⟨⟨converted.map (·.1)⟩, converted.map (·.2)⟩ := by
  have hnames : tableNames sheets (some names) = names := if_pos hlength
  rw [convert, hnames,
    map_zipIdx_eq_map (g := convertAlone options (registry options sheets names))]
  intro position pair hpair
  apply convertAt_eq_convertAlone hdistinct
  rw [registry_eq, List.getElem?_map, hpair]
  rfl

/-- The sheets of a workbook in another order, with their table names, become the same tables and
reports in that order, when no two sheets have the same name. -/
theorem convert_arrange {sheets : List Sheet} {names : List Text} {order : List Nat}
    (options : Options) (hlength : names.length = sheets.length)
    (hnames : sheets.Pairwise fun a b => Text.upperCase a.name ≠ Text.upperCase b.name)
    (horder : order.Perm (List.range sheets.length)) :
    let outcome := convert sheets options (some names)
    convert (arrange order sheets) options (some (arrange order names)) =
      ⟨⟨arrange order outcome.plan.tables⟩, arrange order outcome.reports⟩ := by
  intro outcome
  have hdistinct := registry_hasDistinctNames options hlength hnames
  have hlength' : (arrange order names).length = (arrange order sheets).length := by
    rw [(arrange_perm horder).length_eq, (arrange_perm (hlength ▸ horder)).length_eq, hlength]
  have hperm : (registry options (arrange order sheets) (arrange order names)).sheets.Perm
      (registry options sheets names).sheets := by
    rw [registry_eq, registry_eq, ← arrange_zip order hlength.symm]
    apply List.Perm.map
    apply arrange_perm
    rwa [List.length_zip, hlength, Nat.min_self]
  have hsame :
      convertAlone options (registry options (arrange order sheets) (arrange order names)) =
      convertAlone options (registry options sheets names) := by
    funext pair
    rw [convertAlone, convertAlone, convertSheet_of_get? (hdistinct.get?_perm hperm)]
  have houtcome : outcome = _ := convert_of_distinct options hlength hdistinct
  rw [houtcome, convert_of_distinct options hlength' (hdistinct.perm hperm), hsame,
    ← arrange_zip order hlength.symm]
  simp only [arrange_map]

theorem convert_arrange_rates :
    let orders : Sheet :=
      { name := "Orders".toList
        headers := ["Total".toList]
        rows := [[.ofFormula "SUM(rates!B:B)+MAX('A b'!A:A)".toList .empty "A2".toList]]
        firstColumn := 0
        firstDataRow := 2 }
    let rates : Sheet :=
      { name := "Rates".toList
        headers := ["Rate".toList]
        rows := [[.ofFormula "MIN(orders!A2:A9)".toList .empty "B2".toList]]
        firstColumn := 1
        firstDataRow := 2 }
    let sheets := [orders, rates, { rates with name := "a B".toList, rows := [], firstColumn := 0 }]
    let names := ["Orders".toList, "Rates".toList, "Other".toList]
    let order := [2, 0, 1]
    let outcome := convert sheets {} (some names)
    names.length = sheets.length ∧
      (sheets.Pairwise fun a b => Text.upperCase a.name ≠ Text.upperCase b.name) ∧
      order.Perm (List.range sheets.length) ∧
      outcome.plan.tables.map (fun table => table.columns.map (·.formula?)) =
        [[some "SUM(Rates.Rate) + MAX(Other.Rate)".toList], [some "MIN(Orders.Total)".toList],
          [none]] ∧
      convert (arrange order sheets) {} (some (arrange order names)) =
        ⟨⟨arrange order outcome.plan.tables⟩, arrange order outcome.reports⟩ := by
  intro orders rates sheets names order outcome
  have hlength : names.length = sheets.length := rfl
  have hnames : sheets.Pairwise fun a b => Text.upperCase a.name ≠ Text.upperCase b.name := by
    decide +kernel
  have horder : order.Perm (List.range sheets.length) := by decide
  exact ⟨hlength, hnames, horder, by decide +kernel, convert_arrange {} hlength hnames horder⟩

end Workbook

end ColumnFormula
