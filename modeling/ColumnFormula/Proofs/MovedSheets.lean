import ColumnFormula.Proofs.ColumnMapping
import ColumnFormula.Proofs.MovedTokens

namespace ColumnFormula

open Lexeme

def Column.move (columns : Nat) (s : Text) : Text :=
  ((index? s).map fun index => letters (index + columns)).getD s

namespace Bound

/-- A bound as written a number of columns and of rows further on, whether absolute or not. -/
def Written.move (columns rows : Nat) (w : Written) : Written :=
  { w with
    letters := Column.move columns w.letters
    digits := if w.digits = [] then [] else Text.ofNat (Text.toNat w.digits + rows) }

def move (columns rows : Nat) (b : Bound) : Bound :=
  { b with column := Column.move columns b.column, row := b.row.map (· + rows) }

end Bound

/-- There are columns and rows as far on as the bounds of the reference move. -/
def Reference.CanMove (columns rows : Nat) (r : Reference) : Prop :=
  ∀ b ∈ r.bounds,
    (∀ index ∈ Column.index? b.column, index + columns + 1 < Column.indexBound) ∧
      ∀ row ∈ b.row, row + rows ≤ Bound.greatestRow

instance (columns rows : Nat) (r : Reference) : Decidable (r.CanMove columns rows) :=
  inferInstanceAs (Decidable (∀ b ∈ r.bounds, _))

/-- A formula with all its references a number of columns and of rows further on. -/
def Converter.move (columns rows : Nat) : Text → Text :=
  rewrite (Token.rewrite (Bound.Written.move columns rows))

variable {columns rows : Nat}

theorem Column.move_eq {s : Text} {index : Nat} (h : index? s = some index) :
    move columns s = letters (index + columns) := by
  rw [move, h]
  rfl

theorem Column.index?_move {s : Text} {index : Nat} (h : index? s = some index)
    (hbound : index + columns + 1 < indexBound) :
    index? (move columns s) = some (index + columns) :=
  index?_eq_some_iff.mpr ⟨move_eq h, hbound⟩

namespace Bound

theorem isRewriting_move (columns rows : Nat) : IsRewriting (Written.move columns rows) where
  wellFormed w h := by
    have hletters : (w.move columns rows).letters = w.letters ∨
        ∃ index, (w.move columns rows).letters = Column.letters index := by
      rw [Written.move, Column.move]
      cases Column.index? w.letters with
      | none => exact .inl rfl
      | some index => exact .inr ⟨index + columns, rfl⟩
    constructor
    case letters_ne_nil =>
      rcases hletters with heq | ⟨index, heq⟩
      · exact heq ▸ h.letters_ne_nil
      · exact heq ▸ Column.letters_ne_nil index
    case letters_isUpper =>
      rcases hletters with heq | ⟨index, heq⟩
      · exact heq ▸ h.letters_isUpper
      · exact heq ▸ Column.letters_isUpper index
    case digits_isDigit =>
      rw [Written.move]
      dsimp only
      split
      · simp
      · exact fun _ => Text.isDigit_of_mem_ofNat
    case digits_ne_nil =>
      intro hmark
      simp [Written.move, h.digits_ne_nil hmark, Text.ofNat_ne_nil]
  columnMark _ := rfl
  digits_eq_nil_iff w := by simp [Written.move, Text.ofNat_ne_nil]

theorem move_row_isSome (b : Bound) : (b.move columns rows).row.isSome = b.row.isSome :=
  Option.isSome_map

theorem parse?_move {word : Text} {b : Bound} (h : parse? word = some b)
    (hcolumn : ∀ index ∈ Column.index? b.column, index + columns + 1 < Column.indexBound)
    (hrows : ∀ row ∈ b.row, row + rows ≤ greatestRow) :
    parse? (rewriteText (Written.move columns rows) word) = some (b.move columns rows) := by
  obtain ⟨w, index, hw, hindex, hrow, hb⟩ := of_parse?_eq_some h
  obtain ⟨rfl, hform⟩ := split?_eq_some_iff.mp hw
  have hletters : b.column = w.letters := by rw [hb]
  have hindex' := Column.index?_move hindex (hcolumn index (hletters ▸ hindex))
  have hrow' : rowOfDigits? (w.move columns rows).digits = some (b.row.map (· + rows)) := by
    obtain ⟨hdigits, hpos⟩ := of_rowOfDigits?_eq_some hrow
    rw [Written.move]
    by_cases hnil : w.digits = []
    · rw [if_pos hnil] at hdigits ⊢
      rw [hdigits]
      rfl
    · rw [if_neg hnil] at hdigits ⊢
      have hmem : Text.toNat w.digits ∈ b.row := by rw [hdigits]; rfl
      have := hpos _ hmem
      rw [rowOfDigits?_ofNat (by omega) (hrows _ hmem), hdigits]
      rfl
  rw [rewriteText_text _ hform, parse?_text ((isRewriting_move columns rows).wellFormed w hform)
    hindex' hrow', hb]
  rfl

end Bound

/-- The columns stand a number of places further on. -/
structure Mapping.MovedTo (columns : Nat) (m m' : Mapping) : Prop where
  table : m'.table = m.table
  firstColumn : m'.firstColumn = m.firstColumn + columns
  identifiers : m'.identifiers = m.identifiers

theorem Mapping.MovedTo.get? {m m' : Mapping} (h : m.MovedTo columns m') {letters identifier : Text}
    (hget : m.get? letters = some identifier)
    (hbound : ∀ index ∈ Column.index? letters, index + columns + 1 < Column.indexBound) :
    m'.get? (Column.move columns letters) = some identifier := by
  obtain ⟨index, hindex, hle, hidentifier⟩ := get?_eq_some_iff.mp hget
  refine get?_eq_some_iff.mpr ⟨_, Column.index?_move hindex (hbound index hindex), ?_, ?_⟩
  · rw [h.firstColumn]
    omega
  · rwa [h.firstColumn, h.identifiers, Nat.add_sub_add_right]

namespace Converter

/-- The columns and the first row of data stand a number of places further on. -/
structure MovedTo (columns rows : Nat) (t t' : Converter) : Prop where
  mapping : t.mapping.MovedTo columns t'.mapping
  firstDataRow : t'.firstDataRow = t.firstDataRow + rows

theorem Rewrites.move {t t' : Converter} {token : Token} {text rest : Text}
    (h : t.Rewrites token text) (hmoved : t.MovedTo columns rows t')
    (hreads : Reads token.kind token.text rest) (hbare : token.IsBareReference)
    (hcan : ∀ r, Reference.parse? token.referenceText = some r → r.CanMove columns rows) :
    t'.Rewrites (token.rewrite (Bound.Written.move columns rows)) text := by
  have hparses' : ∀ {r}, Reference.parse? token.referenceText = some r →
      Reference.parse? (token.rewrite (Bound.Written.move columns rows)).referenceText =
        some (r.mapBounds (Bound.move columns rows)) := by
    intro r hparse
    refine Token.parse?_referenceText_rewrite (Bound.isRewriting_move columns rows)
      Bound.move_row_isSome hreads hbare.isReference hparse ?_
    intro b hb word hword
    obtain ⟨hcolumn, hrow⟩ := hcan r hparse b hb
    exact Bound.parse?_move hword hcolumn hrow
  have hkind' := token.rewrite_kind (g := Bound.Written.move columns rows)
  cases h with
  | @currentRow sheet bound _ hkind _ hparses hrelative hknown =>
      have hcolumn := (hcan _ hparses bound (by simp [Reference.bounds])).1
      obtain rfl : sheet = none := by simpa [Token.IsBareReference, hkind] using hbare
      exact .currentRow (hkind'.trans hkind) trivial (hparses' hparses) hrelative
        (hmoved.mapping.get? hknown hcolumn)
  | @fixedRow sheet bound row identifier hkind _ hparses habsolute hrow hdata hknown =>
      have hcolumn := (hcan _ hparses bound (by simp [Reference.bounds])).1
      obtain rfl : sheet = none := by simpa [Token.IsBareReference, hkind] using hbare
      have hrow' : (bound.move columns rows).row = some (row + rows) := by simp [Bound.move, hrow]
      have hdata' : t'.firstDataRow ≤ row + rows := by
        rw [hmoved.firstDataRow]
        omega
      have hcount : row - t.firstDataRow = row + rows - t'.firstDataRow := by
        rw [hmoved.firstDataRow, Nat.add_sub_add_right]
      rw [hcount]
      exact .fixedRow (hkind'.trans hkind) trivial (hparses' hparses) habsolute hrow' hdata'
        (hmoved.mapping.get? hknown hcolumn)
  | @wholeColumn sheet m first last identifier hkind hresolves hparses hsame hknown =>
      have hcolumn := (hcan _ hparses first (by simp [Reference.bounds])).1
      obtain rfl : sheet = none := by simpa [Token.IsBareReference, hkind] using hbare
      cases hresolves with
      | own =>
          rw [← hmoved.mapping.table]
          refine .wholeColumn (hkind'.trans hkind) (.own trivial) (hparses' hparses) ?_
            (hmoved.mapping.get? hknown hcolumn)
          exact congrArg (Column.move columns) hsame

theorem replace_move {t t' : Converter} {token : Token} {rest : Text} {row row' : Option Nat}
    (hmoved : t.MovedTo columns rows t') (hreads : Reads token.kind token.text rest)
    (hbare : token.IsReference → token.IsBareReference)
    (hrewrites : token.IsReference → ∃ text, t.Rewrites token text)
    (hcan : token.IsReference →
      ∀ r, Reference.parse? token.referenceText = some r → r.CanMove columns rows) :
    (t'.replace row' (token.rewrite (Bound.Written.move columns rows))).text =
      (t.replace row token).text := by
  by_cases href : token.IsReference
  · obtain ⟨text, htext⟩ := hrewrites href
    rw [replace_of_rewrites htext,
      replace_of_rewrites (htext.move hmoved hreads (hbare href) (hcan href))]
  · rw [Token.rewrite_of_not_isReference href]
    by_cases hfunction : token.kind = .function
    · simp only [replace, hfunction, function_text]
    · rw [replace_other href hfunction, replace_other href hfunction]

/-- The converter of a sheet whose headers start in a column and whose data starts in a row. -/
def ofSheetAt (headers : List Text) (options : Options) (column dataRow : Nat) : Converter :=
  (ofOptions (.ofHeadersAt headers column options) options).withFirstDataRow dataRow

theorem movedTo_ofSheetAt (headers : List Text) (options : Options) (column : Nat) {dataRow : Nat}
    (hdata : 1 ≤ dataRow) (columns rows : Nat) :
    (ofSheetAt headers options column dataRow).MovedTo columns rows
      (ofSheetAt headers options (column + columns) (dataRow + rows)) where
  mapping := ⟨rfl, rfl, rfl⟩
  firstDataRow := by
    simp only [ofSheetAt, withFirstDataRow]
    omega

/-- A sheet may stand anywhere: when its headers, its data and its formulas move by the same
numbers of columns and rows, the formulas are converted to what they were converted to before. -/
theorem convert_move (headers : List Text) (options : Options) {column dataRow : Nat}
    (hdata : 1 ≤ dataRow) {formula : Text} {tokens : List Token}
    (htokens : Token.tokenize (body formula) = .ok tokens)
    (hmovable : Token.IsMovable (Bound.Written.move columns rows) tokens)
    (hrewrites : ∀ token ∈ tokens, token.IsReference →
      ∃ text, (ofSheetAt headers options column dataRow).Rewrites token text)
    (hcan : ∀ token ∈ tokens, token.IsReference →
      ∀ r, Reference.parse? token.referenceText = some r → r.CanMove columns rows)
    (row : Option Nat) :
    let first := (ofSheetAt headers options column dataRow).convert formula row
    let moved := (ofSheetAt headers options (column + columns) (dataRow + rows)).convert
      (move columns rows formula) (row.map (· + rows))
    moved.success = true ∧ moved.output = first.output := by
  have hg := Bound.isRewriting_move columns rows
  obtain ⟨-, hlexed, -⟩ := Token.tokenize_eq_ok_iff.mp htokens
  refine convert_rewrite _ _ _ _ htokens (Token.lexed_rewrite hg hlexed hmovable) ?_
    Token.rewrite_kind ?_
  · exact (Token.head?_rewrite_eq_some_iff hg hlexed hmovable.bare rfl).mp
  · intro token hmem
    obtain ⟨rest, hreads⟩ := hlexed.reads token hmem
    exact replace_move (movedTo_ofSheetAt headers options column hdata columns rows) hreads
      (hmovable.bare token hmem) (hrewrites token hmem) (hcan token hmem)

theorem convert_move_wide :
    let headers := ["Price".toList, "Rate".toList]
    let formula := "=SUM(Y2:Y9)/Z$2+#n/a*-$Y5&1.5".toList
    let t := ofSheetAt headers {} 24 2
    let t' := ofSheetAt headers {} (24 + 2) (2 + 10)
    move 2 10 formula = "=SUM(AA12:AA19)/AB$12+#n/a*-$AA15&1.5".toList ∧
      (t.convert formula (some 5)).output =
        "SUM(Table1.Price) / Rate[0] + #n/a * -$Price & 1.5".toList ∧
      (t'.convert (move 2 10 formula) (some 15)).success = true ∧
      (t'.convert (move 2 10 formula) (some 15)).output =
        "SUM(Table1.Price) / Rate[0] + #n/a * -$Price & 1.5".toList := by
  intro headers formula t t'
  let tokens : List Token :=
    [⟨.function, "SUM".toList, 0⟩, ⟨.openParen, "(".toList, 3⟩, ⟨.range none, "Y2:Y9".toList, 4⟩,
      ⟨.closeParen, ")".toList, 9⟩, ⟨.operator, "/".toList, 10⟩, ⟨.cell none, "Z$2".toList, 11⟩,
      ⟨.operator, "+".toList, 14⟩, ⟨.errorLiteral, "#n/a".toList, 15⟩, ⟨.operator, "*".toList, 19⟩,
      ⟨.operator, "-".toList, 20⟩, ⟨.cell none, "$Y5".toList, 21⟩, ⟨.operator, "&".toList, 24⟩,
      ⟨.number, "1.5".toList, 25⟩]
  have htokens : Token.tokenize (body formula) = .ok tokens := by decide +kernel
  have houtput : (t.convert formula (some 5)).output =
      "SUM(Table1.Price) / Rate[0] + #n/a * -$Price & 1.5".toList := by decide +kernel
  have hmovable : Token.IsMovable (Bound.Written.move 2 10) tokens := by
    constructor
    case bare => decide
    case noNumber =>
      have hchain : tokens.IsChain fun n t => n.kind = .number → ¬ t.IsReference := by decide
      intro front n t back heq hkind
      have hinside : [n, t] <:+: tokens := ⟨front, back, by simp [heq]⟩
      have hpair := hchain.infix hinside
      exact List.isChain_pair.mp hpair hkind
    case noLiteral =>
      have hnone : ∀ i < tokens.length,
          ¬ "#N/".toList <:+ Text.asciiUpper (Token.render (tokens.take i)) := by decide +kernel
      intro front t back heq _ hsuffix
      refine absurd ?_ (hnone front.length (by simp [heq]))
      simpa [heq] using hsuffix
  have hrewrites : ∀ token ∈ tokens, token.IsReference → ∃ text, t.Rewrites token text :=
    exists_rewrites_of_replace_ne none htokens (by decide +kernel)
  have hcan : ∀ token ∈ tokens, token.IsReference →
      ∀ r, Reference.parse? token.referenceText = some r → r.CanMove 2 10 := by
    have hall : ∀ token ∈ tokens, ∀ r ∈ Reference.parse? token.referenceText, r.CanMove 2 10 := by
      decide +kernel
    intro token hmem _ r hparse
    exact hall token hmem r hparse
  obtain ⟨hsuccess, hsame⟩ :=
    convert_move headers {} (by decide) htokens hmovable hrewrites hcan (some 5)
  exact ⟨by decide +kernel, houtput, hsuccess, hsame.trans houtput⟩

/-- One column further on, the letter behind `#N/` makes it an error value, although the formula has
column forms for all its references and no numeral in it. -/
theorem convert_move_errorLiteral :
    let headers := ["Total".toList]
    let formula := "#N/Z5".toList
    let t := ofSheetAt headers {} 25 2
    let t' := ofSheetAt headers {} (25 + 1) (2 + 0)
    (∃ tokens, Token.tokenize (body formula) = .ok tokens ∧
      (∀ token ∈ tokens, token.kind ≠ .number) ∧
      (∀ token ∈ tokens, token.IsReference → token.IsBareReference) ∧
      (∀ token ∈ tokens, token.IsReference → ∃ text, t.Rewrites token text) ∧
      ∀ token ∈ tokens, ∀ r ∈ Reference.parse? token.referenceText, r.CanMove 1 0) ∧
      move 1 0 formula = "#N/AA5".toList ∧
      (t.convert formula (some 5)).output = "#N / $Total".toList ∧
      (t'.convert (move 1 0 formula) (some (5 + 0))).output = "#N/AA5".toList := by
  intro headers formula t t'
  let tokens : List Token :=
    [⟨.other, "#".toList, 0⟩, ⟨.name, "N".toList, 1⟩, ⟨.operator, "/".toList, 2⟩,
      ⟨.cell none, "Z5".toList, 3⟩]
  have htokens : Token.tokenize (body formula) = .ok tokens := by decide +kernel
  have hrewrites : ∀ token ∈ tokens, token.IsReference → ∃ text, t.Rewrites token text :=
    exists_rewrites_of_replace_ne none htokens (by decide +kernel)
  refine ⟨⟨tokens, htokens, ?_, ?_, hrewrites, ?_⟩, ?_, ?_, ?_⟩
  all_goals decide +kernel

end Converter

end ColumnFormula
