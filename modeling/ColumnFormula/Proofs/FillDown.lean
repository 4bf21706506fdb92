import ColumnFormula.Proofs.RowNumbers

namespace ColumnFormula

open Lexeme

variable {f : Nat → Nat}

namespace Converter

/-- The tokens of a text with other rows in their references. -/
def renumberBody (f : Nat → Nat) (s : Text) : Text :=
  match Token.tokenize s with
  | .ok tokens => Token.render (tokens.map (Token.renumber f))
  | .error _ => s

def renumber (f : Nat → Nat) : Text → Text
  | '=' :: rest => '=' :: renumberBody f rest
  | formula => renumberBody f formula

/-- A formula as it reads `k` rows further down. -/
def fillDown (k : Nat) (formula : Text) : Text := renumber (· + k) formula

theorem replace_of_not_isReference (t : Converter) {token : Token} (h : ¬ token.IsReference)
    (row row' : Option Nat) : t.replace row token = t.replace row' token := by
  unfold replace
  split
  · rfl
  · rename_i sheet hkind
    exact absurd (.inl ⟨sheet, hkind⟩) h
  all_goals rfl

theorem Rewrites.renumber {t : Converter} {token : Token} {text rest : Text}
    (h : t.Rewrites token text) (hreads : Reads token.kind token.text rest)
    (hrows : ∀ r, Reference.parse? token.referenceText = some r → r.KeepsRows f) :
    t.Rewrites (token.renumber f) text := by
  have hkind' := token.renumber_kind (f := f)
  cases h with
  | currentRow hkind hown hparses hrelative hknown =>
      have hparses' :=
        Token.parse?_referenceText_renumber hreads (.inl ⟨_, hkind⟩) hparses (hrows _ hparses)
      refine .currentRow (hkind'.trans hkind) hown hparses' ?_ ?_
      · rwa [Bound.renumber_rowAbsolute]
      · rwa [Bound.renumber_column]
  | @fixedRow _ bound _ _ hkind hown hparses habsolute hrow hdata hknown =>
      have hsame : bound.renumber f = bound := if_pos habsolute
      have hparses' :=
        Token.parse?_referenceText_renumber hreads (.inl ⟨_, hkind⟩) hparses (hrows _ hparses)
      rw [Reference.renumber, hsame] at hparses'
      exact .fixedRow (hkind'.trans hkind) hown hparses' habsolute hrow hdata hknown
  | wholeColumn hkind hresolves hparses hcolumn hknown =>
      have hparses' :=
        Token.parse?_referenceText_renumber hreads (.inr ⟨_, hkind⟩) hparses (hrows _ hparses)
      rw [← Bound.renumber_column (f := f)] at hknown
      refine .wholeColumn (hkind'.trans hkind) hresolves hparses' ?_ hknown
      rw [Bound.renumber_column, Bound.renumber_column, hcolumn]

theorem ownCell_diagnostics_eq_nil_iff {t : Converter} {row : Option Nat} {token : Token}
    {bound : Bound} {cellRow : Nat} {identifier : Text}
    (hparse : Reference.parse? token.referenceText = some (.single bound))
    (hrelative : bound.rowAbsolute = false) (hrow : bound.row = some cellRow)
    (hget : t.mapping.get? bound.column = some identifier) :
    (t.ownCell row token).diagnostics = [] ↔ ∀ own ∈ row, own = cellRow := by
  simp only [ownCell, hparse, Reference.first, hget, hrelative, hrow]
  cases row <;> simp [Option.filter_some]

theorem rangeIn_diagnostics_eq_nil_iff {m : Mapping} {token : Token} {first last : Bound}
    {identifier : Text} (hparse : Reference.parse? token.referenceText = some (.range first last))
    (hcolumn : last.column = first.column) (hget : m.get? first.column = some identifier) :
    (rangeIn m token).diagnostics = [] ↔
      (first.row.isSome && (first.rowAbsolute && last.rowAbsolute)) = false := by
  change m.get? (Reference.range first last).first.column = some identifier at hget
  simp only [rangeIn, hparse, Reference.isSingleColumn, hcolumn, beq_self_eq_true, if_true, hget]
  split
  · rename_i habsolute
    change (first.row.isSome && (first.rowAbsolute && last.rowAbsolute)) = true at habsolute
    simp [habsolute]
  · rename_i habsolute
    exact iff_of_true rfl (Bool.eq_false_iff.mpr habsolute)

theorem Rewrites.diagnostics_renumber {t : Converter} {token : Token} {text rest : Text}
    (h : t.Rewrites token text) (hreads : Reads token.kind token.text rest)
    (hrows : ∀ r, Reference.parse? token.referenceText = some r → r.KeepsRows f) {row : Option Nat}
    (hnone : (t.replace row token).diagnostics = []) :
    (t.replace (row.map f) (token.renumber f)).diagnostics = [] := by
  have hkind' := token.renumber_kind (f := f)
  cases h with
  | @currentRow _ bound _ hkind hown hparses hrelative hknown =>
      obtain ⟨b, cellRow, hb, hrow⟩ :=
        Reference.single_of_parse? (Token.isCell_referenceText hreads hkind) hparses
      obtain rfl : bound = b := Reference.single.inj hb
      have hparses' :=
        Token.parse?_referenceText_renumber hreads (.inl ⟨_, hkind⟩) hparses (hrows _ hparses)
      have hrow' : (bound.renumber f).row = some (f cellRow) := by
        simp [Bound.renumber, hrelative, hrow]
      rw [replace_ownCell hkind hown, ownCell_diagnostics_eq_nil_iff hparses hrelative hrow hknown]
        at hnone
      rw [← Bound.renumber_column (f := f)] at hknown
      rw [← Bound.renumber_rowAbsolute (f := f)] at hrelative
      rw [replace_ownCell (hkind'.trans hkind) hown,
        ownCell_diagnostics_eq_nil_iff hparses' hrelative hrow' hknown]
      intro own' hmem
      obtain ⟨own, hown, rfl⟩ := Option.mem_map.mp hmem
      rw [hnone own hown]
  | fixedRow hkind hown hparses habsolute hrow hdata hknown =>
      rw [replace_ownCell hkind hown] at hnone
      simp [ownCell, hparses, Reference.first, hknown, habsolute, hrow,
        Nat.not_lt.mpr hdata] at hnone
  | wholeColumn hkind hresolves hparses hcolumn hknown =>
      have hparses' :=
        Token.parse?_referenceText_renumber hreads (.inr ⟨_, hkind⟩) hparses (hrows _ hparses)
      rw [replace_rangeIn hkind hresolves, rangeIn_diagnostics_eq_nil_iff hparses hcolumn hknown]
        at hnone
      rw [← Bound.renumber_column (f := f)] at hknown
      rw [replace_rangeIn (hkind'.trans hkind) hresolves,
        rangeIn_diagnostics_eq_nil_iff hparses' ?_ hknown]
      · rwa [Bound.renumber_row_isSome, Bound.renumber_rowAbsolute, Bound.renumber_rowAbsolute]
      · rw [Bound.renumber_column, Bound.renumber_column, hcolumn]

/-- The token has a column form if it is a reference, and the function takes its rows to rows. -/
structure Follows (t : Converter) (f : Nat → Nat) (token : Token) : Prop where
  rewrites : token.IsReference → ∃ text, t.Rewrites token text
  rows : token.IsReference → ∀ r, Reference.parse? token.referenceText = some r → r.KeepsRows f

theorem Follows.replace {t : Converter} {token : Token} {rest : Text} (h : t.Follows f token)
    (hreads : Reads token.kind token.text rest) (row : Option Nat) :
    (t.replace (row.map f) (token.renumber f)).text = (t.replace row token).text ∧
      ((t.replace row token).diagnostics = [] →
        (t.replace (row.map f) (token.renumber f)).diagnostics = []) := by
  by_cases href : token.IsReference
  · obtain ⟨text, htext⟩ := h.rewrites href
    have hrows := h.rows href
    refine ⟨?_, htext.diagnostics_renumber hreads hrows⟩
    rw [replace_of_rewrites htext, replace_of_rewrites (htext.renumber hreads hrows)]
  · rw [Token.renumber_of_not_isReference href, t.replace_of_not_isReference href _ row]
    exact ⟨rfl, id⟩

theorem renumber_eq_rewrite (f : Nat → Nat) : renumber f = rewrite (Token.renumber f) := by
  funext formula
  cases formula with
  | nil => rfl
  | cons c rest =>
      by_cases hc : c = '='
      · rw [hc]
        rfl
      · rw [renumber, rewrite]
        · rfl
        all_goals
          rintro s heq
          exact hc (List.cons.inj heq).1

theorem tokenize_renumber {formula : Text} {tokens : List Token}
    (htokens : Token.tokenize (body formula) = .ok tokens) :
    Token.tokenize (body (renumber f formula)) =
      .ok (Token.place 0 (tokens.map (Token.renumber f))) := by
  obtain ⟨-, hlexed, -⟩ := Token.tokenize_eq_ok_iff.mp htokens
  obtain ⟨hlexed', hrenumbered⟩ := Token.lexed_renumber (f := f) hlexed
  rw [renumber_eq_rewrite]
  exact tokenize_rewrite htokens hlexed' fun hsign => hrenumbered.head?_eq ▸ hsign

theorem convert_renumber {t : Converter} {formula : Text} {tokens : List Token}
    (htokens : Token.tokenize (body formula) = .ok tokens)
    (hfollows : ∀ token ∈ tokens, t.Follows f token) (row : Option Nat) :
    let first := t.convert formula row
    let other := t.convert (renumber f formula) (row.map f)
    other.success = true ∧ other.output = first.output ∧
      (first.warnings = [] → other.warnings = []) := by
  obtain ⟨-, hlexed, -⟩ := Token.tokenize_eq_ok_iff.mp htokens
  obtain ⟨hlexed', hrenumbered⟩ := Token.lexed_renumber (f := f) hlexed
  have htoken : ∀ token ∈ tokens,
      (t.replace (row.map f) (token.renumber f)).text = (t.replace row token).text ∧
        ((t.replace row token).diagnostics = [] →
          (t.replace (row.map f) (token.renumber f)).diagnostics = []) := by
    intro token hmem
    obtain ⟨rest, hreads⟩ := hlexed.reads token hmem
    exact (hfollows token hmem).replace hreads row
  have hconvert := convert_rewrite t t row (row.map f) htokens hlexed'
    (fun hsign => hrenumbered.head?_eq ▸ hsign) (fun token => token.renumber_kind)
    fun token hmem => (htoken token hmem).1
  rw [← renumber_eq_rewrite] at hconvert
  refine ⟨hconvert.1, hconvert.2, ?_⟩
  have htokens' := tokenize_renumber (f := f) htokens
  rw [warnings_eq_nil_iff htokens, warnings_eq_nil_iff htokens']
  intro hnone placed hplaced
  obtain ⟨moved, hmoved, hcontent⟩ := Token.exists_of_mem_place hplaced
  obtain ⟨token, hmem, rfl⟩ := List.mem_map.mp hmoved
  rw [← t.replace_eq_of_content _ hcontent]
  exact (htoken token hmem).2 (hnone token hmem)

/-- A formula all of whose references have a column form may be filled down as far as there are
rows: the column form stays the same, and no warning comes up. -/
theorem convert_fillDown {t : Converter} {formula : Text} {tokens : List Token} {k : Nat}
    (htokens : Token.tokenize (body formula) = .ok tokens)
    (hrewrites : ∀ token ∈ tokens, token.IsReference → ∃ text, t.Rewrites token text)
    (hrows : ∀ token ∈ tokens, token.IsReference →
      ∀ r, Reference.parse? token.referenceText = some r →
        ∀ n ∈ r.relativeRows, n + k ≤ Bound.greatestRow) (row : Option Nat) :
    let first := t.convert formula row
    let filled := t.convert (fillDown k formula) (row.map (· + k))
    filled.success = true ∧ filled.output = first.output ∧
      (first.warnings = [] → filled.warnings = []) := by
  refine convert_renumber htokens (fun token hmem => ⟨hrewrites token hmem, ?_⟩) row
  intro href r hparse n hn
  have hpos := Reference.pos_of_mem_relativeRows hparse hn
  exact ⟨Nat.le_add_right_of_le hpos, hrows token hmem href r hparse n hn⟩

theorem convert_fillDown_rates :
    let t : Converter :=
      { mapping := .ofIdentifiers "Orders".toList ["Product".toList, "Price".toList]
        firstDataRow := 2
        place := some ⟨"Orders".toList,
          ⟨[("Rates".toList, .ofIdentifiers "Rates".toList ["Rate".toList])]⟩⟩ }
    let formula := "=SUM(rates!A2:A$9)*$A9-B9".toList
    fillDown 3 formula = "=SUM(rates!A5:A$9)*$A12-B12".toList ∧
      (t.convert formula (some 9)).warnings = [] ∧
      (t.convert formula (some 9)).output = "SUM(Rates.Rate) * $Product - $Price".toList ∧
      (t.convert (fillDown 3 formula) (some 12)).success = true ∧
      (t.convert (fillDown 3 formula) (some 12)).output =
        "SUM(Rates.Rate) * $Product - $Price".toList ∧
      (t.convert (fillDown 3 formula) (some 12)).warnings = [] := by
  intro t formula
  let tokens : List Token :=
    [⟨.function, "SUM".toList, 0⟩, ⟨.openParen, "(".toList, 3⟩,
      ⟨.range (some "rates".toList), "rates!A2:A$9".toList, 4⟩, ⟨.closeParen, ")".toList, 16⟩,
      ⟨.operator, "*".toList, 17⟩, ⟨.cell none, "$A9".toList, 18⟩, ⟨.operator, "-".toList, 21⟩,
      ⟨.cell none, "B9".toList, 22⟩]
  have htokens : Token.tokenize (body formula) = .ok tokens := by decide +kernel
  have hfilled : fillDown 3 formula = "=SUM(rates!A5:A$9)*$A12-B12".toList := by decide +kernel
  have hwarnings : (t.convert formula (some 9)).warnings = [] := by decide +kernel
  have houtput : (t.convert formula (some 9)).output =
      "SUM(Rates.Rate) * $Product - $Price".toList := by decide +kernel
  have hrewrites : ∀ token ∈ tokens, token.IsReference → ∃ text, t.Rewrites token text :=
    exists_rewrites_of_replace_ne none htokens (by decide +kernel)
  have hrows : ∀ token ∈ tokens, token.IsReference →
      ∀ r, Reference.parse? token.referenceText = some r →
        ∀ n ∈ r.relativeRows, n + 3 ≤ Bound.greatestRow := by
    have hall : tokens.all fun token => (Reference.parse? token.referenceText).all fun r =>
        r.relativeRows.all (· + 3 ≤ Bound.greatestRow) := by decide +kernel
    intro token hmem _ r hparse n hn
    have := List.all_eq_true.mp hall token hmem
    rw [hparse] at this
    simpa using List.all_eq_true.mp this n hn
  obtain ⟨hsuccess, hsame, hnone⟩ := convert_fillDown htokens hrewrites hrows (some 9)
  exact ⟨hfilled, hwarnings, houtput, hsuccess, hsame.trans houtput, hnone hwarnings⟩

end Converter

end ColumnFormula
