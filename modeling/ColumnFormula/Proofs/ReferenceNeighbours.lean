import ColumnFormula.Proofs.TokenReplacement

namespace ColumnFormula

namespace Lexeme

open Text

/-- A character that neither goes on with a word nor joins two bounds may follow any reference but a
cell without a sheet. -/
theorem Reads.before_break {kind : Token.Kind} {text rest s : Text} {c : Char}
    (h : Reads kind text rest)
    (hkind : (∃ sheet, kind = .range sheet) ∨ ∃ sheet, kind = .cell (some sheet))
    (hword : isWordChar c = false) (hcolon : c ≠ ':') : Reads kind text (c :: s) := by
  have hstop : StopsBefore isWordChar (c :: s) := stopsBefore_cons.mpr hword
  cases h with
  | range hleft hright _ => exact .range hleft hright hstop
  | sheetRange hhead hleft hright _ => exact .sheetRange hhead hleft hright hstop
  | sheetCell hhead hcell _ _ =>
      refine .sheetCell hhead hcell hstop (rangeTail?_eq_none_iff.mpr ?_)
      intro more heq
      exact absurd (List.cons.inj heq).1 hcolon
  | symbol hsingle =>
      have := of_single?_eq_some hsingle
      rcases hkind with ⟨sheet, rfl⟩ | ⟨sheet, rfl⟩ <;> simp at this
  | _ => simp at hkind

theorem Reads.cell_stop {text rest : Text} (h : Reads (.cell none) text rest) :
    StopsBefore endsBare rest := by
  cases h with
  | cell _ hstop _ => exact hstop
  | symbol hsingle => simpa using of_single?_eq_some hsingle

theorem Reads.cell_noBound {sheet : Option Text} {text more : Text}
    (h : Reads (.cell sheet) text (':' :: more)) : isBound (more.takeWhile isWordChar) = false := by
  cases h with
  | cell hcell _ htail | sheetCell _ hcell _ htail =>
      exact rangeTail?_eq_none_iff.mp htail more rfl (isBound_of_isCell hcell)
  | symbol hsingle => simpa using of_single?_eq_some hsingle

theorem Reads.noTail {kind : Token.Kind} {word rest : Text} (h : Reads kind word rest)
    (hword : isWord word) (hstop : StopsBefore endsBare rest) : rangeTail? word rest = none := by
  have hstarts := starts_word hword rest
  rw [word_eq_bare hword hstop] at hstarts
  have heq := h.starts.unique hstarts
  cases htail : rangeTail? word rest with
  | none => rfl
  | some found =>
      obtain ⟨tail, rest'⟩ := found
      obtain ⟨-, right, -, rfl, -⟩ := of_rangeTail?_eq_some htail
      rw [bare, htail] at heq
      have htext : word = word ++ ':' :: right := congrArg Lexeme.text heq
      simp at htext

end Lexeme

open Lexeme

namespace Token

theorem referenceText_of_not_isReference {t : Token} (h : ¬ t.IsReference) :
    t.referenceText = t.text := by
  rw [referenceText]
  split
  · rename_i sheet hkind
    exact absurd (.inl ⟨_, hkind⟩) h
  · rename_i sheet hkind
    exact absurd (.inr ⟨_, hkind⟩) h
  · rfl

theorem noBound_of_colon {t : Token} {more : Text} (h : Reads t.kind t.text (':' :: more))
    (hbound : isBound t.referenceText) : isBound (more.takeWhile isWordChar) = false := by
  by_cases href : t.IsReference
  · rcases href with ⟨sheet, hkind⟩ | ⟨sheet, hkind⟩
    · exact (hkind ▸ h).cell_noBound
    · obtain ⟨left, right, -, -, htext⟩ := isBound_referenceText h hkind
      have hcolon : ':' ∉ t.referenceText := not_mem_of_isBound hbound rfl
      simp [htext] at hcolon
  · rw [referenceText_of_not_isReference href] at hbound
    have hstop : Text.StopsBefore endsBare (':' :: more) := Text.stopsBefore_cons.mpr rfl
    have htail := h.noTail (isWord_of_isBound hbound) hstop
    exact rangeTail?_eq_none_iff.mp htail more rfl hbound

/-- An opening parenthesis or an exclamation mark. -/
def IsMark (t : Token) : Prop := t.kind = .openParen ∨ t.kind = .other ∧ t.text = ['!']

/-- A colon that belongs to no range. -/
def IsColon (t : Token) : Prop := t.kind = .other ∧ t.text = [':']

theorem openParen_text {t : Token} {rest : Text} (h : Reads t.kind t.text rest)
    (hkind : t.kind = .openParen) : t.text = ['('] := by
  obtain ⟨kind, text, position⟩ := t
  obtain rfl : kind = .openParen := hkind
  cases h with
  | symbol hsingle =>
      have := of_single?_eq_some hsingle
      simpa using this

/-- Of all references, only a cell without a sheet is never followed by an opening parenthesis or an
exclamation mark; any other may be. -/
theorem tokenize_before_mark {formula : Text} {tokens : List Token}
    (h : tokenize formula = .ok tokens) :
    (∀ front t mark back, tokens = front ++ t :: mark :: back → t.IsReference → mark.IsMark →
      t.kind ≠ .cell none) ∧
    ∀ t ∈ tokens, t.IsReference → t.kind ≠ .cell none → ∀ c, c = '(' ∨ c = '!' →
      ∀ s behind, tokenize (c :: s) = .ok behind →
        tokenize (t.text ++ c :: s) = .ok (place 0 (t :: behind)) := by
  obtain ⟨-, hlexed, -⟩ := tokenize_eq_ok_iff.mp h
  constructor
  · rintro front t mark back rfl - hmark hkind
    obtain ⟨hreads, hbehind, -⟩ := hlexed.append_right
    have hstop := (hkind ▸ hreads).cell_stop
    rcases hmark with hparen | ⟨-, htext⟩
    · rw [render_cons, openParen_text hbehind hparen] at hstop
      simp [endsBare] at hstop
    · rw [render_cons, htext] at hstop
      simp [endsBare] at hstop
  · intro t ht href hkind c hc s behind hbehind
    obtain ⟨rest, hreads⟩ := hlexed.reads t ht
    obtain ⟨hrender, hlexed', -⟩ := tokenize_eq_ok_iff.mp hbehind
    have hkinds : (∃ sheet, t.kind = .range sheet) ∨ ∃ sheet, t.kind = .cell (some sheet) := by
      rcases href with ⟨sheet, hcell⟩ | hrange
      · cases sheet with
        | none => exact absurd hcell hkind
        | some sheet => exact .inr ⟨sheet, hcell⟩
      · exact .inl hrange
    have hbreak : isWordChar c = false ∧ c ≠ ':' := by
      rcases hc with rfl | rfl <;> decide
    have hreads' : Reads t.kind t.text (render behind) := by
      rw [hrender]
      exact hreads.before_break hkinds hbreak.1 hbreak.2
    have hall : Lexed (t :: behind) := ⟨hreads', hlexed'⟩
    rw [← hrender, ← render_cons]
    exact scan_render hall 0

theorem tokenize_before_mark_rates :
    let cell : Token := ⟨.cell (some "Rates".toList), "Rates!B2".toList, 0⟩
    let tokens : List Token := [cell, ⟨.operator, "*".toList, 8⟩, ⟨.cell none, "C3".toList, 9⟩]
    let behind : List Token :=
      [⟨.openParen, "(".toList, 0⟩, ⟨.number, "1".toList, 1⟩, ⟨.closeParen, ")".toList, 2⟩]
    tokenize "Rates!B2*C3".toList = .ok tokens ∧
      (∀ front t mark back, tokens = front ++ t :: mark :: back → t.IsReference → mark.IsMark →
        t.kind ≠ .cell none) ∧
      tokenize (cell.text ++ "(1)".toList) = .ok (place 0 (cell :: behind)) := by
  intro cell tokens behind
  have h : tokenize "Rates!B2*C3".toList = .ok tokens := by decide +kernel
  have hbehind : tokenize "(1)".toList = .ok behind := by decide +kernel
  obtain ⟨hbefore, hafter⟩ := tokenize_before_mark h
  have hreference : cell.IsReference := .inl ⟨_, rfl⟩
  refine ⟨h, hbefore, ?_⟩
  exact hafter cell (by simp [tokens]) hreference (by simp [cell]) '(' (.inl rfl) _ _ hbehind

/-- The name of a function taken for a bound, and the name of a sheet. -/
theorem tokenize_before_mark_swallowed :
    (∃ range paren tokens, tokenize "A2:OFFSET(A2,1,0)".toList = .ok (range :: paren :: tokens) ∧
      range.IsReference ∧ range.text = "A2:OFFSET".toList ∧ paren.IsMark) ∧
    ∃ range mark cell, tokenize "JAN:DEC!B2".toList = .ok [range, mark, cell] ∧
      range.IsReference ∧ range.text = "JAN:DEC".toList ∧ mark.IsMark ∧ cell.kind = .cell none := by
  constructor
  · refine ⟨⟨.range none, "A2:OFFSET".toList, 0⟩, ⟨.openParen, "(".toList, 9⟩,
      [⟨.cell none, "A2".toList, 10⟩, ⟨.comma, ",".toList, 12⟩, ⟨.number, "1".toList, 13⟩,
        ⟨.comma, ",".toList, 14⟩, ⟨.number, "0".toList, 15⟩, ⟨.closeParen, ")".toList, 16⟩],
      by decide +kernel, .inr ⟨none, rfl⟩, rfl, .inl rfl⟩
  · refine ⟨⟨.range none, "JAN:DEC".toList, 0⟩, ⟨.other, "!".toList, 7⟩,
      ⟨.cell none, "B2".toList, 8⟩, by decide +kernel, .inr ⟨none, rfl⟩, rfl, .inr ⟨rfl, rfl⟩, rfl⟩

end Token

namespace Converter

/-- A conversion without warnings has a column form for every reference. Colons that belong to no
range play no part in it, and none of them joins two bounds. -/
theorem convert_warnings_eq_nil (t : Converter) {formula : Text} {tokens : List Token}
    (htokens : Token.tokenize (body formula) = .ok tokens) (row : Option Nat) :
    ((t.convert formula row).warnings = [] ↔
      ∀ token ∈ tokens, ¬ token.IsColon → (t.replace row token).diagnostics = []) ∧
    ((t.convert formula row).warnings = [] → ∀ token ∈ tokens, token.IsReference →
      ∃ text, t.Rewrites token text) ∧
    ∀ front token colon back, tokens = front ++ token :: colon :: back → colon.IsColon →
      isBound token.referenceText →
        isBound ((Token.render back).takeWhile isWordChar) = false := by
  obtain ⟨-, hlexed, -⟩ := Token.tokenize_eq_ok_iff.mp htokens
  refine ⟨?_, ?_, ?_⟩
  · rw [warnings_eq_nil_iff htokens]
    constructor
    · intro h token htoken _
      exact h token htoken
    · intro h token htoken
      by_cases hcolon : token.IsColon
      · simp only [replace, hcolon.1]
      · exact h token htoken hcolon
  · intro hnone token htoken href
    rw [warnings_eq_nil_iff htokens] at hnone
    obtain ⟨rest, hreads⟩ := hlexed.reads token htoken
    rcases replace_reference hreads href row with hrewrites | ⟨d, hkeep, -⟩
    · exact ⟨_, hrewrites⟩
    · have hdiagnostics := hnone token htoken
      rw [hkeep] at hdiagnostics
      contradiction
  · rintro front token colon back rfl hcolon hbound
    obtain ⟨hreads, -⟩ := hlexed.append_right
    rw [Token.render_cons, hcolon.2] at hreads
    exact Token.noBound_of_colon hreads hbound

theorem convert_warnings_eq_nil_sums :
    let t : Converter := { mapping := .ofHeadersAt ["Price".toList] 0 {}, firstDataRow := 2 }
    let formula := "=SUM(A2:A9)/SUM(2:4)".toList
    let tokens : List Token :=
      [⟨.function, "SUM".toList, 0⟩, ⟨.openParen, "(".toList, 3⟩, ⟨.range none, "A2:A9".toList, 4⟩,
        ⟨.closeParen, ")".toList, 9⟩, ⟨.operator, "/".toList, 10⟩, ⟨.function, "SUM".toList, 11⟩,
        ⟨.openParen, "(".toList, 14⟩, ⟨.number, "2".toList, 15⟩, ⟨.other, ":".toList, 16⟩,
        ⟨.number, "4".toList, 17⟩, ⟨.closeParen, ")".toList, 18⟩]
    Token.tokenize (body formula) = .ok tokens ∧ (t.convert formula).warnings = [] ∧
      (t.convert formula).output = "SUM(Table1.Price) / SUM(2:4)".toList ∧
      (∀ token ∈ tokens, token.IsReference → ∃ text, t.Rewrites token text) ∧
      ∀ front token colon back, tokens = front ++ token :: colon :: back → colon.IsColon →
        isBound token.referenceText →
          isBound ((Token.render back).takeWhile isWordChar) = false := by
  intro t formula tokens
  have htokens : Token.tokenize (body formula) = .ok tokens := by decide +kernel
  have hwarnings : (t.convert formula).warnings = [] := by decide +kernel
  obtain ⟨-, hrewrites, hcolons⟩ := t.convert_warnings_eq_nil htokens none
  exact ⟨htokens, hwarnings, by decide +kernel, hrewrites hwarnings, hcolons⟩

/-- A range of rows is passed on without a warning. -/
theorem convert_warnings_eq_nil_rows :
    let t : Converter := { mapping := .ofHeadersAt ["Price".toList] 0 {}, firstDataRow := 2 }
    let formula := "=SUM(2:4)".toList
    (t.convert formula).success = true ∧ (t.convert formula).warnings = [] ∧
      ∃ tokens, Token.tokenize (body formula) = .ok tokens ∧ ∃ token ∈ tokens, token.IsColon := by
  intro t formula
  refine ⟨by decide +kernel, by decide +kernel, ?_⟩
  refine ⟨[⟨.function, "SUM".toList, 0⟩, ⟨.openParen, "(".toList, 3⟩, ⟨.number, "2".toList, 4⟩,
    ⟨.other, ":".toList, 5⟩, ⟨.number, "4".toList, 6⟩, ⟨.closeParen, ")".toList, 7⟩],
    by decide +kernel, ⟨.other, ":".toList, 5⟩, by simp, rfl, rfl⟩

end Converter

end ColumnFormula
