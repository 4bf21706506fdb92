import ColumnFormula.Proofs.SettledSpacing
import ColumnFormula.Proofs.WrittenErrorValues

/-!
The spaces of a converted formula. They are added between the tokens of the formula, whose texts
have been replaced since they were cut; cutting the output gives other tokens, but the same binary
operators. Main statement: spacing the output changes nothing.
-/

namespace ColumnFormula

open Lexeme Text

namespace Token

/-- No binary operator lacks a space among the tokens of the text. -/
def Settles (blankBefore operand : Bool) (s : Text) : Prop :=
  ∀ tokens, Lexed tokens → render tokens = s → IsSettled blankBefore operand tokens

variable {blankBefore operand : Bool} {kind : Kind} {text rest s : Text}

theorem settles_nil (blankBefore operand : Bool) : Settles blankBefore operand [] := by
  intro tokens hlexed hrender
  cases tokens with
  | nil => trivial
  | cons u tokens => exact absurd (List.append_eq_nil_iff.mp hrender).1 hlexed.1.text_ne_nil

theorem Settles.of_blank (h : Settles blankBefore operand s) : Settles true operand s :=
  fun tokens hlexed hrender => (h tokens hlexed hrender).of_blank

theorem Settles.mono (h : Settles false true s) : Settles blankBefore operand s := by
  intro tokens hlexed hrender
  have hsettled : IsSettled blankBefore true tokens := by
    cases blankBefore with
    | false => exact h tokens hlexed hrender
    | true => exact h.of_blank tokens hlexed hrender
  exact hsettled.of_no_operand

theorem Settles.of_reads (h : Reads kind text rest)
    (hspaces : isSpaced ⟨kind, text, 0⟩ → operand →
      blankBefore ∧ (rest = [] ∨ ¬ StopsBefore Text.isBlank rest))
    (hrest : Settles (kind == .blank)
      (if kind == .blank then operand else endsOperand ⟨kind, text, 0⟩) rest) :
    Settles blankBefore operand (text ++ rest) := by
  intro tokens hlexed hrender
  cases tokens with
  | nil => exact absurd (List.append_eq_nil_iff.mp hrender.symm).1 h.text_ne_nil
  | cons u tokens =>
      obtain ⟨hreads, hlexed⟩ := hlexed
      have hstarts := hreads.starts
      rw [← render_cons, hrender] at hstarts
      cases hstarts.unique h.starts
      refine ⟨fun hspaced hoperand => ?_, hrest tokens hlexed rfl⟩
      obtain ⟨hblank, hbehind⟩ := hspaces hspaced hoperand
      refine ⟨hblank, ?_⟩
      cases tokens with
      | nil => rfl
      | cons v tokens =>
          have hne : render (v :: tokens) ≠ [] := by
            intro hnil
            exact hlexed.1.text_ne_nil (List.append_eq_nil_iff.mp hnil).1
          have hstop := hbehind.resolve_left hne
          rw [render_cons, hlexed.1.stopsBefore_isBlank_iff, not_not] at hstop
          simp [isBlank, hstop]

theorem Settles.of_space (h : Settles true operand s) (hstop : StopsBefore Text.isBlank s) :
    Settles blankBefore operand (' ' :: s) :=
  .of_reads (reads_space hstop) (fun hspaced => Bool.noConfusion hspaced) h

theorem Settles.of_starts {l : Lexeme} (h : Starts s l) (hoperator : l.kind ≠ .operator)
    (hblank : l.kind ≠ .blank) (hrest : Settles false true l.rest) :
    Settles blankBefore operand s := by
  obtain ⟨rfl, hreads⟩ := starts_iff.mp h
  refine .of_reads hreads (fun hspaced => ?_) ?_
  · exact absurd (operator_of_isSpaced hspaced).1 hoperator
  · rw [beq_eq_false_iff_ne.mpr hblank]
    exact hrest.mono

end Token

namespace Converter

variable {t : Converter} {row : Option Nat} {u : Token} {tokens : List Token} {s : Text}
  {blankBefore operand : Bool} {length : Nat}

/-- What is written in less than `length` characters settles. -/
def SettlesBelow (t : Converter) (row : Option Nat) (length : Nat) : Prop :=
  ∀ tokens blankBefore operand, Token.Orderly tokens →
    (t.written row blankBefore operand tokens).length < length →
      Token.Settles blankBefore operand (t.written row blankBefore operand tokens)

theorem rest_length_lt {l : Lexeme} (h : Starts s l) : l.rest.length < s.length := by
  obtain ⟨c, rest, rfl, hfirst⟩ := h
  exact first_rest_length_lt hfirst

theorem SettlesBelow.of_reads (hbelow : t.SettlesBelow row length)
    (h : Token.Orderly (u :: tokens)) (hword : u.kind.hasWord = false)
    (hspaced : u.isSpaced → operand = false)
    (hreads : Reads u.kind u.text
      (t.written row u.isBlank (if u.isBlank then operand else u.endsOperand) tokens))
    (hlength : (t.written row blankBefore operand (u :: tokens)).length ≤ length) :
    Token.Settles blankBefore operand (t.written row blankBefore operand (u :: tokens)) := by
  have hne := List.length_pos_iff.mpr h.lexed.1.text_ne_nil
  rw [written_cons hspaced, replace_of_not_hasWord hword] at hlength ⊢
  rw [List.length_append] at hlength
  refine .of_reads hreads (fun hspaced' hoperand => ?_) (hbelow _ _ _ h.tail ?_)
  · exact absurd hoperand (ne_true_of_eq_false (hspaced hspaced'))
  · exact Nat.lt_of_lt_of_le (Nat.lt_add_of_pos_left hne) hlength

section

variable (hbelow : t.SettlesBelow row length) (hnames : t.HasValidNames)

include hbelow hnames

theorem SettlesBelow.remainder (h : t.Remainder row s) (hlength : s.length < length) :
    Token.Settles false true s := by
  induction hn : s.length using Nat.strongRecOn generalizing s with
  | ind n ih =>
      cases h with
      | behind horderly => exact hbelow _ _ _ horderly hlength
      | cons hc hrest =>
          obtain ⟨l, hstarts, hleaves⟩ := hrest.exists_starts hnames hc
          have hlt := rest_length_lt hstarts
          exact .of_starts hstarts hleaves.noOperator hleaves.noBlank
            (ih _ (hn ▸ hlt) hleaves.rest (hlt.trans hlength) rfl)

theorem SettlesBelow.leaves {l : Lexeme} (hstarts : Starts s l) (hleaves : t.Leaves row l)
    (hlength : s.length ≤ length) : Token.Settles blankBefore operand s :=
  .of_starts hstarts hleaves.noOperator hleaves.noBlank
    (hbelow.remainder hnames hleaves.rest ((rest_length_lt hstarts).trans_le hlength))

theorem SettlesBelow.cons {c : Char} (hc : isInert c) (h : t.Remainder row s)
    (hlength : (c :: s).length ≤ length) : Token.Settles blankBefore operand (c :: s) := by
  obtain ⟨l, hstarts, hleaves⟩ := h.exists_starts hnames hc
  exact hbelow.leaves hnames hstarts hleaves hlength

theorem SettlesBelow.word (h : Token.Orderly (u :: tokens)) (hword : u.kind.hasWord)
    (hlength : (t.written row blankBefore operand (u :: tokens)).length ≤ length) :
    Token.Settles blankBefore operand (t.written row blankBefore operand (u :: tokens)) := by
  have hremainder : t.Remainder row (t.written row false true tokens) :=
    .behind h.tail (h.lexed.1.stopsBefore_isWordChar hword)
  rw [written_word h.lexed hword] at hlength ⊢
  generalize hpiece : (t.replace row u).text = piece at hlength ⊢
  cases hpiece ▸ replace_wordPiece hnames h.lexed.1 hword row with
  | inert hc hall =>
      exact hbelow.cons hnames (isInert_of_isWordChar hc) (hremainder.append hall) hlength
  | @quoted run tail hcloses hall _ =>
      have hstarts := starts_sheetHead (.quoted hcloses) (tail ++ t.written row false true tokens)
      have hsame : '\'' :: run ++ ['!'] ++ (tail ++ t.written row false true tokens) =
          '\'' :: run ++ '!' :: tail ++ t.written row false true tokens := by simp
      rw [hsame] at hstarts
      exact hbelow.leaves hnames hstarts ((hremainder.append hall).qualified hnames ..) hlength
  | emptied hfunction =>
      obtain ⟨p, rest, rfl, hparen⟩ := exists_written_paren t row h.lexed hfunction
      rw [List.nil_append, hparen] at hlength ⊢
      refine .of_reads (Reads.symbol (c := '(') rfl) (fun hspaced => ?_) ?_
      · contradiction
      · exact hbelow rest false false h.tail.tail (by simpa using hlength)

theorem SettlesBelow.operator (h : Token.Orderly (u :: tokens)) (hspaced : u.isSpaced)
    (hlength : (t.written row false false tokens).length < length) :
    Token.Settles true true (u.text ++ ((if tokens.head?.all Token.isBlank then [] else [' ']) ++
      t.written row false false tokens)) := by
  have hreads := h.lexed.1
  obtain ⟨hkind, htext⟩ := Token.operator_of_isSpaced hspaced
  have hrest := hbelow tokens false false h.tail hlength
  have hblank : (u.kind == .blank) = false := by rw [hkind]; rfl
  have hends : Token.endsOperand ⟨u.kind, u.text, 0⟩ = false :=
    Token.endsOperand_of_isSpaced hspaced
  cases hhead : tokens.head?.all Token.isBlank with
  | true =>
      have hkept := hreads.of_stopsAlike (by rw [hkind]; rfl)
        (stopsAlike_written hnames h.tail row false false) (by simp [hkind]) (by simp [hkind])
        (fun hsign => absurd htext (by rw [hsign]; decide))
        (fun hpoint => absurd htext (by rw [hpoint]; decide))
      refine .of_reads hkept (fun _ _ => ⟨rfl, ?_⟩) ?_
      · cases tokens with
        | nil => exact .inl rfl
        | cons v tokens => exact .inr (not_stopsBefore_isBlank_written h.lexed.2 hhead)
      · rwa [hblank, hends]
  | false =>
      have hkept := hreads.of_endsAlike (endsAlike_space _ (t.written row false false tokens))
        (by simp [hkind]) (by simp [hkind])
      refine .of_reads hkept (fun _ _ => ⟨rfl, .inr ?_⟩) ?_
      · exact fun hstop => absurd (stopsBefore_cons.mp hstop) (by decide)
      · have hstop : StopsBefore isBlank (Token.render tokens) := by
          cases tokens with
          | nil => contradiction
          | cons v tokens =>
              rw [Token.render_cons, h.lexed.2.1.stopsBefore_isBlank_iff]
              simpa [Token.isBlank] using hhead
        rw [hblank, hends]
        exact hrest.of_blank.of_space (stopsBefore_isBlank_written hnames h.tail (.inr rfl) hstop)

theorem SettlesBelow.spaced (h : Token.Orderly (u :: tokens)) (hspaced : u.isSpaced)
    (hlength : (t.written row blankBefore true (u :: tokens)).length ≤ length) :
    Token.Settles blankBefore true (t.written row blankBefore true (u :: tokens)) := by
  have hne := List.length_pos_iff.mpr h.lexed.1.text_ne_nil
  rw [written_spaced hspaced] at hlength ⊢
  have hoperator := hbelow.operator hnames h hspaced (by simp at hlength; omega)
  rw [List.append_assoc, List.append_assoc]
  generalize (if tokens.head?.all Token.isBlank then [] else [' ']) ++
    t.written row false false tokens = behind at hoperator ⊢
  cases blankBefore with
  | true => exact hoperator
  | false =>
      have hkind : u.kind ≠ .blank := by simp [(Token.operator_of_isSpaced hspaced).1]
      exact hoperator.of_space ((h.lexed.1.stopsBefore_isBlank_iff behind).mpr hkind)

theorem SettlesBelow.number_append {whole point power rest : Text}
    (h : IsNumber whole point power rest) (hs : t.Remainder row s)
    (hlength : (whole ++ (point ++ power) ++ s).length ≤ length) :
    Token.Settles blankBefore operand (whole ++ (point ++ power) ++ s) := by
  have hplain : (∀ c ∈ power, isWordChar c) →
      Token.Settles blankBefore operand (whole ++ (point ++ power) ++ s) := by
    intro hpower
    have hall := h.forall_mem isWordChar_of_isDigit rfl hpower
    obtain ⟨c, v, htext⟩ := List.exists_cons_of_ne_nil (Reads.number h).text_ne_nil
    rw [htext] at hall hlength ⊢
    have hremainder : t.Remainder row (v ++ s) :=
      hs.append fun d hd => isInert_of_isWordChar (hall d (by simp [hd]))
    exact hbelow.cons hnames (isInert_of_isWordChar (hall c (by simp))) hremainder hlength
  cases hpower : h.exponent with
  | absent => exact hplain (by simp)
  | unsigned he _ hdigits =>
      refine hplain fun c hc => ?_
      rcases List.mem_cons.mp hc with rfl | hc
      · rcases he with rfl | rfl <;> rfl
      · exact isWordChar_of_isDigit (hdigits c hc)
  | @signed e sign digits he hsign hne hdigits =>
      have hlonger : IsNumber whole point (e :: sign :: (digits ++ s.takeWhile Char.isDigit))
          (s.dropWhile Char.isDigit) :=
        { whole_isDigit := h.whole_isDigit
          fraction := h.fraction
          exponent := .signed he hsign (by simp [hne]) fun d hd =>
            (List.mem_append.mp hd).elim (hdigits d) List.mem_takeWhile_imp
          start := h.start
          noDigit := stopsBefore_dropWhile _ s
          noPoint := by simp
          noExponent := by simp }
      have hstarts := (Reads.number hlonger).starts
      have hsame : whole ++ (point ++ e :: sign :: (digits ++ s.takeWhile Char.isDigit)) ++
          s.dropWhile Char.isDigit = whole ++ (point ++ e :: sign :: digits) ++ s := by
        simp [List.takeWhile_append_dropWhile]
      rw [hsame] at hstarts
      have hrest := hs.dropWhile hnames fun _ => isWordChar_of_isDigit
      exact hbelow.leaves hnames hstarts ⟨Token.Kind.noConfusion, Token.Kind.noConfusion, hrest⟩
        hlength

theorem SettlesBelow.number (h : Token.Orderly (u :: tokens)) (hkind : u.kind = .number)
    (hlength : (t.written row blankBefore operand (u :: tokens)).length ≤ length) :
    Token.Settles blankBefore operand (t.written row blankBefore operand (u :: tokens)) := by
  have hword : u.kind.hasWord = false := by rw [hkind]; rfl
  have hspaced : u.isSpaced → operand = false := by simp [Token.isSpaced, hkind]
  have hblank : u.isBlank = false := by simp [Token.isBlank, hkind]
  have hends : u.endsOperand = true := by simp [Token.endsOperand, hkind]
  obtain ⟨whole, point, power, htext, hparts⟩ := (hkind ▸ h.lexed.1).exists_isNumber
  by_cases hremainder : t.Remainder row (t.written row false true tokens)
  · rw [written_cons hspaced, replace_of_not_hasWord hword, hblank, if_neg Bool.false_ne_true,
      hends, htext] at hlength ⊢
    exact hbelow.number_append hnames hparts hremainder hlength
  · refine hbelow.of_reads h hword hspaced ?_ hlength
    rw [hblank, if_neg Bool.false_ne_true, hends, hkind, htext]
    exact .number (isNumber_written hnames h.tail hparts hremainder)

theorem SettlesBelow.numberSign (h : Token.Orderly (u :: tokens)) (htext : u.text = ['#'])
    (hlength : (t.written row blankBefore operand (u :: tokens)).length ≤ length) :
    Token.Settles blankBefore operand (t.written row blankBefore operand (u :: tokens)) := by
  obtain ⟨hkind, hnone⟩ := (htext ▸ h.lexed.1).noLiteral
  have hword : u.kind.hasWord = false := by rw [hkind]; rfl
  have hspaced : u.isSpaced → operand = false := by simp [Token.isSpaced, hkind]
  have hblank : u.isBlank = false := by simp [Token.isBlank, hkind]
  have hends : u.endsOperand = false := by simp [Token.endsOperand, hkind, htext]
  by_cases hnone' : NoLiteral (t.written row false false tokens)
  · refine hbelow.of_reads h hword hspaced ?_ hlength
    rw [hblank, if_neg Bool.false_ne_true, hends, hkind, htext]
    exact .numberSign hnone'
  · -- The column forms behind the sign make it an error value, which may end inside one of them.
    rw [written_cons hspaced, replace_of_not_hasWord hword, hblank, if_neg Bool.false_ne_true,
      hends, htext] at hlength ⊢
    generalize hwritten : t.written row false false tokens = written at hlength hnone' ⊢
    obtain ⟨e, he, hsame⟩ : ∃ e ∈ errorLiterals,
        sameIgnoringCase e (('#' :: written).take e.length) := by simpa [NoLiteral] using hnone'
    obtain ⟨l, hl⟩ := eq_cons_of_sameIgnoringCase_errorLiteral he hsame
    have happend := List.take_append_drop e.length ('#' :: written)
    rw [hl] at hsame happend
    have hback : t.written row false false tokens = l ++ ('#' :: written).drop e.length := by
      rw [hwritten]
      exact (List.cons.inj happend).2.symm
    have hreads : Reads .errorLiteral ('#' :: l) (('#' :: written).drop e.length) :=
      .errorLiteral he hsame
    have hstarts := hreads.starts
    rw [happend] at hstarts
    have hrest := remainder_of_errorLiteral hnames h.tail he hsame hnone hback
    exact hbelow.leaves hnames hstarts ⟨Token.Kind.noConfusion, Token.Kind.noConfusion, hrest⟩
      hlength

theorem SettlesBelow.point (h : Token.Orderly (u :: tokens)) (hword : u.kind.hasWord = false)
    (hspaced : u.isSpaced → operand = false) (htext : u.text = ['.'])
    (hdigit : ¬ StopsBefore Char.isDigit
      (t.written row u.isBlank (if u.isBlank then operand else u.endsOperand) tokens))
    (hlength : (t.written row blankBefore operand (u :: tokens)).length ≤ length) :
    Token.Settles blankBefore operand (t.written row blankBefore operand (u :: tokens)) := by
  have hstop := (htext ▸ h.lexed.1).stopsBefore_isDigit
  rw [written_cons hspaced, replace_of_not_hasWord hword, htext] at hlength ⊢
  cases hs : t.written row u.isBlank (if u.isBlank then operand else u.endsOperand) tokens with
  | nil =>
      rw [hs] at hdigit
      exact absurd (stopsBefore_nil _) hdigit
  | cons d s =>
      rw [hs] at hdigit hlength
      rcases written_cases hnames h.tail hs with ⟨hd, hrest⟩ | ⟨-, hhead | rfl | ⟨rfl, -⟩⟩
      · exact hbelow.cons hnames rfl (.cons (isInert_of_isWordChar hd) hrest) hlength
      · exact absurd (stopsBefore_cons.mpr (hstop.eq_false hhead)) hdigit
      · exact absurd (stopsBefore_cons.mpr rfl) hdigit
      · exact absurd (stopsBefore_cons.mpr rfl) hdigit

theorem SettlesBelow.other (h : Token.Orderly (u :: tokens)) (hword : u.kind.hasWord = false)
    (hspaced : u.isSpaced → operand = false)
    (hlength : (t.written row blankBefore operand (u :: tokens)).length ≤ length) :
    Token.Settles blankBefore operand (t.written row blankBefore operand (u :: tokens)) := by
  by_cases hnumber : u.kind = .number
  · exact hbelow.number hnames h hnumber hlength
  by_cases hsign : u.text = ['#']
  · exact hbelow.numberSign hnames h hsign hlength
  by_cases hpoint : u.text = ['.'] ∧ ¬ StopsBefore Char.isDigit
      (t.written row u.isBlank (if u.isBlank then operand else u.endsOperand) tokens)
  · exact hbelow.point hnames h hword hspaced hpoint.1 hpoint.2 hlength
  refine hbelow.of_reads h hword hspaced ?_ hlength
  refine h.lexed.1.of_stopsAlike hword (stopsAlike_written hnames h.tail row _ _) ?_ hnumber ?_ ?_
  · intro hkind
    have hblank : u.isBlank = true := by simp [Token.isBlank, hkind]
    exact stopsBefore_isBlank_written hnames h.tail (.inl hblank) (hkind ▸ h.lexed.1).blank_stop
  · exact fun htext => absurd htext hsign
  · intro htext
    by_contra hdigit
    exact hpoint ⟨htext, hdigit⟩

theorem SettlesBelow.succ : t.SettlesBelow row (length + 1) := by
  intro tokens blankBefore operand h hlength
  replace hlength := Nat.le_of_lt_succ hlength
  cases tokens with
  | nil => exact Token.settles_nil _ _
  | cons u tokens =>
      cases hword : u.kind.hasWord with
      | true => exact hbelow.word hnames h hword hlength
      | false =>
          by_cases hspaced : u.isSpaced ∧ operand = true
          · obtain ⟨hspaced, rfl⟩ := hspaced
            exact hbelow.spaced hnames h hspaced hlength
          · exact hbelow.other hnames h hword (by simpa using hspaced) hlength

end

theorem settlesBelow (hnames : t.HasValidNames) (row : Option Nat) (length : Nat) :
    t.SettlesBelow row length := by
  -- Induction on the tokens would not do: a token of the output may end inside a later piece.
  induction length with
  | zero =>
      intro tokens blankBefore operand _ hlength
      contradiction
  | succ length ih => exact ih.succ hnames

/-- The output has its spaces where the operators of its own tokens have them. -/
theorem spaceOperators_output (hnames : t.HasValidNames) {formula : Text} {row : Option Nat}
    (hsuccess : (t.convert formula row).success = true)
    (hmark : ∀ tokens, Token.tokenize (body formula) = .ok tokens →
      ∀ token ∈ tokens, ¬(token.kind = .other ∧ token.text = ['!'])) :
    Token.spaceOperators (t.convert formula row).output = (t.convert formula row).output := by
  rcases of_convert_success hsuccess with ⟨-, houtput⟩ | ⟨tokens, htokens, houtput⟩
  · rw [houtput, Token.spaceOperators, Token.tokenize, Token.scan_nil]
    rfl
  obtain ⟨-, hlexed, -⟩ := Token.tokenize_eq_ok_iff.mp htokens
  have hsettles : Token.Settles false false (t.written row false false tokens) :=
    settlesBelow hnames row _ tokens false false ⟨hlexed, hmark tokens htokens⟩
      (Nat.lt_succ_self _)
  change (t.convert formula row).output = t.written row false false tokens at houtput
  rw [houtput, Token.spaceOperators]
  split
  · rename_i tokens' htokens'
    obtain ⟨hrender, hlexed', -⟩ := Token.tokenize_eq_ok_iff.mp htokens'
    rw [Token.spaced, Token.spacedText_eq_render_iff.mpr (hsettles tokens' hlexed' hrender),
      hrender]
  · rfl

theorem spaceOperators_output_joined :
    let own := Mapping.ofHeadersAt ["A".toList, "E2".toList] 0 {}
    let rates := Mapping.ofHeadersAt ["Rate".toList] 0 { tableName := "Rates".toList }
    let t : Converter :=
      { mapping := own
        firstDataRow := 2
        place := some ⟨"O'x".toList, ⟨[("O'x".toList, own), ("Rates".toList, rates)]⟩⟩ }
    let formula := "=-2'O''x'!B$4%-._xlfn.5(Rates!A:A)<-#n/'O''x'!A$3".toList
    t.HasValidNames ∧ (t.convert formula).success = true ∧
      (∀ tokens, Token.tokenize (body formula) = .ok tokens →
        ∀ token ∈ tokens, ¬(token.kind = .other ∧ token.text = ['!'])) ∧
      (t.convert formula).output = "-2E2[2]% - .5(Rates.Rate) < -#n / A[1]".toList ∧
      Token.spaceOperators (t.convert formula).output = (t.convert formula).output := by
  intro own rates t formula
  have hown : own.IsOfHeaders := ⟨["A".toList, "E2".toList], 0, {}, by decide, rfl⟩
  have hrates : rates.IsOfHeaders :=
    ⟨["Rate".toList], 0, { tableName := "Rates".toList }, by decide, rfl⟩
  have hnames : t.HasValidNames := by
    refine ⟨hown, ?_⟩
    rintro place hplace sheet hsheet
    obtain rfl := Option.some.inj hplace
    simp only [List.mem_cons, List.not_mem_nil, or_false] at hsheet
    rcases hsheet with rfl | rfl
    · exact hown
    · exact hrates
  have hsuccess : (t.convert formula).success = true := by decide +kernel
  have hmark : ∀ tokens, Token.tokenize (body formula) = .ok tokens →
      ∀ token ∈ tokens, ¬(token.kind = .other ∧ token.text = ['!']) := by
    have hall : (Token.tokenize (body formula)).toOption.all fun tokens =>
        tokens.all fun token => !(token.kind == .other && token.text == ['!']) := by decide +kernel
    rintro tokens htokens token htoken ⟨hkind, htext⟩
    rw [htokens] at hall
    have hnot := List.all_eq_true.mp hall token htoken
    simp [hkind, htext] at hnot
  have houtput : (t.convert formula).output =
      "-2E2[2]% - .5(Rates.Rate) < -#n / A[1]".toList := by decide +kernel
  exact ⟨hnames, hsuccess, hmark, houtput, spaceOperators_output hnames hsuccess hmark⟩

end Converter

end ColumnFormula
