import ColumnFormula.Proofs.WrittenTokens

/-!
What is left of a converted formula behind a token that was taken off its front. The tokens of the
output need not end where the pieces end: a numeral may go on with a column form, and a column
form with the next one. Behind such a token there is the rest of a piece, and what is written
behind the piece (`Remainder`); and taking a token off a remainder leaves a remainder
(`Remainder.exists_starts`).
-/

namespace ColumnFormula

open Lexeme Text

/-- The tokens of a formula, with no exclamation mark by itself among them. -/
structure Token.Orderly (tokens : List Token) : Prop where
  lexed : Token.Lexed tokens
  noMark : ∀ u ∈ tokens, ¬(u.kind = .other ∧ u.text = ['!'])

theorem Token.Orderly.tail {u : Token} {tokens : List Token} (h : Token.Orderly (u :: tokens)) :
    Token.Orderly tokens :=
  ⟨h.lexed.2, fun v hv => h.noMark v (List.mem_cons_of_mem u hv)⟩

namespace Converter

variable {t : Converter} {row : Option Nat} {u : Token} {tokens : List Token} {s : Text}
  {blankBefore operand : Bool}

/-- The rest of a piece that stands in the place of a word, and what is written behind the word. -/
inductive Remainder (t : Converter) (row : Option Nat) : Text → Prop
  | behind {tokens : List Token} (orderly : Token.Orderly tokens)
      (stop : StopsBefore isWordChar (Token.render tokens)) :
      Remainder t row (t.written row false true tokens)
  | cons {c : Char} {s : Text} (isInert : isInert c) (rest : Remainder t row s) :
      Remainder t row (c :: s)

theorem Remainder.append {v : Text} (h : t.Remainder row s) (hall : ∀ c ∈ v, isInert c) :
    t.Remainder row (v ++ s) := by
  induction v with
  | nil => exact h
  | cons c v ih => exact .cons (hall c (by simp)) (ih fun d hd => hall d (by simp [hd]))

/-- What is written starts with a piece, or as the formula does, or with a parenthesis behind a
function name that is gone, or with an added space. -/
theorem written_cases (hnames : t.HasValidNames) (h : Token.Orderly tokens) {c : Char}
    (hs : t.written row blankBefore operand tokens = c :: s) :
    isWordChar c ∧ t.Remainder row s ∨ isWordStart c = false ∧
      ((Token.render tokens).head? = some c ∨ c = '(' ∨
        c = ' ' ∧ blankBefore = false ∧ operand = true) := by
  cases tokens with
  | nil => contradiction
  | cons u tokens =>
      cases hword : u.kind.hasWord with
      | false =>
          obtain ⟨hstart, hhead | hspace⟩ := written_of_not_hasWord h.lexed hword hs
          · exact .inr ⟨hstart, .inl hhead⟩
          · exact .inr ⟨hstart, .inr (.inr hspace)⟩
      | true =>
          obtain ⟨hreads, -⟩ := id h.lexed
          have hstop := hreads.stopsBefore_isWordChar hword
          rw [written_word h.lexed hword] at hs
          generalize hpiece : (t.replace row u).text = piece at hs
          cases hpiece ▸ replace_wordPiece hnames hreads hword row with
          | inert hc hall =>
              obtain ⟨rfl, rfl⟩ := List.cons.inj hs
              exact .inl ⟨hc, (Remainder.behind h.tail hstop).append hall⟩
          | quoted hcloses hall hsame =>
              obtain ⟨rfl, rfl⟩ := List.cons.inj hs
              exact .inr ⟨rfl, .inl (by simp [hsame])⟩
          | emptied hfunction =>
              obtain ⟨p, rest, -, hparen⟩ := exists_written_paren t row h.lexed hfunction
              rw [hparen] at hs
              obtain ⟨rfl, -⟩ := List.cons.inj hs
              exact .inr ⟨rfl, .inr (.inl rfl)⟩

theorem stopsBefore_written (hnames : t.HasValidNames) (h : Token.Orderly tokens)
    {p : Char → Bool} (hword : ∀ c, p c → isWordChar c = false) (hparen : p '(' = false)
    (hspace : p ' ' = false ∨ blankBefore = true ∨ operand = false)
    (hstop : StopsBefore p (Token.render tokens)) :
    StopsBefore p (t.written row blankBefore operand tokens) := by
  cases hs : t.written row blankBefore operand tokens with
  | nil => exact stopsBefore_nil p
  | cons c s =>
      rw [stopsBefore_cons]
      rcases written_cases hnames h hs with ⟨hc, -⟩ | ⟨-, hhead | rfl | ⟨rfl, rfl, rfl⟩⟩
      · rw [Bool.eq_false_iff]
        intro hp
        exact ne_true_of_eq_false (hword c hp) hc
      · exact hstop.eq_false hhead
      · exact hparen
      · simpa using hspace

theorem stopsAlike_written (hnames : t.HasValidNames) (h : Token.Orderly tokens)
    (row : Option Nat) (blankBefore operand : Bool) :
    StopsAlike (Token.render tokens) (t.written row blankBefore operand tokens) :=
  fun _ hspace hparen hword => stopsBefore_written hnames h hword hparen (.inl hspace)

theorem stopsBefore_isBlank_written (hnames : t.HasValidNames) (h : Token.Orderly tokens)
    (hsame : blankBefore = true ∨ operand = false)
    (hstop : StopsBefore isBlank (Token.render tokens)) :
    StopsBefore isBlank (t.written row blankBefore operand tokens) :=
  stopsBefore_written hnames h (fun _ => isWordChar_of_isBlank) (by decide) (.inr hsame) hstop

theorem not_stopsBefore_isBlank_written (h : Token.Lexed (u :: tokens)) (hblank : u.isBlank) :
    ¬ StopsBefore isBlank (t.written row blankBefore operand (u :: tokens)) := by
  have hkind : u.kind = .blank := by simpa [Token.isBlank] using hblank
  have hspaced : u.isSpaced = false := by simp [Token.isSpaced, hkind]
  rw [written_cons (by simp [hspaced]), replace_of_not_hasWord (by rw [hkind]; rfl),
    h.1.stopsBefore_isBlank_iff, not_not]
  exact hkind

theorem isNumber_written (hnames : t.HasValidNames) (h : Token.Orderly tokens)
    {whole point power : Text} (hparts : IsNumber whole point power (Token.render tokens))
    (hnot : ¬ t.Remainder row (t.written row false true tokens)) :
    IsNumber whole point power (t.written row false true tokens) := by
  cases hs : t.written row false true tokens with
  | nil =>
      exact { hparts with
        noDigit := stopsBefore_nil _
        noPoint := fun _ _ => stopsBefore_nil _
        noExponent := fun _ => rfl }
  | cons c s =>
      rcases written_cases hnames h hs with ⟨hc, hrest⟩ | ⟨hstart, hhead⟩
      · rw [hs] at hnot
        exact absurd (.cons (isInert_of_isWordChar hc) hrest) hnot
      · have hstop : ∀ p : Char → Bool, p '(' = false → p ' ' = false →
            StopsBefore p (Token.render tokens) → StopsBefore p (c :: s) := by
          intro p hparen hspace hstop
          rw [stopsBefore_cons]
          rcases hhead with hhead | rfl | ⟨rfl, -⟩
          · exact hstop.eq_false hhead
          · exact hparen
          · exact hspace
        exact { hparts with
          noDigit := hstop _ rfl rfl hparts.noDigit
          noPoint := fun hpoint hpower => hstop _ rfl rfl (hparts.noPoint hpoint hpower)
          noExponent := fun _ => exponent_of_not_isWordStart hstart s }

/-- A remainder starts in a piece, or as the formula does behind the piece, or with what was added
or left over there. -/
theorem Remainder.cons_cases {c : Char} (h : t.Remainder row (c :: s)) (hnames : t.HasValidNames) :
    isInert c ∧ t.Remainder row s ∨ c = ' ' ∨ c = '(' ∨
      ∃ tokens, Token.Orderly tokens ∧ StopsBefore isWordChar (Token.render tokens) ∧
        (Token.render tokens).head? = some c ∧ t.written row false true tokens = c :: s := by
  generalize hr : c :: s = r at h
  cases h with
  | cons hc hrest =>
      obtain ⟨rfl, rfl⟩ := List.cons.inj hr
      exact .inl ⟨hc, hrest⟩
  | behind horderly hstop =>
      rcases written_cases hnames horderly hr.symm with
        ⟨hc, hrest⟩ | ⟨-, hhead | hparen | ⟨hspace, -⟩⟩
      · exact .inl ⟨isInert_of_isWordChar hc, hrest⟩
      · exact .inr (.inr (.inr ⟨_, horderly, hstop, hhead, rfl⟩))
      · exact .inr (.inr (.inl hparen))
      · exact .inr (.inl hspace)

theorem Remainder.tail {c : Char} (h : t.Remainder row (c :: s)) (hnames : t.HasValidNames)
    (hc : isWordChar c) : t.Remainder row s := by
  rcases h.cons_cases hnames with ⟨-, hrest⟩ | rfl | rfl | ⟨tokens, -, hstop, hhead, -⟩
  · exact hrest
  · contradiction
  · contradiction
  · exact absurd hc (ne_true_of_eq_false (hstop.eq_false hhead))

theorem Remainder.of_append {v : Text} (h : t.Remainder row (v ++ s)) (hnames : t.HasValidNames)
    (hv : ∀ c ∈ v, isWordChar c) : t.Remainder row s := by
  induction v with
  | nil => exact h
  | cons c v ih => exact ih (h.tail hnames (hv c (by simp))) fun d hd => hv d (by simp [hd])

theorem Remainder.dropWhile {p : Char → Bool} (h : t.Remainder row s) (hnames : t.HasValidNames)
    (hp : ∀ c, p c → isWordChar c) : t.Remainder row (s.dropWhile p) := by
  rw [← List.takeWhile_append_dropWhile (p := p) (l := s)] at h
  exact h.of_append hnames fun c hc => hp c (List.mem_takeWhile_imp hc)

theorem Remainder.mark (h : t.Remainder row ('!' :: s)) (hnames : t.HasValidNames) :
    t.Remainder row s := by
  rcases h.cons_cases hnames with ⟨-, hrest⟩ | hspace | hparen | ⟨tokens, horderly, -, hhead, -⟩
  · exact hrest
  · contradiction
  · contradiction
  · obtain ⟨position, rest, rfl⟩ := horderly.lexed.exists_of_first (fun _ => rfl) hhead
    exact absurd ⟨rfl, rfl⟩ (horderly.noMark _ (List.mem_cons_self ..))

theorem Remainder.isSpaced_eq_false {c : Char} (h : t.Remainder row (c :: s))
    (hnames : t.HasValidNames) (hsingle : single? c = some .operator) :
    Token.isSpaced ⟨.operator, [c], 0⟩ = false := by
  rcases h.cons_cases hnames with ⟨hc, -⟩ | rfl | rfl | ⟨tokens, horderly, -, hhead, hs⟩
  · rw [single?_of_isInert hc] at hsingle
    contradiction
  · contradiction
  · contradiction
  · obtain ⟨position, rest, rfl⟩ := horderly.lexed.exists_of_first (first_single hsingle) hhead
    rw [Bool.eq_false_iff]
    intro hspaced
    have hwritten : t.written row false true (⟨.operator, [c], position⟩ :: rest) =
        ' ' :: ([c] ++ (if rest.head?.all Token.isBlank then [] else [' ']) ++
          t.written row false false rest) := written_spaced hspaced
    rw [hwritten] at hs
    obtain ⟨rfl, -⟩ := List.cons.inj hs
    contradiction

theorem Remainder.colon (h : t.Remainder row (':' :: s)) (hnames : t.HasValidNames)
    (hbound : isBound (s.takeWhile isWordChar)) : t.Remainder row (s.dropWhile isWordChar) := by
  suffices hrest : t.Remainder row s from hrest.dropWhile hnames fun _ hc => hc
  rcases h.cons_cases hnames with ⟨-, hrest⟩ | hspace | hparen | ⟨tokens, horderly, -, hhead, hs⟩
  · exact hrest
  · contradiction
  · contradiction
  · obtain ⟨position, rest, rfl⟩ := horderly.lexed.exists_of_first (fun _ => rfl) hhead
    have hwritten : t.written row false true (⟨.other, [':'], position⟩ :: rest) =
        ':' :: t.written row false false rest := rfl
    rw [hwritten] at hs
    obtain ⟨-, rfl⟩ := List.cons.inj hs
    have hstart := not_stopsBefore_of_isBound hbound
    cases hs : t.written row false false rest with
    | nil =>
        rw [hs] at hstart
        exact absurd (stopsBefore_nil _) hstart
    | cons c s =>
        rcases written_cases hnames horderly.tail hs with ⟨hc, hrest⟩ | ⟨hc, -⟩
        · exact .cons (isInert_of_isWordChar hc) hrest
        · rw [hs, stopsBefore_cons, hc] at hstart
          contradiction

/-- The token is neither an operator nor a blank, and behind it there is a remainder. -/
structure Leaves (t : Converter) (row : Option Nat) (l : Lexeme) : Prop where
  noOperator : l.kind ≠ .operator
  noBlank : l.kind ≠ .blank
  rest : t.Remainder row l.rest

theorem Leaves.of_hasWord {l : Lexeme} (hword : l.kind.hasWord) (h : t.Remainder row l.rest) :
    t.Leaves row l := by
  refine ⟨?_, ?_, h⟩
  · intro hkind
    simp [hkind, Token.Kind.hasWord] at hword
  · intro hkind
    simp [hkind, Token.Kind.hasWord] at hword

theorem Remainder.fraction (h : t.Remainder row s) (hnames : t.HasValidNames) :
    t.Remainder row (fraction s).2 := by
  fun_cases Lexeme.fraction s with
  | case1 rest => exact (h.tail hnames rfl).dropWhile hnames fun _ => isWordChar_of_isDigit
  | case2 => exact h

theorem Remainder.exponent (h : t.Remainder row s) (hnames : t.HasValidNames) :
    t.Remainder row (exponent s).2 := by
  have hletter : ∀ {e : Char}, e = 'e' ∨ e = 'E' → isWordChar e := by
    rintro e (rfl | rfl) <;> rfl
  fun_cases Lexeme.exponent s with
  | case1 e he d rest hd =>
      exact (h.tail hnames (hletter he)).dropWhile hnames fun _ => isWordChar_of_isDigit
  | case2 e he d rest hd hsign =>
      have hbehind := h.tail hnames (hletter he)
      have hd' : d = '+' ∨ d = '-' := by simpa [isSign] using hsign.1
      rcases hd' with rfl | rfl
      · exact absurd (hbehind.isSpaced_eq_false hnames rfl) (by decide)
      · exact absurd (hbehind.isSpaced_eq_false hnames rfl) (by decide)
  | case3 | case4 | case5 | case6 => exact h

theorem Remainder.number (h : t.Remainder row s) (hnames : t.HasValidNames) :
    t.Leaves row (number s) where
  noOperator h := Token.Kind.noConfusion h
  noBlank h := Token.Kind.noConfusion h
  rest := ((h.dropWhile hnames fun _ => isWordChar_of_isDigit).fraction hnames).exponent hnames

theorem Remainder.rangeTail? {word tail rest : Text} (h : t.Remainder row s)
    (hnames : t.HasValidNames) (htail : rangeTail? word s = some (tail, rest)) :
    t.Remainder row rest := by
  unfold Lexeme.rangeTail? at htail
  split at htail
  · dsimp only at htail
    split at htail
    · rename_i hbounds
      obtain ⟨-, rfl⟩ := Prod.mk.inj (Option.some.inj htail)
      exact h.colon hnames (Bool.and_eq_true .. ▸ hbounds).2
    · contradiction
  · contradiction

theorem Remainder.qualified (h : t.Remainder row s) (hnames : t.HasValidNames)
    (sheet head : Text) : t.Leaves row (qualified sheet head s) := by
  have hrest := h.dropWhile hnames fun _ hc => hc
  refine .of_hasWord (qualified_hasWord ..) ?_
  unfold Lexeme.qualified
  dsimp only
  split
  · rename_i htail
    exact hrest.rangeTail? hnames htail
  · exact hrest

theorem Remainder.word (h : t.Remainder row s) (hnames : t.HasValidNames) :
    t.Leaves row (word s) := by
  have hrest := h.dropWhile hnames fun _ hc => hc
  refine .of_hasWord (word_hasWord s) ?_
  unfold Lexeme.word
  dsimp only
  split
  · rename_i hmark
    rw [hmark] at hrest
    exact ((hrest.mark hnames).qualified hnames ..).rest
  · rename_i hparen
    rwa [hparen] at hrest
  · unfold bare
    split
    · rename_i htail
      exact hrest.rangeTail? hnames htail
    · exact hrest

theorem Remainder.exists_starts {c : Char} (h : t.Remainder row s) (hnames : t.HasValidNames)
    (hc : isInert c) : ∃ l, Starts (c :: s) l ∧ t.Leaves row l := by
  refine ⟨_, ⟨c, s, rfl, first_of_isInert hc s⟩, ?_⟩
  split
  · exact (Remainder.cons hc h).number hnames
  split
  · exact (Remainder.cons hc h).word hnames
  · exact ⟨Token.Kind.noConfusion, Token.Kind.noConfusion, h⟩

end Converter

end ColumnFormula
