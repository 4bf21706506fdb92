import ColumnFormula.Proofs.WrittenRemainders

/-!
Error values that a formula does not have and that its output does. What is written behind a
number sign may be part of one, but only of one that is a name to its end: a column form has a
mark that no error value has, and a slash behind a name gets a space. So behind the error value
there is a remainder.
-/

namespace ColumnFormula

open Lexeme Text

namespace Lexeme

/-- A mark that the letters of an error value end at. -/
def isLiteralMark (c : Char) : Bool := c == '/' || c == '!' || c == '?'

/-- What an error value has behind its name: nothing, or a mark that ends it unless it is a slash.
-/
def endsAtMark : Text → Bool
  | [] => true
  | x :: more => isLiteralMark x && (x == '/' || more.isEmpty)

theorem eq_of_isLiteralMark {x : Char} (h : isLiteralMark x) : x = '/' ∨ x = '!' ∨ x = '?' := by
  simpa [isLiteralMark, or_assoc] using h

theorem not_isWordChar_of_isLiteralMark {x : Char} (h : isLiteralMark x) :
    isWordChar x = false := by
  rcases eq_of_isLiteralMark h with rfl | rfl | rfl <;> rfl

theorem isNameChar_toUpper (c : Char) :
    Identifier.isWordChar c.toUpper = Identifier.isWordChar c := by
  by_cases hlower : c.isLower
  · have hupper : c.toUpper.isUpper := by
      rw [Char.isUpper_toUpper_eq_isAlpha]
      simp [Char.isAlpha, hlower]
    simp [Identifier.isWordChar, Char.isAlphanum, Char.isAlpha, hlower, hupper]
  · rw [Char.toUpper_eq_of_not_isLower hlower]

theorem exists_name_of_errorLiteral {e l : Text} (he : e ∈ errorLiterals)
    (hsame : sameIgnoringCase e ('#' :: l)) :
    ∃ name back, l = name ++ back ∧ isWord name ∧ (∀ c ∈ name, Identifier.isWordChar c) ∧
      endsAtMark back := by
  have hall : ∀ e ∈ errorLiterals, (asciiUpper e).tail.head?.any Char.isUpper ∧
      endsAtMark ((asciiUpper e).tail.dropWhile Identifier.isWordChar) := by decide +kernel
  have hupper : asciiUpper e = asciiUpper ('#' :: l) := by simpa [sameIgnoringCase] using hsame
  obtain ⟨hhead, hback⟩ := hall e he
  have htail : (asciiUpper e).tail = asciiUpper l := congrArg List.tail hupper
  have hdrop : (asciiUpper l).dropWhile Identifier.isWordChar =
      asciiUpper (l.dropWhile Identifier.isWordChar) := by
    have hclass : Identifier.isWordChar ∘ Char.toUpper = Identifier.isWordChar :=
      funext isNameChar_toUpper
    rw [asciiUpper, List.dropWhile_map, hclass]
    rfl
  rw [htail] at hhead hback
  rw [hdrop] at hback
  refine ⟨l.takeWhile Identifier.isWordChar, l.dropWhile Identifier.isWordChar,
    List.takeWhile_append_dropWhile.symm, ?_, fun c hc => List.mem_takeWhile_imp hc, ?_⟩
  · cases l with
    | nil => simp [asciiUpper] at hhead
    | cons c l =>
        have hc : c.isAlpha := by simpa [asciiUpper, Char.isUpper_toUpper_eq_isAlpha] using hhead
        have hname : Identifier.isWordChar c := by
          simp [Identifier.isWordChar, Char.isAlphanum, hc]
        rw [List.takeWhile_cons_of_pos hname]
        refine isWord_cons.mpr ⟨isWordStart_of_isAlpha hc, fun d hd => ?_⟩
        exact isWordChar_of_isNameChar (List.mem_takeWhile_imp hd)
  · have hstop := stopsBefore_dropWhile Identifier.isWordChar l
    cases hrest : l.dropWhile Identifier.isWordChar with
    | nil => rfl
    | cons x more =>
        rw [hrest] at hback hstop
        have hx : x.toUpper = x := by
          apply Char.toUpper_eq_of_not_isLower
          intro hlower
          rw [stopsBefore_cons] at hstop
          simp [Identifier.isWordChar, Char.isAlphanum, Char.isAlpha, hlower] at hstop
        simpa [endsAtMark, asciiUpper, hx] using hback

end Lexeme

namespace Converter

variable {t : Converter} {row : Option Nat} {u : Token} {tokens : List Token} {r name : Text}
  {x : Char} {blankBefore operand : Bool}

theorem Rewrites.append_ne {piece s : Text} (h : t.Rewrites u piece) (hnames : t.HasValidNames)
    (hname : ∀ c ∈ name, Identifier.isWordChar c) (hx : isLiteralMark x) :
    piece ++ s ≠ name ++ x :: r := by
  have hdrop : ∀ {name back : Text} {c : Char}, (∀ c ∈ name, Identifier.isWordChar c) →
      Identifier.isWordChar c = false →
      (name ++ c :: back).dropWhile Identifier.isWordChar = c :: back := fun hname hc =>
    dropWhile_append_of_stopsBefore hname (stopsBefore_cons.mpr hc)
  have hnoName : Identifier.isWordChar x = false := by
    rcases eq_of_isLiteralMark hx with rfl | rfl | rfl <;> rfl
  have hmark : ∀ {c : Char} {back : Text},
      c :: back = x :: r → isLiteralMark c = false → False := by
    intro c back heq hc
    obtain rfl := (List.cons.inj heq).1
    exact ne_true_of_eq_false hc hx
  intro heq
  replace heq := congrArg (List.dropWhile Identifier.isWordChar) heq
  rw [hdrop hname hnoName] at heq
  cases h with
  | currentRow => exact hmark heq rfl
  | fixedRow _ _ _ _ _ _ hknown =>
      have hidentifier := Identifier.isWordChar_of_isValid (hnames.own.get?_isValid hknown)
      rw [List.append_assoc, List.append_assoc, List.cons_append, hdrop hidentifier rfl] at heq
      exact hmark heq rfl
  | wholeColumn _ hresolves _ _ hknown =>
      have htable := (hnames.of_resolvesTo hresolves).table_isValid
      rw [List.append_assoc, List.cons_append,
        hdrop (Identifier.isWordChar_of_isValid htable) rfl] at heq
      exact hmark heq rfl

theorem exists_rewrites_of_written (h : Token.Orderly tokens)
    (hstop : StopsBefore isWordChar (Token.render tokens)) {c : Char} {s : Text}
    (hs : t.written row blankBefore operand tokens = c :: s) (hc : isWordChar c) :
    ∃ u piece back, t.Rewrites u piece ∧ c :: s = piece ++ back := by
  cases tokens with
  | nil => contradiction
  | cons u tokens =>
      obtain ⟨hreads, -⟩ := id h.lexed
      have hne := hreads.text_ne_nil
      rw [Token.render_cons, stopsBefore_append_iff hne] at hstop
      cases hword : u.kind.hasWord with
      | false =>
          obtain ⟨-, hhead | ⟨rfl, -⟩⟩ := written_of_not_hasWord h.lexed hword hs
          · rw [Token.render_cons, List.head?_append_of_ne_nil _ hne] at hhead
            exact absurd hc (ne_true_of_eq_false (hstop.eq_false hhead))
          · contradiction
      | true =>
          rw [written_word h.lexed hword] at hs
          rcases replace_cases t row hreads with hrewrites | hsame | hfunction
          · exact ⟨u, _, _, hrewrites, hs.symm⟩
          · obtain ⟨d, text, htext⟩ := List.exists_cons_of_ne_nil hne
            rw [hsame, htext] at hs
            obtain ⟨rfl, -⟩ := List.cons.inj hs
            rw [htext, stopsBefore_cons, hc] at hstop
            contradiction
          · obtain ⟨d, text, htext, hd, -⟩ :=
              exists_cons_of_isWord (hfunction ▸ hreads).function_isWord
            rw [htext, stopsBefore_cons, isWordChar_of_isWordStart hd] at hstop
            contradiction

theorem prefix_of_written_mark (hnames : t.HasValidNames) (h : Token.Orderly tokens)
    (hstop : StopsBefore isWordChar (Token.render tokens)) (hx : isLiteralMark x)
    (hs : t.written row false true tokens = x :: r) : x ≠ '/' ∧ [x] <+: Token.render tokens := by
  constructor
  · rintro rfl
    have hremainder : t.Remainder row (t.written row false true tokens) := .behind h hstop
    rw [hs] at hremainder
    exact absurd (hremainder.isSpaced_eq_false hnames rfl) (by decide)
  · rcases written_cases hnames h hs with ⟨hword, -⟩ | ⟨-, hhead | rfl | ⟨rfl, -⟩⟩
    · exact absurd hword (ne_true_of_eq_false (not_isWordChar_of_isLiteralMark hx))
    · obtain ⟨more, hmore⟩ := List.head?_eq_some_iff.mp hhead
      exact ⟨more, hmore.symm⟩
    · contradiction
    · contradiction

theorem prefix_of_text_append (hnames : t.HasValidNames) (h : Token.Orderly (u :: tokens))
    (hword : u.kind.hasWord) (hname : isWord name)
    (hchars : ∀ c ∈ name, Identifier.isWordChar c) (hx : isLiteralMark x)
    (hs : u.text ++ t.written row false true tokens = name ++ x :: r) :
    x ≠ '/' ∧ name ++ [x] <+: u.text ++ Token.render tokens := by
  have hstop := h.lexed.1.stopsBefore_isWordChar hword
  have hbehind : u.text = name → t.written row false true tokens = x :: r →
      x ≠ '/' ∧ name ++ [x] <+: u.text ++ Token.render tokens := by
    rintro rfl hrest
    obtain ⟨hslash, hfront⟩ := prefix_of_written_mark hnames h.tail hstop hx hrest
    exact ⟨hslash, (List.prefix_append_right_inj _).mpr hfront⟩
  rcases List.append_eq_append_iff.mp hs with ⟨y, hy, hrest⟩ | ⟨y, htext, hy⟩
  · cases y with
    | nil => exact hbehind (by simpa using hy.symm) hrest
    | cons d y =>
        have hchars' : ∀ e ∈ d :: y, Identifier.isWordChar e :=
          fun e he => hchars e (by simp [hy, he])
        have hd := isWordChar_of_isNameChar (hchars' d (by simp))
        obtain ⟨v, piece, back, hrewrites, heq⟩ :=
          exists_rewrites_of_written h.tail hstop hrest hd
        exact absurd heq.symm (hrewrites.append_ne hnames hchars' hx)
  · cases y with
    | nil => exact hbehind (by simpa using htext) hy.symm
    | cons d y =>
        obtain ⟨rfl, -⟩ := List.cons.inj hy
        constructor
        · rintro rfl
          have hstart : ¬ StopsBefore isWordStart u.text := by
            obtain ⟨c, s, rfl, hc, -⟩ := exists_cons_of_isWord hname
            simp [htext, hc]
          have hpiece := Token.wordPiece_text h.lexed.1 hword
          exact absurd (hpiece.isInert hstart '/' (by simp [htext])) (by decide)
        · rw [htext]
          exact ⟨y ++ Token.render tokens, by simp⟩

theorem prefix_render_of_written (hnames : t.HasValidNames) (h : Token.Orderly tokens)
    (hname : isWord name) (hchars : ∀ c ∈ name, Identifier.isWordChar c) (hx : isLiteralMark x)
    (hs : t.written row blankBefore operand tokens = name ++ x :: r) :
    x ≠ '/' ∧ name ++ [x] <+: Token.render tokens := by
  cases tokens with
  | nil => simp [written_nil] at hs
  | cons u tokens =>
      obtain ⟨hreads, -⟩ := id h.lexed
      have hword : u.kind.hasWord := by
        obtain ⟨c, s, rfl, hc, -⟩ := exists_cons_of_isWord hname
        by_contra hnot
        have hstart := (written_of_not_hasWord h.lexed (by simpa using hnot) hs).1
        exact absurd hc (ne_true_of_eq_false hstart)
      rw [written_word h.lexed hword] at hs
      rcases replace_cases t row hreads with hrewrites | hsame | hfunction
      · exact absurd hs (hrewrites.append_ne hnames hchars hx)
      · rw [hsame] at hs
        exact prefix_of_text_append hnames h hword hname hchars hx hs
      · obtain ⟨p, rest, -, hparen⟩ := exists_written_paren t row h.lexed hfunction
        have hall := isWordChar_of_function t row hreads hfunction
        have hmark : StopsBefore isWordChar (x :: r) :=
          stopsBefore_cons.mpr (not_isWordChar_of_isLiteralMark hx)
        replace hs := congrArg (List.dropWhile isWordChar) hs
        rw [hparen, dropWhile_append_of_stopsBefore hall (stopsBefore_cons.mpr rfl),
          dropWhile_append_of_stopsBefore (isWordChar_of_isWord hname) hmark] at hs
        obtain ⟨rfl, -⟩ := List.cons.inj hs
        contradiction

/-- What stands behind an error value that the formula does not have. -/
theorem remainder_of_errorLiteral (hnames : t.HasValidNames) (h : Token.Orderly tokens)
    {e l w : Text} (he : e ∈ errorLiterals) (hsame : sameIgnoringCase e ('#' :: l))
    (hnone : NoLiteral (Token.render tokens))
    (hs : t.written row blankBefore operand tokens = l ++ w) : t.Remainder row w := by
  obtain ⟨name, back, rfl, hname, hchars, hback⟩ := exists_name_of_errorLiteral he hsame
  rw [List.append_assoc] at hs
  cases back with
  | nil =>
      have hremainder : t.Remainder row (name ++ w) := by
        obtain ⟨c, s, rfl, hc, -⟩ := exists_cons_of_isWord hname
        rcases written_cases hnames h hs with ⟨hcword, hrest⟩ | ⟨hstart, -⟩
        · exact .cons (isInert_of_isWordChar hcword) hrest
        · exact absurd hc (ne_true_of_eq_false hstart)
      exact hremainder.of_append hnames (isWordChar_of_isWord hname)
  | cons x more =>
      obtain ⟨hx, hmore⟩ : isLiteralMark x ∧ (x = '/' ∨ more = []) := by
        simpa [endsAtMark] using hback
      obtain ⟨hslash, hfront⟩ := prefix_render_of_written hnames h hname hchars hx hs
      obtain rfl := hmore.resolve_left hslash
      have hliteral : asciiUpper e <+: asciiUpper ('#' :: Token.render tokens) := by
        have hupper : asciiUpper e = asciiUpper ('#' :: (name ++ [x])) := by
          simpa [sameIgnoringCase] using hsame
        rw [hupper]
        exact (List.cons_prefix_cons.mpr ⟨rfl, hfront⟩).map Char.toUpper
      have hfound := sameIgnoringCase_take_iff.mpr hliteral
      rw [hnone e he] at hfound
      contradiction

end Converter

end ColumnFormula
