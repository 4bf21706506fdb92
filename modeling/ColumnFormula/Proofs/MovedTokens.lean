import ColumnFormula.Proofs.RewrittenTokens

/-!
Formulas whose references get other columns and other rows. Unlike other rows, other letters can
make up an exponent behind a numeral, and `#N/` becomes an error value before a column that starts
with the letter A. When neither happens, and no reference has a sheet, the tokens stay the tokens
that they were.
-/

namespace ColumnFormula

open Lexeme Text

namespace Lexeme

theorem qualified_text (sheet head s : Text) :
    ∃ more, (qualified sheet head s).text = head ++ more := by
  unfold qualified
  dsimp only
  split
  · exact ⟨_, List.append_assoc ..⟩
  · exact ⟨_, rfl⟩

theorem word_text (s : Text) :
    ∃ more, (word s).text = s.takeWhile isWordChar ++ more ∧ StopsBefore isWordChar more := by
  unfold word
  dsimp only
  split
  · rename_i more _
    obtain ⟨tail, htail⟩ :=
      qualified_text (s.takeWhile isWordChar) (s.takeWhile isWordChar ++ ['!']) more
    exact ⟨'!' :: tail, by simp [htail], stopsBefore_cons.mpr rfl⟩
  · exact ⟨[], (List.append_nil _).symm, stopsBefore_nil _⟩
  · unfold bare
    split
    · rename_i htail
      obtain ⟨-, right, -, rfl, -⟩ := of_rangeTail?_eq_some htail
      exact ⟨':' :: right, rfl, stopsBefore_cons.mpr rfl⟩
    · exact ⟨[], (List.append_nil _).symm, stopsBefore_nil _⟩

theorem Reads.takeWhile_isWordChar {kind : Token.Kind} {text rest : Text} (h : Reads kind text rest)
    (hstart : ¬ StopsBefore isWordStart text) :
    (text ++ rest).takeWhile isWordChar = text.takeWhile isWordChar := by
  obtain ⟨c, s, heq, hfirst⟩ := h.starts
  have hc : isWordStart c := by
    obtain ⟨d, t, rfl⟩ := List.exists_cons_of_ne_nil h.text_ne_nil
    obtain rfl := (List.cons.inj heq).1
    simpa using hstart
  have htext : text = (word (c :: s)).text :=
    congrArg Lexeme.text (Except.ok.inj (hfirst.symm.trans (first_word hc s)))
  obtain ⟨more, hmore, hstop⟩ := word_text (c :: s)
  rw [heq]
  rw [hmore] at htext
  rw [htext, takeWhile_append_of_stopsBefore (fun _ => List.mem_takeWhile_imp) hstop]

end Lexeme

namespace Token

/-- The text starts with the letters of a column, behind a mark or not, and these end at a row or
at the colon of a range. -/
def OpensReference (mark : Bool) (s : Text) : Prop :=
  ∃ letters c more, letters ≠ [] ∧ (∀ d ∈ letters, d.isUpper) ∧ (c = '$' ∨ c = ':' ∨ c.isDigit) ∧
    s = Bound.markText mark ++ (letters ++ c :: more)

/-- A reference to the own sheet that does not name it. -/
def IsBareReference (t : Token) : Prop := t.kind = .cell none ∨ t.kind = .range none

instance (t : Token) : Decidable t.IsBareReference := inferInstanceAs (Decidable (_ ∨ _))

variable {g : Bound.Written → Bound.Written} {t : Token} {rest rest' : Text}
  {tokens : List Token}

theorem IsBareReference.isReference (h : t.IsBareReference) : t.IsReference :=
  h.imp (⟨none, ·⟩) (⟨none, ·⟩)

theorem opensReference_text {w : Bound.Written} (h : w.WellFormed) (s : Text)
    (hends : w.digits ≠ [] ∨ s.head? = some ':') : OpensReference w.columnMark (w.text ++ s) := by
  obtain ⟨columnMark, letters, rowMark, digits⟩ := w
  have hopens : ∀ c more, (c = '$' ∨ c = ':' ∨ c.isDigit) →
      Bound.markText rowMark ++ digits ++ s = c :: more →
      OpensReference columnMark
        (Bound.Written.text ⟨columnMark, letters, rowMark, digits⟩ ++ s) := by
    intro c more hc heq
    refine ⟨letters, c, more, h.letters_ne_nil, h.letters_isUpper, hc, ?_⟩
    rw [← heq]
    simp [Bound.Written.text]
  cases rowMark with
  | true => exact hopens '$' (digits ++ s) (.inl rfl) rfl
  | false =>
      cases digits with
      | cons d digits =>
          exact hopens d (digits ++ s) (.inr (.inr (h.digits_isDigit d (by simp)))) rfl
      | nil =>
          obtain ⟨more, rfl⟩ := List.head?_eq_some_iff.mp (hends.resolve_left (absurd rfl))
          exact hopens ':' more (.inr (.inl rfl)) rfl

theorem opensReference_rewrite (hg : Bound.IsRewriting g) (h : Reads t.kind t.text rest)
    (hbare : t.IsBareReference) :
    ∃ mark, OpensReference mark t.text ∧ OpensReference mark (t.rewrite g).text := by
  have hopens : ∀ w : Bound.Written, w.WellFormed → ∀ s s', (w.digits ≠ [] ∨ s.head? = some ':') →
      s'.head? = s.head? → t.text = w.text ++ s → (t.rewrite g).text = (g w).text ++ s' →
      ∃ mark, OpensReference mark t.text ∧ OpensReference mark (t.rewrite g).text := by
    intro w hform s s' hends hhead htext htext'
    refine ⟨w.columnMark, ?_, ?_⟩
    · rw [htext]
      exact opensReference_text hform s hends
    · rw [htext', ← hg.columnMark w]
      refine opensReference_text (hg.wellFormed w hform) s' ?_
      rw [hhead]
      exact hends.imp_left (mt (hg.digits_eq_nil_iff w).mp)
  have hself : t.text = [] ++ t.referenceText := by
    rcases hbare with hkind | hkind <;> simp [referenceText, hkind]
  have htext' := rewrite_text (g := g) hbare.isReference hself
  rw [List.nil_append] at hself htext'
  rcases hbare with hkind | hkind
  · obtain ⟨w, hform, hw, hdigits⟩ := isCell_iff.mp (isCell_referenceText h hkind)
    have hbound : isBound w.text := isBound_iff.mpr ⟨w, hform, rfl⟩
    rw [← hw, Reference.rewriteText_of_isBound hbound, Bound.rewriteText_text g hform] at htext'
    exact hopens w hform [] [] (.inl hdigits) rfl (by simpa [hw] using hself)
      (by simpa using htext')
  · obtain ⟨left, right, hleft, hright, heq⟩ := isBound_referenceText h hkind
    obtain ⟨w, hform, rfl⟩ := isBound_iff.mp hleft
    rw [heq, Reference.rewriteText_range hleft hright, Bound.rewriteText_text g hform] at htext'
    exact hopens w hform (':' :: right) (':' :: Bound.rewriteText g right) (.inr rfl) rfl
      (hself.trans heq) htext'

theorem isBound_takeWhile (h : Reads t.kind t.text rest) (hbare : t.IsBareReference) :
    isBound ((t.text ++ rest).takeWhile isWordChar) := by
  have htake : ∀ {word s : Text}, isBound word → StopsBefore isWordChar s →
      isBound ((word ++ s).takeWhile isWordChar) := by
    intro word s hword hstop
    rwa [takeWhile_append_of_stopsBefore (isWordChar_of_isWord (isWord_of_isBound hword)) hstop]
  obtain ⟨kind, text, position⟩ := t
  rcases hbare with hkind | hkind
  · obtain rfl : kind = .cell none := hkind
    cases h with
    | cell hcell hstop _ =>
        exact htake (isBound_of_isCell hcell) (hstop.mono fun c hc => by simp [endsBare, hc])
    | symbol hsingle => simpa using of_single?_eq_some hsingle
  · obtain rfl : kind = .range none := hkind
    cases h with
    | @range left right _ hleft _ _ =>
        have hcolon := htake (s := ':' :: (right ++ rest)) hleft (stopsBefore_cons.mpr rfl)
        simpa using hcolon
    | symbol hsingle => simpa using of_single?_eq_some hsingle

theorem OpensReference.exists_cons {mark : Bool} {s : Text} (h : OpensReference mark s) :
    ∃ c more, s = c :: more ∧ (c = '$' ∨ c.isUpper) := by
  obtain ⟨letters, c, more, hne, hupper, -, rfl⟩ := h
  cases mark with
  | true => exact ⟨'$', _, rfl, .inl rfl⟩
  | false =>
      obtain ⟨d, letters, rfl⟩ := List.exists_cons_of_ne_nil hne
      exact ⟨d, _, rfl, .inr (hupper d (by simp))⟩

theorem head?_rewrite_cases (hg : Bound.IsRewriting g) (h : Lexed tokens)
    (hbare : ∀ t ∈ tokens, t.IsReference → t.IsBareReference) :
    (render (tokens.map (rewrite g))).head? = (render tokens).head? ∨
      ∃ c c' : Char, (render tokens).head? = some c ∧
        (render (tokens.map (rewrite g))).head? = some c' ∧ c.isUpper ∧ c'.isUpper := by
  cases tokens with
  | nil => exact .inl rfl
  | cons t tokens =>
      rw [List.map_cons, render_cons, render_cons]
      by_cases href : t.IsReference
      · obtain ⟨mark, hopens, hopens'⟩ := opensReference_rewrite hg h.1 (hbare t (by simp) href)
        obtain ⟨letters, c, more, hne, hupper, -, htext⟩ := hopens
        obtain ⟨letters', c', more', hne', hupper', -, htext'⟩ := hopens'
        rw [htext, htext']
        cases mark with
        | true => exact .inl rfl
        | false =>
            obtain ⟨d, letters, rfl⟩ := List.exists_cons_of_ne_nil hne
            obtain ⟨d', letters', rfl⟩ := List.exists_cons_of_ne_nil hne'
            exact .inr ⟨d, d', rfl, rfl, hupper d (by simp), hupper' d' (by simp)⟩
      · obtain ⟨c, s, htext⟩ := List.exists_cons_of_ne_nil h.1.text_ne_nil
        rw [rewrite_of_not_isReference href, htext]
        exact .inl rfl

theorem stop_rewrite (hg : Bound.IsRewriting g) (h : Lexed tokens)
    (hbare : ∀ t ∈ tokens, t.IsReference → t.IsBareReference) {p : Char → Bool} (hp : IsEnd p)
    (hstop : StopsBefore p (render tokens)) :
    StopsBefore p (render (tokens.map (rewrite g))) := by
  rw [StopsBefore] at hstop ⊢
  rcases head?_rewrite_cases hg h hbare with hhead | ⟨c, c', hhead, hhead', hc, hc'⟩
  · rwa [hhead]
  · rw [hhead] at hstop
    rw [hhead']
    rcases hp.upper with hall | hnone
    · simp [hall c hc] at hstop
    · simp [hnone c' hc']

theorem head?_rewrite_eq_some_iff (hg : Bound.IsRewriting g) (h : Lexed tokens)
    (hbare : ∀ t ∈ tokens, t.IsReference → t.IsBareReference) {c : Char} (hc : c.isUpper = false) :
    (render (tokens.map (rewrite g))).head? = some c ↔ (render tokens).head? = some c := by
  rcases head?_rewrite_cases hg h hbare with hhead | ⟨d, d', hhead, hhead', hd, hd'⟩
  · rw [hhead]
  · have hne : ∀ d : Char, d.isUpper → d ≠ c := by
      rintro d hd rfl
      simp [hc] at hd
    simp [hhead, hhead', hne d hd, hne d' hd']

theorem noTail_rewrite (hg : Bound.IsRewriting g) (h : Lexed tokens)
    (h' : Lexed (tokens.map (rewrite g))) (hbare : ∀ t ∈ tokens, t.IsReference → t.IsBareReference)
    {word : Text} (htail : rangeTail? word (render tokens) = none) :
    rangeTail? word (render (tokens.map (rewrite g))) = none := by
  rw [rangeTail?_eq_none_iff] at htail ⊢
  intro more heq hword
  cases tokens with
  | nil => contradiction
  | cons t tokens =>
      obtain ⟨c, s, htext⟩ := List.exists_cons_of_ne_nil h'.1.text_ne_nil
      rw [List.map_cons, render_cons, htext] at heq
      obtain ⟨rfl, rfl⟩ := List.cons.inj heq
      have href : ¬ t.IsReference := by
        intro href
        obtain ⟨mark, -, hopens⟩ := opensReference_rewrite hg h.1 (hbare t (by simp) href)
        obtain ⟨d, more, hd, hhead⟩ := hopens.exists_cons
        obtain rfl := (List.cons.inj (hd.symm.trans htext)).1
        exact absurd hhead (by decide)
      rw [rewrite_of_not_isReference href] at htext
      obtain ⟨-, rfl⟩ := (htext ▸ h.1).of_first fun _ => rfl
      rw [render_cons, htext] at htail
      have hnone := htail (render tokens) rfl hword
      change isBound ((render (tokens.map (rewrite g))).takeWhile isWordChar) = false
      rw [Bool.eq_false_iff]
      intro hbound
      cases tokens with
      | nil => exact absurd hbound (ne_true_of_eq_false hnone)
      | cons u tokens =>
          by_cases huref : u.IsReference
          · have := isBound_takeWhile h.2.1 (hbare u (by simp) huref)
            rw [← render_cons, hnone] at this
            contradiction
          · have hstart := not_stopsBefore_of_isBound hbound
            have hreads' := h'.2.1
            rw [List.map_cons, render_cons, rewrite_of_not_isReference huref] at hbound hstart
            rw [rewrite_of_not_isReference huref] at hreads'
            rw [stopsBefore_append_iff hreads'.text_ne_nil] at hstart
            rw [hreads'.takeWhile_isWordChar hstart] at hbound
            rw [render_cons, h.2.1.takeWhile_isWordChar hstart, hbound] at hnone
            contradiction

/-- What the rewritten text starts with, the text starts with as well, unless it reaches into the
first reference. -/
theorem prefix_cases {p : Text} (hp : p <+: render (tokens.map (rewrite g))) :
    p <+: render tokens ∨ ∃ front t back x, tokens = front ++ t :: back ∧ t.IsReference ∧
      p = render front ++ x ∧ x ≠ [] ∧ x <+: render ((t :: back).map (rewrite g)) := by
  induction tokens generalizing p with
  | nil => exact .inl hp
  | cons t tokens ih =>
      by_cases href : t.IsReference
      · cases p with
        | nil => exact .inl List.nil_prefix
        | cons c p => exact .inr ⟨[], t, tokens, c :: p, rfl, href, rfl, by simp, hp⟩
      rw [List.map_cons, render_cons, rewrite_of_not_isReference href] at hp
      rcases List.prefix_or_prefix_of_prefix hp (List.prefix_append ..) with hshort | ⟨q, rfl⟩
      · exact .inl (hshort.trans (List.prefix_append ..))
      · rcases ih ((List.prefix_append_right_inj _).mp hp) with
          hq | ⟨front, u, back, x, rfl, huref, rfl, hx, hfront⟩
        · exact .inl ((List.prefix_append_right_inj _).mpr hq)
        · exact .inr ⟨t :: front, u, back, x, rfl, huref, by simp, hx, hfront⟩

theorem OpensReference.isWordChar {mark : Bool} {s : Text} (h : OpensReference mark s) :
    ∃ c more, s = c :: more ∧ isWordChar c := by
  obtain ⟨c, more, rfl, rfl | hc⟩ := h.exists_cons
  · exact ⟨_, more, rfl, rfl⟩
  · exact ⟨c, more, rfl, isWordChar_of_isUpper hc⟩

theorem not_isWord_render {front back : List Token} (h : Lexed (front ++ t :: back))
    (hopens : ∃ mark, OpensReference mark t.text) : isWord (render front) = false := by
  rw [Bool.eq_false_iff]
  intro hword
  cases front with
  | nil => exact absurd hword (by decide)
  | cons u front =>
      obtain ⟨mark, hopens⟩ := hopens
      obtain ⟨c, more, htext, hc⟩ := hopens.isWordChar
      have hstart : ¬ StopsBefore isWordStart u.text := by
        obtain ⟨d, s, hu⟩ := List.exists_cons_of_ne_nil h.1.text_ne_nil
        rw [render_cons, hu, List.cons_append] at hword
        simpa [hu] using (isWord_cons.mp hword).1
      have hrender : u.text ++ render (front ++ t :: back) =
          render (u :: front) ++ c :: (more ++ render back) := by
        simp [render_append, htext]
      have hlength := congrArg List.length (h.1.takeWhile_isWordChar hstart)
      change ((u.text ++ render (front ++ t :: back)).takeWhile
        Lexeme.isWordChar).length = _ at hlength
      rw [hrender, List.takeWhile_append_of_pos (isWordChar_of_isWord hword),
        List.takeWhile_cons_of_pos hc] at hlength
      have hle := (List.takeWhile_prefix isWordChar (l := u.text)).length_le
      simp at hlength
      omega

theorem tail_of_exponentStart {p : Text} (h : ExponentStart p) :
    ∀ c ∈ p.tail, ¬ (c = '$' ∨ c.isUpper) := by
  have hdigit : ∀ d : Char, d.isDigit → ¬ (d = '$' ∨ d.isUpper) := by
    rintro d hd (rfl | hupper)
    · exact absurd hd (by decide)
    · simp [Bound.not_isUpper_of_isDigit hd] at hupper
  cases h with
  | unsigned _ hd =>
      rintro c hc
      obtain rfl := List.mem_singleton.mp hc
      exact hdigit c hd
  | @signed _ sign d _ hsign hd =>
      have hnot : ¬ (sign = '$' ∨ sign.isUpper) := by
        rcases Bool.or_eq_true .. ▸ hsign with hsign | hsign
        all_goals
          rw [beq_iff_eq.mp hsign]
          decide
      rintro c hc
      simp only [List.tail_cons, List.mem_cons, List.not_mem_nil, or_false] at hc
      rcases hc with rfl | rfl
      · exact hnot
      · exact hdigit c hd

theorem noExponent_rewrite (hg : Bound.IsRewriting g) (h : Lexed tokens)
    (hbare : ∀ t ∈ tokens, t.IsReference → t.IsBareReference)
    (hfirst : ∀ t ∈ tokens.head?, ¬ t.IsReference)
    (hnone : exponent (render tokens) = ([], render tokens)) :
    exponent (render (tokens.map (rewrite g))) = ([], render (tokens.map (rewrite g))) := by
  rw [exponent_eq_nil_iff] at hnone ⊢
  intro p hp hfront
  rcases prefix_cases hfront with hprefix | ⟨front, t, back, x, rfl, href, rfl, hx, hxfront⟩
  · exact hnone p hp hprefix
  · obtain ⟨hreads, -⟩ := h.append_right
    obtain ⟨mark, -, hopens⟩ := opensReference_rewrite hg hreads (hbare t (by simp) href)
    obtain ⟨c, more, htext, hc⟩ := hopens.exists_cons
    obtain ⟨y, rfl⟩ : ∃ y, x = c :: y := by
      obtain ⟨d, y, rfl⟩ := List.exists_cons_of_ne_nil hx
      rw [List.map_cons, render_cons, htext, List.cons_append] at hxfront
      exact ⟨y, by rw [(List.cons_prefix_cons.mp hxfront).1]⟩
    cases front with
    | nil => exact hfirst t rfl href
    | cons u front =>
        -- Behind its letter an exponent has only a sign and digits, which start no reference.
        refine tail_of_exponentStart hp c ?_ hc
        obtain ⟨d, s, hu⟩ := List.exists_cons_of_ne_nil h.1.text_ne_nil
        simp [hu]

/-- Letters at the end of an error value are the last letter of `#N/A`, or part of a word. -/
theorem errorLiteral_tail : ∀ e ∈ errorLiterals, ∀ k < e.length,
    ((asciiUpper e).drop k).all Char.isUpper →
      (asciiUpper e).take k = "#N/".toList ∧ (asciiUpper e).drop k = ['A'] ∨
        isWord (((asciiUpper e).take k).drop 1) := by
  decide +kernel

theorem asciiUpper_eq_self {s : Text} (h : ∀ c ∈ s, c.isUpper) : asciiUpper s = s := by
  refine (List.map_congr_left fun c hc => ?_).trans (List.map_id s)
  apply Char.toUpper_eq_of_not_isLower
  have hupper := isUpper_iff.mp (h c hc)
  rw [isLower_iff]
  omega

theorem isWord_of_asciiUpper {s : Text} (h : isWord (asciiUpper s)) : isWord s := by
  have hletter : ∀ c : Char, c.toUpper ≠ c → isWordStart c := by
    intro c hc
    apply isWordStart_of_isAlpha
    by_contra halpha
    refine hc (Char.toUpper_eq_of_not_isLower fun hlower => halpha ?_)
    simp [Char.isAlpha, hlower]
  cases s with
  | nil => exact h
  | cons c s =>
      obtain ⟨hc, hs⟩ := isWord_cons.mp h
      refine isWord_cons.mpr ⟨?_, fun d hd => ?_⟩
      · by_cases hsame : c.toUpper = c
        · rwa [hsame] at hc
        · exact hletter c hsame
      · by_cases hsame : d.toUpper = d
        · have := hs d.toUpper (List.mem_map_of_mem hd)
          rwa [hsame] at this
        · exact isWordChar_of_isWordStart (hletter d hsame)

theorem OpensReference.isUpper_of_prefix {mark : Bool} {s rest x e : Text}
    (h : OpensReference mark s) {front : Text} (he : e ∈ errorLiterals)
    (hsame : sameIgnoringCase e (front ++ x))
    (hx : x ≠ []) (hfront : x <+: s ++ rest) : ∀ c ∈ x, c.isUpper := by
  have hdollar : '$' ∉ front ++ x := not_mem_of_sameIgnoringCase rfl (by decide) he hsame
  have hcolon : ':' ∉ front ++ x := not_mem_of_sameIgnoringCase rfl (by decide) he hsame
  obtain ⟨letters, c, more, hne, hupper, hc, rfl⟩ := h
  cases mark with
  | true =>
      obtain ⟨d, y, rfl⟩ := List.exists_cons_of_ne_nil hx
      obtain rfl := (List.cons_prefix_cons.mp hfront).1
      simp at hdollar
  | false =>
      change x <+: letters ++ c :: more ++ rest at hfront
      rw [List.append_assoc] at hfront
      rcases List.prefix_or_prefix_of_prefix hfront (List.prefix_append ..) with
        hshort | ⟨y, rfl⟩
      · exact fun d hd => hupper d (hshort.subset hd)
      cases y with
      | nil => simpa using hupper
      | cons d y =>
          rw [List.prefix_append_right_inj, List.cons_append, List.cons_prefix_cons] at hfront
          obtain ⟨rfl, -⟩ := hfront
          rcases hc with rfl | rfl | hdigit
          · simp at hdollar
          · simp at hcolon
          · obtain ⟨init, a, rfl⟩ := (List.eq_nil_or_concat' letters).resolve_left hne
            have hchain := isChain_of_sameIgnoringCase he hsame
            have hinside : [a, d] <:+: front ++ (init ++ [a] ++ d :: y) :=
              ⟨front ++ init, y, by simp⟩
            have hpair := hchain.infix hinside
            simp [hupper a (by simp), hdigit] at hpair

theorem noLiteral_rewrite (hg : Bound.IsRewriting g) (h : Lexed tokens)
    (hbare : ∀ t ∈ tokens, t.IsReference → t.IsBareReference)
    (hsign : ∀ front t back, tokens = front ++ t :: back → t.IsReference →
      asciiUpper ('#' :: render front) = "#N/".toList → (t.rewrite g).text.head? ≠ some 'A')
    (hnone : NoLiteral (render tokens)) : NoLiteral (render (tokens.map (rewrite g))) := by
  refine hnone.imp fun e he text hsame hfront => ?_
  obtain ⟨p, rfl⟩ := eq_cons_of_sameIgnoringCase_errorLiteral he hsame
  rw [List.cons_prefix_cons] at hfront ⊢
  refine ⟨rfl, ?_⟩
  rcases prefix_cases hfront.2 with hprefix | ⟨front, t, back, x, rfl, href, rfl, hx, hxfront⟩
  · exact hprefix
  exfalso
  obtain ⟨hreads, -⟩ := h.append_right
  obtain ⟨mark, hold, hopens⟩ := opensReference_rewrite hg hreads (hbare t (by simp) href)
  rw [List.map_cons, render_cons] at hxfront
  have hsame' : sameIgnoringCase e ('#' :: render front ++ x) := hsame
  have hupper := hopens.isUpper_of_prefix he hsame' hx hxfront
  have hliteral : asciiUpper e = asciiUpper ('#' :: render front) ++ x := by
    have heq : asciiUpper e = asciiUpper ('#' :: render front ++ x) := by
      simpa [sameIgnoringCase] using hsame
    rw [heq, asciiUpper, List.map_append]
    exact congrArg _ (asciiUpper_eq_self hupper)
  have hlength := congrArg List.length hliteral
  have hlong : 0 < x.length := List.length_pos_iff.mpr hx
  simp only [asciiUpper, List.length_map, List.length_append, List.length_cons] at hlength
  have htail := errorLiteral_tail e he ((render front).length + 1) (by omega)
  rw [hliteral, List.take_left' (by simp [asciiUpper]), List.drop_left' (by simp [asciiUpper]),
    List.all_eq_true] at htail
  rcases htail hupper with ⟨hfrontText, rfl⟩ | hword
  · apply hsign front t back rfl href hfrontText
    obtain ⟨c, more, htext, -⟩ := hopens.exists_cons
    rw [htext, List.cons_append, List.cons_prefix_cons] at hxfront
    rw [htext, ← hxfront.1]
    rfl
  · have hnot := not_isWord_render h ⟨mark, hold⟩
    rw [isWord_of_asciiUpper hword] at hnot
    contradiction

/-- The references have no sheets and stand behind no numerals, and `#N/` does not go on with the
letter A in their place. -/
structure IsMovable (g : Bound.Written → Bound.Written) (tokens : List Token) : Prop where
  bare : ∀ t ∈ tokens, t.IsReference → t.IsBareReference
  noNumber : ∀ front n t back, tokens = front ++ n :: t :: back → n.kind = .number →
    ¬ t.IsReference
  noLiteral : ∀ front t back, tokens = front ++ t :: back → t.IsReference →
    "#N/".toList <:+ asciiUpper (render front) → (t.rewrite g).text.head? ≠ some 'A'

theorem IsMovable.tail (h : IsMovable g (t :: tokens)) : IsMovable g tokens where
  bare u hu := h.bare u (by simp [hu])
  noNumber := by
    rintro front n u back rfl
    exact h.noNumber (t :: front) n u back rfl
  noLiteral := by
    rintro front u back rfl href hsuffix
    refine h.noLiteral (t :: front) u back rfl href (hsuffix.trans ?_)
    rw [render_cons, asciiUpper, asciiUpper, List.map_append]
    exact List.suffix_append ..

theorem lexed_rewrite (hg : Bound.IsRewriting g) (h : Lexed tokens)
    (hmovable : IsMovable g tokens) :
    Lexed (tokens.map (rewrite g)) := by
  induction tokens with
  | nil => trivial
  | cons t tokens ih =>
      have hlexed := ih h.2 hmovable.tail
      have hbare := hmovable.tail.bare
      have hnear : EndsNear (render tokens) (render (tokens.map (rewrite g))) :=
        { stop := fun p hp => stop_rewrite hg h.2 hbare hp
          noTail := fun _ => noTail_rewrite hg h.2 hlexed hbare }
      refine ⟨?_, hlexed⟩
      by_cases href : t.IsReference
      · exact (reads_rewrite hg h.1 href hnear).1
      rw [rewrite_of_not_isReference href]
      apply h.1.of_endsNear hnear
      · intro hkind
        have hstop := (hkind ▸ h.1).blank_stop
        cases tokens with
        | nil => exact hstop
        | cons u tokens =>
            rw [render_cons, h.2.1.stopsBefore_isBlank_iff] at hstop
            rw [List.map_cons, render_cons, hlexed.1.stopsBefore_isBlank_iff, rewrite_kind]
            exact hstop
      · intro hkind
        obtain ⟨s, hs⟩ := (hkind ▸ h.1).function_paren
        rw [head?_rewrite_eq_some_iff hg h.2 hbare rfl, hs]
        rfl
      · intro hkind
        apply noExponent_rewrite hg h.2 hbare
        intro u hu
        obtain ⟨back, rfl⟩ := List.head?_eq_some_iff.mp hu
        exact hmovable.noNumber [] t u back rfl hkind
      · intro htext
        apply noLiteral_rewrite hg h.2 hbare
        rintro front u back rfl hu hfront
        refine hmovable.noLiteral (t :: front) u back rfl hu ?_
        rw [render_cons, htext, List.singleton_append, hfront]

end Token

end ColumnFormula
