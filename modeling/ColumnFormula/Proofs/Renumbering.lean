import ColumnFormula.Proofs.Lookahead

namespace ColumnFormula.Lexeme

open Text

structure IsDigits (s : Text) : Prop where
  ne_nil : s ≠ []
  all : ∀ d ∈ s, d.isDigit

/-- The second text is the first with other digits behind letters in upper case. -/
inductive Renumbered : Text → Text → Prop
  | nil : Renumbered [] []
  | cons (c : Char) {s s' : Text} (rest : Renumbered s s') : Renumbered (c :: s) (c :: s')
  | digits {c : Char} {digits digits' s s' : Text} (isUpper : c.isUpper) (old : IsDigits digits)
      (new : IsDigits digits') (rest : Renumbered s s') :
      Renumbered (c :: (digits ++ s)) (c :: (digits' ++ s'))

theorem IsDigits.exists_cons {s : Text} (h : IsDigits s) : ∃ d t, s = d :: t ∧ d.isDigit := by
  obtain ⟨d, t, rfl⟩ := List.exists_cons_of_ne_nil h.ne_nil
  exact ⟨d, t, rfl, h.all d (by simp)⟩

namespace Renumbered

theorem refl (s : Text) : Renumbered s s := by
  induction s with
  | nil => exact .nil
  | cons c s ih => exact .cons c ih

theorem symm {s s' : Text} (h : Renumbered s s') : Renumbered s' s := by
  induction h with
  | nil => exact .nil
  | cons c _ ih => exact .cons c ih
  | digits hc hold hnew _ ih => exact .digits hc hnew hold ih

theorem append_left (text : Text) {s s' : Text} (h : Renumbered s s') :
    Renumbered (text ++ s) (text ++ s') := by
  induction text with
  | nil => exact h
  | cons c text ih => exact .cons c ih

theorem head?_eq {s s' : Text} (h : Renumbered s s') : s'.head? = s.head? := by
  cases h <;> rfl

theorem stop {p : Char → Bool} {s s' : Text} (h : Renumbered s s') (hstop : StopsBefore p s) :
    StopsBefore p s' := by
  rw [StopsBefore, h.head?_eq]
  exact hstop

theorem cons_cases {c : Char} {s t' : Text} (h : Renumbered (c :: s) t') :
    (∃ s', t' = c :: s' ∧ Renumbered s s') ∨
      c.isUpper ∧ ∃ digits digits' r r', s = digits ++ r ∧ t' = c :: (digits' ++ r') ∧
        IsDigits digits ∧ IsDigits digits' ∧ Renumbered r r' := by
  cases h with
  | cons _ hrest => exact .inl ⟨_, rfl, hrest⟩
  | digits hc hold hnew hrest => exact .inr ⟨hc, _, _, _, _, rfl, rfl, hold, hnew, hrest⟩

theorem exists_eq_append {front s t' : Text} (h : Renumbered (front ++ s) t')
    (hfront : ∀ c ∈ front, c.isUpper = false) : ∃ s', t' = front ++ s' ∧ Renumbered s s' := by
  induction front generalizing t' with
  | nil => exact ⟨t', rfl, h⟩
  | cons c front ih =>
      obtain ⟨u', rfl, hrest⟩ | ⟨hc, -⟩ := h.cons_cases
      · obtain ⟨s', rfl, hs⟩ := ih hrest fun d hd => hfront d (by simp [hd])
        exact ⟨s', rfl, hs⟩
      · simp [hfront c (by simp)] at hc

theorem eq_of_not_isUpper {s s' : Text} (h : Renumbered s s')
    (hs : ∀ c ∈ s, c.isUpper = false) : s' = s := by
  rw [← List.append_nil s] at h
  obtain ⟨r, rfl, hr⟩ := h.exists_eq_append hs
  cases hr
  exact List.append_nil s

theorem prefix_of_isChain {p s s' : Text} (h : Renumbered s s') (hp : p <+: s')
    (hchain : p.IsChain fun c d => c.isUpper → d.isDigit = false) : p <+: s := by
  induction h generalizing p with
  | nil => exact hp
  | cons c _ ih =>
      cases p with
      | nil => exact List.nil_prefix
      | cons d q =>
          obtain ⟨rfl, hq⟩ := List.cons_prefix_cons.mp hp
          exact List.cons_prefix_cons.mpr ⟨rfl, ih hq hchain.tail⟩
  | digits hc _ hnew _ _ =>
      cases p with
      | nil => exact List.nil_prefix
      | cons d q =>
          obtain ⟨rfl, hq⟩ := List.cons_prefix_cons.mp hp
          cases q with
          | nil => exact ⟨_, rfl⟩
          | cons e q =>
              obtain ⟨d', t, rfl, hd'⟩ := hnew.exists_cons
              obtain ⟨rfl, -⟩ := List.cons_prefix_cons.mp hq
              have := (List.isChain_cons_cons.mp hchain).1 hc
              simp [hd'] at this

theorem noExponent {s s' : Text} (h : Renumbered s s') (hnone : exponent s = ([], s)) :
    exponent s' = ([], s') := by
  rw [exponent_eq_nil_iff] at hnone ⊢
  intro p hp hfront
  cases hp with
  | @unsigned e d he hd =>
      obtain ⟨t, rfl⟩ := hfront
      obtain ⟨r, rfl, hr⟩ | ⟨-, _, digits, _, _, -, rfl, -, hdigits, -⟩ := h.symm.cons_cases
      · obtain ⟨r', rfl⟩ := List.head?_eq_some_iff.mp hr.head?_eq
        exact hnone [e, d] (.unsigned he hd) ⟨r', rfl⟩
      · obtain ⟨d', u, rfl, hd'⟩ := hdigits.exists_cons
        exact hnone [e, d'] (.unsigned he hd') ⟨_, rfl⟩
  | @signed e sign d he hsign hd =>
      have hupper : sign.isUpper = false := by
        rcases Bool.or_eq_true .. ▸ hsign with hsign | hsign
        all_goals
          rw [beq_iff_eq] at hsign
          subst hsign
          decide
      refine hnone _ (.signed he hsign hd) (h.prefix_of_isChain hfront ?_)
      simp [isSign_ne hsign, hupper]

theorem noLiteral {s s' : Text} (h : Renumbered s s') (hnone : NoLiteral s) : NoLiteral s' := by
  refine hnone.imp fun e he text hsame hfront => ?_
  exact (h.cons '#').prefix_of_isChain hfront (isChain_of_sameIgnoringCase he hsame)

theorem takeWhile_isWordChar {s s' : Text} (h : Renumbered s s') :
    Renumbered (s.takeWhile isWordChar) (s'.takeWhile isWordChar) := by
  induction h with
  | nil => exact .nil
  | cons c _ ih =>
      rw [List.takeWhile_cons, List.takeWhile_cons]
      split
      · exact .cons c ih
      · exact .nil
  | @digits c digits digits' _ _ hc hold hnew _ ih =>
      have hword : isWordChar c :=
        isWordChar_of_isWordStart (isWordStart_of_isAlpha (by simp [Char.isAlpha, hc]))
      have hdigits : ∀ digits, IsDigits digits → ∀ d ∈ digits, isWordChar d :=
        fun _ h d hd => isWordChar_of_isDigit (h.all d hd)
      rw [List.takeWhile_cons_of_pos hword, List.takeWhile_cons_of_pos hword,
        List.takeWhile_append_of_pos (hdigits _ hold),
        List.takeWhile_append_of_pos (hdigits _ hnew)]
      exact .digits hc hold hnew ih

/-- Only the digits behind the last of some letters in upper case can differ. -/
theorem letters_cases {letters tail t' : Text} (h : Renumbered (letters ++ tail) t')
    (hletters : ∀ c ∈ letters, c.isUpper) (htail : ∀ c ∈ tail, c.isUpper = false) :
    t' = letters ++ tail ∨ ∃ digits digits' r, tail = digits ++ r ∧
      t' = letters ++ (digits' ++ r) ∧ IsDigits digits ∧ IsDigits digits' := by
  induction letters generalizing t' with
  | nil => exact .inl (h.eq_of_not_isUpper htail)
  | cons c letters ih =>
      obtain ⟨u', rfl, hrest⟩ | ⟨-, digits, digits', r, r', heq, rfl, hold, hnew, hr⟩ :=
        h.cons_cases
      · rcases ih hrest fun d hd => hletters d (by simp [hd]) with
          rfl | ⟨digits, digits', r, rfl, rfl, hdigits⟩
        · exact .inl rfl
        · exact .inr ⟨digits, digits', r, rfl, rfl, hdigits⟩
      · cases letters with
        | cons d letters =>
            obtain ⟨d', u, rfl, hd'⟩ := hold.exists_cons
            obtain rfl : d = d' := (List.cons.inj heq).1
            have := Bound.not_isUpper_of_isDigit hd'
            simp [hletters d (by simp)] at this
        | nil =>
            change tail = digits ++ r at heq
            obtain rfl : r' = r := hr.eq_of_not_isUpper fun d hd => htail d (by simp [heq, hd])
            exact .inr ⟨digits, digits', r', heq, rfl, hold, hnew⟩

theorem isBound {word word' : Text} (h : Renumbered word word') (hword : isBound word) :
    Lexeme.isBound word' := by
  obtain ⟨⟨columnMark, letters, rowMark, digits⟩, hform, rfl⟩ := isBound_iff.mp hword
  obtain ⟨hne, hupper, hdigit, hmark⟩ := hform
  dsimp only at hne hupper hdigit hmark
  have hmarkText : ∀ mark, ∀ c ∈ Bound.markText mark, c.isUpper = false := by
    intro mark c hc
    obtain rfl := Bound.eq_of_mem_markText hc
    rfl
  obtain ⟨t', rfl, ht⟩ := h.exists_eq_append (hmarkText columnMark)
  have htail : ∀ c ∈ Bound.markText rowMark ++ digits, c.isUpper = false := by
    intro c hc
    rcases List.mem_append.mp hc with hc | hc
    · exact hmarkText rowMark c hc
    · exact Bound.not_isUpper_of_isDigit (hdigit c hc)
  rcases ht.letters_cases hupper htail with rfl | ⟨old, new, r, heq, rfl, hold, hnew⟩
  · exact hword
  · cases rowMark with
    | true =>
        obtain ⟨d, u, rfl, hd⟩ := hold.exists_cons
        obtain rfl : '$' = d := (List.cons.inj heq).1
        exact absurd hd (by decide)
    | false =>
        obtain rfl : digits = old ++ r := heq
        have hall : ∀ c ∈ new ++ r, c.isDigit := by
          intro c hc
          rcases List.mem_append.mp hc with hc | hc
          · exact hnew.all c hc
          · exact hdigit c (by simp [hc])
        exact isBound_iff.mpr
          ⟨⟨columnMark, letters, false, new ++ r⟩, ⟨hne, hupper, hall, nofun⟩, rfl⟩

theorem noTail {word s s' : Text} (h : Renumbered s s') (htail : rangeTail? word s = none) :
    rangeTail? word s' = none := by
  rw [rangeTail?_eq_none_iff] at htail ⊢
  rintro more rfl hword
  obtain ⟨r, rfl, hr⟩ | ⟨hcolon, -⟩ := h.symm.cons_cases
  · rw [Bool.eq_false_iff]
    intro hright
    have := hr.takeWhile_isWordChar.isBound hright
    simp [htail r rfl hword] at this
  · contradiction

theorem endsAlike {s s' : Text} (h : Renumbered s s') : EndsAlike s s' where
  stop _ _ hstop := h.stop hstop
  noExponent := h.noExponent
  noTail _ := h.noTail
  noLiteral := h.noLiteral

end Renumbered

end ColumnFormula.Lexeme
