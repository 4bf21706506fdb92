import ColumnFormula.Proofs.Lookahead

namespace ColumnFormula.Lexeme

open Text

/-- A character of an operator that gets spaces. -/
def isOperatorChar (c : Char) : Bool := ['+', '-', '*', '/', '&', '>', '<', '='].contains c

/-- The second text is the first with spaces beside characters of operators. -/
inductive Loosened : Text → Text → Prop
  | nil : Loosened [] []
  | cons (c : Char) {s s' : Text} (rest : Loosened s s') : Loosened (c :: s) (c :: s')
  | before {c : Char} {s s' : Text} (operator : isOperatorChar c)
      (rest : Loosened (c :: s) (c :: s')) : Loosened (c :: s) (' ' :: c :: s')
  | after {c : Char} {s s' : Text} (operator : isOperatorChar c) (rest : Loosened s s') :
      Loosened (c :: s) (c :: ' ' :: s')

namespace Loosened

theorem isWordChar_of_isOperatorChar {c : Char} (h : isOperatorChar c) : isWordChar c = false := by
  have hall : ['+', '-', '*', '/', '&', '>', '<', '='].all (!isWordChar ·) := by decide
  simpa using List.all_eq_true.mp hall c (List.contains_iff_mem.mp h)

theorem append_left (text : Text) {s s' : Text} (h : Loosened s s') :
    Loosened (text ++ s) (text ++ s') := by
  induction text with
  | nil => exact h
  | cons c text ih => exact .cons c ih

theorem append_space {text s s' : Text} (hne : text ≠ []) (hall : ∀ c ∈ text, isOperatorChar c)
    (h : Loosened s s') : Loosened (text ++ s) (text ++ ' ' :: s') := by
  induction text with
  | nil => exact absurd rfl hne
  | cons c text ih =>
      cases text with
      | nil => exact .after (hall c (by simp)) h
      | cons d text => exact .cons c (ih (by simp) fun e he => hall e (by simp [he]))

theorem space_append {text s s' : Text} (hne : text ≠ []) (hall : ∀ c ∈ text, isOperatorChar c)
    (h : Loosened (text ++ s) (text ++ s')) : Loosened (text ++ s) (' ' :: (text ++ s')) := by
  cases text with
  | nil => exact absurd rfl hne
  | cons c text => exact .before (hall c (by simp)) h

/-- Both texts start with the same character, or the second with a space in front of it. -/
theorem head_cases {s s' : Text} (h : Loosened s s') :
    s = [] ∧ s' = [] ∨ ∃ c t, s = c :: t ∧
      ((∃ t', s' = c :: t') ∨ isOperatorChar c ∧ ∃ t', s' = ' ' :: t') := by
  cases h with
  | nil => exact .inl ⟨rfl, rfl⟩
  | cons c => exact .inr ⟨c, _, rfl, .inl ⟨_, rfl⟩⟩
  | @before c _ _ hc => exact .inr ⟨c, _, rfl, .inr ⟨hc, _, rfl⟩⟩
  | @after c => exact .inr ⟨c, _, rfl, .inl ⟨_, rfl⟩⟩

theorem tail_of_cons {c : Char} {t s : Text} (h : Loosened s (c :: t)) (hspace : c ≠ ' ')
    (hc : isOperatorChar c = false) : ∃ r, s = c :: r ∧ Loosened r t := by
  cases h with
  | cons _ hrest => exact ⟨_, rfl, hrest⟩
  | before => exact absurd rfl hspace
  | after hop => simp [hc] at hop

theorem head?_paren {s s' : Text} (h : Loosened ('(' :: s) s') : s'.head? = some '(' := by
  obtain ⟨hnil, -⟩ | ⟨c, t, heq, ⟨t', rfl⟩ | ⟨hop, -⟩⟩ := h.head_cases
  · cases hnil
  · cases heq
    rfl
  · cases heq
    exact absurd hop (by decide)

theorem stop {p : Char → Bool} {s s' : Text} (h : Loosened s s') (hp : p ' ' = false)
    (hstop : StopsBefore p s) : StopsBefore p s' := by
  obtain ⟨-, rfl⟩ | ⟨c, t, rfl, ⟨t', rfl⟩ | ⟨-, t', rfl⟩⟩ := h.head_cases
  · exact stopsBefore_nil p
  · rw [stopsBefore_cons] at hstop ⊢
    exact hstop
  · exact stopsBefore_cons.mpr hp

theorem prefix_of_not_mem_space {p s s' : Text} (h : Loosened s s') (hp : p <+: s')
    (hspace : ' ' ∉ p) : p <+: s := by
  induction h generalizing p with
  | nil => exact hp
  | cons c _ ih =>
      cases p with
      | nil => exact List.nil_prefix
      | cons d q =>
          obtain ⟨rfl, hq⟩ := List.cons_prefix_cons.mp hp
          exact List.cons_prefix_cons.mpr ⟨rfl, ih hq fun hmem => hspace (by simp [hmem])⟩
  | before =>
      cases p with
      | nil => exact List.nil_prefix
      | cons d q =>
          have hd := (List.cons_prefix_cons.mp hp).1
          simp [hd] at hspace
  | after =>
      cases p with
      | nil => exact List.nil_prefix
      | cons d q =>
          obtain ⟨rfl, hq⟩ := List.cons_prefix_cons.mp hp
          cases q with
          | nil => exact ⟨_, rfl⟩
          | cons e q =>
              have he := (List.cons_prefix_cons.mp hq).1
              simp [he] at hspace

theorem takeWhile_isWordChar {s s' : Text} (h : Loosened s s') :
    s'.takeWhile isWordChar = s.takeWhile isWordChar := by
  have hspace : isWordChar ' ' = false := rfl
  induction h with
  | nil => rfl
  | cons c _ ih => simp only [List.takeWhile_cons, ih]
  | before hc _ => simp [hspace, isWordChar_of_isOperatorChar hc]
  | after hc _ => simp [isWordChar_of_isOperatorChar hc]

theorem noTail {word s s' : Text} (h : Loosened s s') (htail : rangeTail? word s = none) :
    rangeTail? word s' = none := by
  rw [rangeTail?_eq_none_iff] at htail ⊢
  rintro more rfl hword
  obtain ⟨r, rfl, hr⟩ := h.tail_of_cons (c := ':') (by decide) rfl
  rw [hr.takeWhile_isWordChar]
  exact htail r rfl hword

/-- A token ends before the loosened text where it ends before the text. -/
theorem endsAlike {s s' : Text} (h : Loosened s s') : EndsAlike s s' where
  stop _ hp hstop := h.stop hp hstop
  noExponent := noExponent_of_fronts fun _ hspace hp => h.prefix_of_not_mem_space hp hspace
  noTail _ := h.noTail
  noLiteral := .of_fronts fun _ hspace hp => (h.cons '#').prefix_of_not_mem_space hp hspace

end Loosened

end ColumnFormula.Lexeme
