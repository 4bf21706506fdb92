import ColumnFormula.Proofs.LexemeReading
import ColumnFormula.Token.Lexer

namespace ColumnFormula.Token

open Lexeme (Reads Starts)

/-- Each token is one before the texts of those behind it. -/
def Lexed : List Token → Prop
  | [] => True
  | t :: rest => Reads t.kind t.text (render rest) ∧ Lexed rest

/-- The tokens with the places they have behind `position` characters. -/
def place (position : Nat) : List Token → List Token
  | [] => []
  | t :: rest => ⟨t.kind, t.text, position⟩ :: place (position + t.text.length) rest

@[simp] theorem render_nil : render [] = [] := rfl

@[simp] theorem render_cons (t : Token) (rest : List Token) :
    render (t :: rest) = t.text ++ render rest := rfl

theorem render_append (front back : List Token) :
    render (front ++ back) = render front ++ render back := by
  simp [render]

theorem le_position_of_mem_place {position : Nat} {tokens : List Token} {t : Token}
    (h : t ∈ place position tokens) : position ≤ t.position := by
  induction tokens generalizing position with
  | nil => simp [place] at h
  | cons u rest ih =>
      rw [place] at h
      rcases List.mem_cons.mp h with rfl | h
      · exact Nat.le_refl _
      · have := ih h
        omega

theorem scan_nil (position : Nat) : scan position [] = .ok [] := by
  rw [scan]

theorem scan_of_starts {s : Text} {l : Lexeme} (h : Starts s l) (position : Nat) :
    scan position s =
      (scan (position + l.text.length) l.rest).map (⟨l.kind, l.text, position⟩ :: ·) := by
  obtain ⟨c, rest, rfl, hfirst⟩ := h
  rw [scan]
  split
  · rename_i hl
    rw [hfirst] at hl
    cases hl
  · rename_i l' hl
    rw [hfirst] at hl
    cases hl
    rfl

theorem scan_of_first_error {c : Char} {s : Text} {cause : Lexeme.Unclosed}
    (h : Lexeme.first c s = .error cause) (position : Nat) :
    scan position (c :: s) = .error ⟨cause, position⟩ := by
  rw [scan]
  split
  · rename_i hl
    rw [h] at hl
    cases hl
    rfl
  · rename_i hl
    rw [h] at hl
    cases hl

theorem scan_render {tokens : List Token} (h : Lexed tokens) (position : Nat) :
    scan position (render tokens) = .ok (place position tokens) := by
  induction tokens generalizing position with
  | nil => exact scan_nil position
  | cons t rest ih =>
      obtain ⟨hreads, hrest⟩ := h
      rw [render_cons, scan_of_starts hreads.starts position, ih hrest]
      rfl

theorem first_eq_ok_of_scan {position : Nat} {c : Char} {s : Text} {tokens : List Token}
    (h : scan position (c :: s) = .ok tokens) :
    ∃ l tail, Lexeme.first c s = .ok l ∧ scan (position + l.text.length) l.rest = .ok tail ∧
      tokens = ⟨l.kind, l.text, position⟩ :: tail := by
  cases hfirst : Lexeme.first c s with
  | error cause =>
      rw [scan_of_first_error hfirst] at h
      cases h
  | ok l =>
      rw [scan_of_starts ⟨c, s, rfl, hfirst⟩] at h
      cases htail : scan (position + l.text.length) l.rest with
      | error e =>
          rw [htail] at h
          cases h
      | ok tail =>
          rw [htail] at h
          cases h
          exact ⟨l, tail, rfl, htail, rfl⟩

theorem of_scan_eq_ok {position : Nat} {s : Text} {tokens : List Token}
    (h : scan position s = .ok tokens) :
    render tokens = s ∧ Lexed tokens ∧ place position tokens = tokens := by
  induction hn : s.length using Nat.strongRecOn generalizing s position tokens with
  | ind n ih =>
      cases s with
      | nil =>
          rw [scan_nil] at h
          cases h
          exact ⟨rfl, trivial, rfl⟩
      | cons c s =>
          obtain ⟨l, tail, hfirst, htail, rfl⟩ := first_eq_ok_of_scan h
          obtain ⟨htext, hreads⟩ := Lexeme.starts_iff.mp ⟨c, s, rfl, hfirst⟩
          have hlt : l.rest.length < n := hn ▸ Lexeme.first_rest_length_lt hfirst
          obtain ⟨hrender, hlexed, hplace⟩ := ih _ hlt htail rfl
          refine ⟨?_, ⟨hrender ▸ hreads, hlexed⟩, ?_⟩
          · rw [render_cons, hrender, htext]
          · rw [place, hplace]

/-- The tokens of a formula are the one sequence of its pieces in which each piece is a token before
the next ones. -/
theorem tokenize_eq_ok_iff {formula : Text} {tokens : List Token} :
    tokenize formula = .ok tokens ↔
      render tokens = formula ∧ Lexed tokens ∧ place 0 tokens = tokens := by
  constructor
  · exact of_scan_eq_ok
  · rintro ⟨rfl, hlexed, hplace⟩
    rw [tokenize, scan_render hlexed, hplace]

theorem Lexed.reads {tokens : List Token} (h : Lexed tokens) :
    ∀ t ∈ tokens, ∃ rest, Reads t.kind t.text rest := by
  induction tokens with
  | nil => simp
  | cons t rest ih =>
      intro u hu
      rcases List.mem_cons.mp hu with rfl | hu
      · exact ⟨_, h.1⟩
      · exact ih h.2 u hu

theorem Lexed.append_right {front back : List Token} (h : Lexed (front ++ back)) : Lexed back := by
  induction front with
  | nil => exact h
  | cons t front ih => exact ih h.2

theorem Lexed.text_ne_nil {tokens : List Token} (h : Lexed tokens) : ∀ t ∈ tokens, t.text ≠ [] := by
  intro t ht
  obtain ⟨rest, hreads⟩ := h.reads t ht
  exact hreads.text_ne_nil

theorem Lexed.kind_eq_blank {tokens : List Token} (h : Lexed tokens)
    (hblank : Text.isAllBlank (render tokens)) : ∀ t ∈ tokens, t.kind = .blank := by
  induction tokens with
  | nil => simp
  | cons t rest ih =>
      rw [render_cons, Text.isAllBlank, List.all_append, Bool.and_eq_true] at hblank
      intro u hu
      rcases List.mem_cons.mp hu with rfl | hu
      · by_contra hkind
        have hstop := (h.1.stopsBefore_isBlank_iff (render rest)).mpr hkind
        rw [Text.stopsBefore_append_iff h.1.text_ne_nil] at hstop
        obtain ⟨c, s, htext⟩ := List.exists_cons_of_ne_nil h.1.text_ne_nil
        rw [htext, Text.stopsBefore_cons] at hstop
        simp [htext, hstop] at hblank
      · exact ih h.2 hblank.2 u hu

theorem position_of_place {position : Nat} {front back : List Token} {t : Token}
    (h : place position (front ++ t :: back) = front ++ t :: back) :
    t.position = position + (front.map fun u => u.text.length).sum := by
  induction front generalizing position with
  | nil =>
      have ht := congrArg Token.position (List.cons.inj h).1
      exact ht.symm
  | cons u front ih =>
      have hrest := (List.cons.inj h).2
      rw [ih hrest, List.map_cons, List.sum_cons]
      omega

/-- Tokens cover a formula without gap and without overlap. -/
theorem tokenize_covers {formula : Text} {tokens : List Token}
    (h : tokenize formula = .ok tokens) :
    render tokens = formula ∧ (∀ t ∈ tokens, t.text ≠ []) ∧
      ∀ front t back, tokens = front ++ t :: back →
        t.position = (front.map fun u => u.text.length).sum := by
  obtain ⟨hrender, hlexed, hplace⟩ := tokenize_eq_ok_iff.mp h
  refine ⟨hrender, hlexed.text_ne_nil, ?_⟩
  rintro front t back rfl
  rw [position_of_place hplace, Nat.zero_add]

theorem tokenize_covers_quoted :
    let formula := "'a''!b'!A1:B2&\"x\"\"y\" #n/a".toList
    let tokens : List Token :=
      [⟨.range (some "a'!b".toList), "'a''!b'!A1:B2".toList, 0⟩, ⟨.operator, "&".toList, 13⟩,
        ⟨.string, "\"x\"\"y\"".toList, 14⟩, ⟨.blank, " ".toList, 20⟩,
        ⟨.errorLiteral, "#n/a".toList, 21⟩]
    tokenize formula = .ok tokens ∧ render tokens = formula ∧ (∀ t ∈ tokens, t.text ≠ []) ∧
      ∀ front t back, tokens = front ++ t :: back →
        t.position = (front.map fun u => u.text.length).sum := by
  intro formula tokens
  have h : tokenize formula = .ok tokens := by decide +kernel
  exact ⟨h, tokenize_covers h⟩

end ColumnFormula.Token
