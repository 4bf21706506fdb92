import ColumnFormula.Proofs.Loosening
import ColumnFormula.Proofs.TokenSequence
import ColumnFormula.Token.Spacing

namespace ColumnFormula.Token

open Text Lexeme

def space : Token := ⟨.blank, [' '], 0⟩

/-- The tokens of a formula and the spaces added around its binary operators. -/
def spacedTokens (blankBefore operand : Bool) : List Token → List Token
  | [] => []
  | t :: rest =>
    let tokens :=
      if t.isSpaced && operand then
        (if blankBefore then [] else [space]) ++
          t :: (if rest.head?.all isBlank then [] else [space])
      else [t]
    tokens ++ spacedTokens t.isBlank (if t.isBlank then operand else t.endsOperand) rest

/-- What tokens are apart from their blanks and places. -/
def significant (tokens : List Token) : List (Kind × Text) :=
  (tokens.filter (!·.isBlank)).map fun t => (t.kind, t.text)

/-- The second tokens are the first with spaces beside operators that get spaces. -/
inductive Widened : List Token → List Token → Prop
  | nil : Widened [] []
  | cons (t : Token) {tokens tokens' : List Token} (rest : Widened tokens tokens') :
      Widened (t :: tokens) (t :: tokens')
  | before {t : Token} {tokens tokens' : List Token} (isSpaced : t.isSpaced)
      (rest : Widened (t :: tokens) (t :: tokens')) :
      Widened (t :: tokens) (space :: t :: tokens')
  | after {t : Token} {tokens tokens' : List Token} (isSpaced : t.isSpaced)
      (rest : Widened tokens tokens') : Widened (t :: tokens) (t :: space :: tokens')

theorem widened_spacedTokens (blankBefore operand : Bool) (tokens : List Token) :
    Widened tokens (spacedTokens blankBefore operand tokens) := by
  induction tokens generalizing blankBefore operand with
  | nil => exact .nil
  | cons t rest ih =>
      rw [spacedTokens]
      split
      · rename_i hspaced
        rw [Bool.and_eq_true] at hspaced
        have hafter : Widened (t :: rest) (t :: ((if rest.head?.all isBlank then [] else [space]) ++
            spacedTokens t.isBlank (if t.isBlank then operand else t.endsOperand) rest)) := by
          split
          · exact .cons t (ih _ _)
          · exact .after hspaced.1 (ih _ _)
        split
        · simpa using hafter
        · simpa using Widened.before hspaced.1 hafter
      · exact .cons t (ih _ _)

theorem render_spacedTokens (blankBefore operand : Bool) (tokens : List Token) :
    render (spacedTokens blankBefore operand tokens) = spacedText blankBefore operand tokens := by
  induction tokens generalizing blankBefore operand with
  | nil => rfl
  | cons t rest ih =>
      rw [spacedTokens, spacedText, render_append, ih]
      congr 1
      split
      · split <;> split <;> simp [space]
      · simp

theorem operator_of_isSpaced {t : Token} (h : t.isSpaced) :
    t.kind = .operator ∧ t.text ∈ spacedOperators := by
  simpa [isSpaced] using h

theorem spacedOperator_chars :
    ∀ text ∈ spacedOperators, text ≠ [] ∧ ∀ c ∈ text, isOperatorChar c := by
  have hall : ∀ text ∈ spacedOperators, text ≠ [] ∧ text.all isOperatorChar := by decide
  intro text htext
  obtain ⟨hne, hchars⟩ := hall text htext
  exact ⟨hne, List.all_eq_true.mp hchars⟩

theorem Widened.loosened {tokens tokens' : List Token} (h : Widened tokens tokens') :
    Loosened (render tokens) (render tokens') := by
  induction h with
  | nil => exact .nil
  | cons t _ ih => exact ih.append_left t.text
  | before hspaced _ ih =>
      obtain ⟨hne, hall⟩ := spacedOperator_chars _ (operator_of_isSpaced hspaced).2
      exact ih.space_append hne hall
  | after hspaced _ ih =>
      obtain ⟨hne, hall⟩ := spacedOperator_chars _ (operator_of_isSpaced hspaced).2
      exact ih.append_space hne hall

theorem Widened.significant_eq {tokens tokens' : List Token} (h : Widened tokens tokens') :
    significant tokens' = significant tokens := by
  have hspace : isBlank space = true := rfl
  unfold significant
  induction h with
  | nil => rfl
  | cons t _ ih => cases ht : t.isBlank <;> simp [ht, ih]
  | before _ _ ih =>
      rw [← ih]
      simp [hspace]
  | @after t _ _ _ _ ih => cases ht : t.isBlank <;> simp [ht, hspace, ih]

theorem significant_place (position : Nat) (tokens : List Token) :
    significant (place position tokens) = significant tokens := by
  unfold significant
  induction tokens generalizing position with
  | nil => rfl
  | cons t rest ih =>
      have hblank : isBlank ⟨t.kind, t.text, position⟩ = t.isBlank := rfl
      cases ht : t.isBlank <;> simp [place, hblank, ht, ih]

theorem spacedTokens_cons {blankBefore operand : Bool} (t : Token) (rest : List Token)
    (h : blankBefore = true ∨ operand = false) :
    ∃ tail, spacedTokens blankBefore operand (t :: rest) = t :: tail := by
  rw [spacedTokens]
  split
  · rename_i hspaced
    rcases h with rfl | rfl
    · exact ⟨_, rfl⟩
    · simp at hspaced
  · exact ⟨_, rfl⟩

theorem isBlank_eq_false_of_isSpaced {t : Token} (h : t.isSpaced) : t.isBlank = false := by
  simp [isBlank, (operator_of_isSpaced h).1]

theorem endsOperand_of_isSpaced {t : Token} (h : t.isSpaced) : t.endsOperand = false := by
  obtain ⟨hkind, htext⟩ := operator_of_isSpaced h
  have hpercent : ['%'] ∉ spacedOperators := by decide
  simp only [endsOperand, hkind, beq_eq_false_iff_ne]
  rintro heq
  exact hpercent (heq ▸ htext)

theorem reads_space {rest : Text} (h : StopsBefore Text.isBlank rest) :
    Reads .blank [' '] rest := by
  refine .blank (by simp) (fun c hc => ?_) h
  obtain rfl := List.mem_singleton.mp hc
  rfl

theorem stopsBefore_spacedTokens {blankBefore operand : Bool} {tokens : List Token}
    (h : Lexed tokens) (hsame : blankBefore = true ∨ operand = false)
    (hblank : tokens.head?.all (!·.isBlank)) :
    StopsBefore Text.isBlank (render (spacedTokens blankBefore operand tokens)) := by
  cases tokens with
  | nil => exact stopsBefore_nil _
  | cons t rest =>
      obtain ⟨tail, htail⟩ := spacedTokens_cons t rest hsame
      have hkind : t.kind ≠ .blank := by simpa [isBlank] using hblank
      rw [htail, render_cons]
      exact (h.1.stopsBefore_isBlank_iff _).mpr hkind

theorem head?_of_isBlank {t : Token} {rest : List Token} (h : Lexed (t :: rest))
    (hblank : t.isBlank) : rest.head?.all (!·.isBlank) := by
  cases rest with
  | nil => rfl
  | cons u rest =>
      have hkind : t.kind = .blank := by simpa [isBlank] using hblank
      have hstop := (hkind ▸ h.1).blank_stop
      rw [render_cons, h.2.1.stopsBefore_isBlank_iff] at hstop
      simpa [isBlank] using hstop

theorem lexed_spacedTokens {tokens : List Token} (h : Lexed tokens) (blankBefore operand : Bool) :
    Lexed (spacedTokens blankBefore operand tokens) := by
  induction tokens generalizing blankBefore operand with
  | nil => trivial
  | cons t rest ih =>
      obtain ⟨hreads, hrest⟩ := id h
      let operand' := if t.isBlank then operand else t.endsOperand
      have hloose := (widened_spacedTokens t.isBlank operand' rest).loosened
      have hkept : Reads t.kind t.text (render (spacedTokens t.isBlank operand' rest)) := by
        refine hreads.of_endsAlike hloose.endsAlike ?_ ?_
        · intro hkind
          have hblank : t.isBlank := by simp [isBlank, hkind]
          exact stopsBefore_spacedTokens hrest (.inl hblank) (head?_of_isBlank h hblank)
        · intro hkind
          obtain ⟨s, hs⟩ := (hkind ▸ hreads).function_paren
          exact (hs ▸ hloose).head?_paren
      rw [spacedTokens]
      split
      · rename_i hspaced
        rw [Bool.and_eq_true] at hspaced
        have hkind := (operator_of_isSpaced hspaced.1).1
        have hafter : Lexed (t :: ((if rest.head?.all isBlank then [] else [space]) ++
            spacedTokens t.isBlank operand' rest)) := by
          split
          · exact ⟨hkept, ih hrest _ _⟩
          · rename_i hhead
            refine ⟨?_, ?_, ih hrest _ _⟩
            · exact hreads.of_endsAlike (endsAlike_space _ _) (by simp [hkind]) (by simp [hkind])
            · have hoperand : operand' = false := by
                simp [operand', isBlank_eq_false_of_isSpaced hspaced.1,
                  endsOperand_of_isSpaced hspaced.1]
              refine reads_space (stopsBefore_spacedTokens hrest (.inr hoperand) ?_)
              cases rest with
              | nil => rfl
              | cons u rest => simpa using hhead
        split
        · simpa using hafter
        · refine ⟨reads_space ?_, by simpa using hafter⟩
          exact (hreads.stopsBefore_isBlank_iff _).mpr (by simp [hkind])
      · exact ⟨hkept, ih hrest _ _⟩

theorem tokenize_spaced {tokens : List Token} (h : Lexed tokens) :
    tokenize (spaced tokens) = .ok (place 0 (spacedTokens false false tokens)) := by
  rw [spaced, ← render_spacedTokens]
  exact scan_render (lexed_spacedTokens h false false) 0

/-- A single space with an operator directly behind it or in front of it. -/
def BesideOperator (tokens : List Token) (t : Token) : Prop :=
  t.kind = .blank ∧ t.text = [' '] ∧
    ∃ o ∈ tokens, o.kind = .operator ∧
      (t.position + 1 = o.position ∨ o.position + o.text.length = t.position)

/-- The tokens but those at certain places. -/
def without (places : List Nat) (tokens : List Token) : List Token :=
  tokens.filter fun t => t.position ∉ places

theorem BesideOperator.cons {tokens : List Token} {t : Token} (h : BesideOperator tokens t)
    (u : Token) : BesideOperator (u :: tokens) t := by
  obtain ⟨hkind, htext, o, ho, hoperator⟩ := h
  exact ⟨hkind, htext, o, List.mem_cons_of_mem u ho, hoperator⟩

theorem without_cons_of_mem {places : List Nat} {t : Token} (h : t.position ∈ places)
    (tokens : List Token) : without places (t :: tokens) = without places tokens :=
  List.filter_cons_of_neg (by simpa using h)

theorem without_cons_of_not_mem {places : List Nat} {t : Token} (h : t.position ∉ places)
    (tokens : List Token) : without places (t :: tokens) = t :: without places tokens :=
  List.filter_cons_of_pos (by simpa using h)

theorem without_place {position i : Nat} (h : i < position) (places : List Nat)
    (tokens : List Token) :
    without (i :: places) (place position tokens) = without places (place position tokens) := by
  refine List.filter_congr fun t ht => ?_
  have hle := le_position_of_mem_place ht
  have hne : t.position ≠ i := by omega
  simp [hne]

theorem not_mem_of_forall_le {position i : Nat} {places : List Nat}
    (hle : ∀ j ∈ places, position ≤ j) (hi : i < position) : i ∉ places := by
  intro hmem
  have := hle i hmem
  omega

/-- Without the tokens at certain places, which are spaces beside operators, a text is left. -/
structure Separates (position : Nat) (places : List Nat) (text : Text) (tokens : List Token) :
    Prop where
  le : ∀ i ∈ places, position ≤ i
  render_eq : render (without places (place position tokens)) = text
  beside : ∀ t ∈ place position tokens, t.position ∈ places →
    BesideOperator (place position tokens) t

theorem Separates.cons {position : Nat} {places : List Nat} {text : Text} {tokens : List Token}
    {t : Token} (h : Separates (position + t.text.length) places text tokens) (hne : t.text ≠ []) :
    Separates position places (t.text ++ text) (t :: tokens) := by
  have hlength := List.length_pos_iff.mpr hne
  have hnot : position ∉ places := not_mem_of_forall_le h.le (by omega)
  refine ⟨fun i hi => ?_, ?_, ?_⟩
  · have := h.le i hi
    omega
  · rw [place, without_cons_of_not_mem hnot, render_cons, h.render_eq]
  · intro u hu hplace
    rcases List.mem_cons.mp hu with rfl | hu
    · exact absurd hplace hnot
    · exact (h.beside u hu hplace).cons _

theorem Separates.before {position : Nat} {places : List Nat} {text : Text} {tokens : List Token}
    {t : Token} (h : Separates (position + 1) places text (t :: tokens)) (hspaced : t.isSpaced) :
    Separates position (position :: places) text (space :: t :: tokens) := by
  have hspace : place position (space :: t :: tokens) =
      ⟨.blank, [' '], position⟩ :: place (position + 1) (t :: tokens) := rfl
  refine ⟨fun i hi => ?_, ?_, ?_⟩
  · rcases List.mem_cons.mp hi with rfl | hi
    · exact Nat.le_refl _
    · have := h.le i hi
      omega
  · rw [hspace, without_cons_of_mem (by simp), without_place (Nat.lt_succ_self position),
      h.render_eq]
  · intro u hu hplace
    rw [hspace] at hu ⊢
    rcases List.mem_cons.mp hu with rfl | hu
    · refine ⟨rfl, rfl, ⟨t.kind, t.text, position + 1⟩, ?_, ?_, .inl rfl⟩
      · simp [place]
      · exact (operator_of_isSpaced hspaced).1
    · have hlt := le_position_of_mem_place hu
      have hmem : u.position ∈ places := by
        refine (List.mem_cons.mp hplace).resolve_left ?_
        omega
      exact (h.beside u hu hmem).cons _

theorem Separates.after {position behind : Nat} {places : List Nat} {text : Text}
    {tokens : List Token} {t : Token} (h : Separates (behind + 1) places text tokens)
    (hbehind : position + t.text.length = behind) (hne : t.text ≠ []) (hspaced : t.isSpaced) :
    Separates position (behind :: places) (t.text ++ text) (t :: space :: tokens) := by
  have hlength := List.length_pos_iff.mpr hne
  have hspace : place position (t :: space :: tokens) =
      ⟨t.kind, t.text, position⟩ :: ⟨.blank, [' '], behind⟩ :: place (behind + 1) tokens := by
    rw [← hbehind]
    rfl
  have hnot : position ∉ behind :: places := by
    rw [List.mem_cons, not_or]
    exact ⟨by omega, not_mem_of_forall_le h.le (by omega)⟩
  refine ⟨fun i hi => ?_, ?_, ?_⟩
  · rcases List.mem_cons.mp hi with rfl | hi
    · omega
    · have := h.le i hi
      omega
  · rw [hspace, without_cons_of_not_mem hnot, without_cons_of_mem (by simp), render_cons,
      without_place (Nat.lt_succ_self behind), h.render_eq]
  · intro u hu hplace
    rw [hspace] at hu ⊢
    rcases List.mem_cons.mp hu with rfl | hu
    · exact absurd hplace hnot
    rcases List.mem_cons.mp hu with rfl | hu
    · exact ⟨rfl, rfl, ⟨t.kind, t.text, position⟩, by simp, (operator_of_isSpaced hspaced).1,
        .inr hbehind⟩
    · have hlt := le_position_of_mem_place hu
      have hmem : u.position ∈ places := by
        refine (List.mem_cons.mp hplace).resolve_left ?_
        omega
      exact ((h.beside u hu hmem).cons _).cons _

theorem Widened.exists_places {tokens tokens' : List Token} (h : Widened tokens tokens')
    (hne : ∀ t ∈ tokens, t.text ≠ []) (position : Nat) :
    ∃ places, Separates position places (render tokens) tokens' := by
  induction h generalizing position with
  | nil =>
      refine ⟨[], ?_, rfl, ?_⟩
      · simp
      · simp
  | @cons t tokens tokens' _ ih =>
      obtain ⟨places, hplaces⟩ := ih (fun u hu => hne u (by simp [hu])) (position + t.text.length)
      exact ⟨places, hplaces.cons (hne t (by simp))⟩
  | before hspaced _ ih =>
      obtain ⟨places, hplaces⟩ := ih hne (position + 1)
      exact ⟨position :: places, hplaces.before hspaced⟩
  | @after t tokens tokens' hspaced _ ih =>
      obtain ⟨places, hplaces⟩ :=
        ih (fun u hu => hne u (by simp [hu])) (position + t.text.length + 1)
      exact ⟨_, hplaces.after rfl (hne t (by simp)) hspaced⟩

/-- Spaces around operators neither split nor merge tokens, and nothing but single spaces beside
operators is added. -/
theorem tokenize_spaceOperators {formula : Text} {tokens : List Token}
    (h : tokenize formula = .ok tokens) :
    ∃ tokens', tokenize (spaceOperators formula) = .ok tokens' ∧
      significant tokens' = significant tokens ∧
      ∃ places, render (without places tokens') = formula ∧
        ∀ t ∈ tokens', t.position ∈ places → BesideOperator tokens' t := by
  obtain ⟨hrender, hlexed, -⟩ := tokenize_eq_ok_iff.mp h
  have hwidened := widened_spacedTokens false false tokens
  obtain ⟨places, hplaces⟩ := hwidened.exists_places hlexed.text_ne_nil 0
  refine ⟨place 0 (spacedTokens false false tokens), ?_, ?_, places, ?_, hplaces.beside⟩
  · rw [spaceOperators, h]
    exact tokenize_spaced hlexed
  · rw [significant_place, hwidened.significant_eq]
  · rw [hplaces.render_eq, hrender]

theorem tokenize_spaceOperators_signed :
    let formula := "A1*-2<>\"a+b\"".toList
    let tokens : List Token :=
      [⟨.cell none, "A1".toList, 0⟩, ⟨.operator, "*".toList, 2⟩, ⟨.operator, "-".toList, 3⟩,
        ⟨.number, "2".toList, 4⟩, ⟨.operator, "<>".toList, 5⟩, ⟨.string, "\"a+b\"".toList, 7⟩]
    spaceOperators formula = "A1 * -2 <> \"a+b\"".toList ∧ tokenize formula = .ok tokens ∧
      ∃ tokens', tokenize (spaceOperators formula) = .ok tokens' ∧
        significant tokens' = significant tokens ∧
        ∃ places, render (without places tokens') = formula ∧
          ∀ t ∈ tokens', t.position ∈ places → BesideOperator tokens' t := by
  intro formula tokens
  have hspaces : spaceOperators formula = "A1 * -2 <> \"a+b\"".toList := by decide +kernel
  have h : tokenize formula = .ok tokens := by decide +kernel
  exact ⟨hspaces, h, tokenize_spaceOperators h⟩

end ColumnFormula.Token
