import ColumnFormula.Proofs.OperatorSpacing
import ColumnFormula.Proofs.RewrittenTokens

namespace ColumnFormula.Token

/-- No binary operator lacks a space. `blankBefore` and `operand` are as for `spacedText`. -/
def IsSettled (blankBefore operand : Bool) : List Token → Prop
  | [] => True
  | t :: rest =>
    (t.isSpaced → operand → blankBefore ∧ rest.head?.all isBlank) ∧
      IsSettled t.isBlank (if t.isBlank then operand else t.endsOperand) rest

variable {blankBefore operand : Bool} {tokens : List Token}

theorem IsSettled.of_no_operand (h : IsSettled blankBefore true tokens) :
    IsSettled blankBefore operand tokens := by
  induction tokens generalizing blankBefore with
  | nil => trivial
  | cons t rest ih =>
      obtain ⟨hspaces, hrest⟩ := h
      refine ⟨fun hspaced _ => hspaces hspaced rfl, ?_⟩
      cases ht : t.isBlank with
      | true => exact ih (by simpa [ht] using hrest)
      | false => simpa [ht] using hrest

theorem IsSettled.of_blank (h : IsSettled blankBefore operand tokens) :
    IsSettled true operand tokens := by
  cases tokens with
  | nil => trivial
  | cons t rest =>
      obtain ⟨hspaces, hrest⟩ := h
      exact ⟨fun hspaced hoperand => ⟨rfl, (hspaces hspaced hoperand).2⟩, hrest⟩

theorem render_length_le (blankBefore operand : Bool) (tokens : List Token) :
    (render tokens).length ≤ (spacedText blankBefore operand tokens).length := by
  induction tokens generalizing blankBefore operand with
  | nil => exact Nat.le_refl _
  | cons t rest ih =>
      have hrest := ih t.isBlank (if t.isBlank then operand else t.endsOperand)
      rw [spacedText, render_cons]
      split <;> simp only [List.length_append] <;> omega

theorem spacedText_eq_render_iff :
    spacedText blankBefore operand tokens = render tokens ↔
      IsSettled blankBefore operand tokens := by
  induction tokens generalizing blankBefore operand with
  | nil => simp [spacedText, render, IsSettled]
  | cons t rest ih =>
      rw [spacedText, render_cons, IsSettled, ← ih]
      by_cases hbinary : t.isSpaced ∧ operand
      · obtain ⟨hspaced, rfl⟩ := hbinary
        rw [hspaced, Bool.and_true, if_pos rfl]
        constructor
        · -- A space that was added would make the text longer.
          intro h
          have hlength :=
            render_length_le t.isBlank (if t.isBlank then true else t.endsOperand) rest
          have hsame := congrArg List.length h
          simp only [List.length_append] at hsame
          have hbefore : (if blankBefore = true then ([] : Text) else [' ']) = [] :=
            List.eq_nil_of_length_eq_zero (by omega)
          have hbehind : (if rest.head?.all isBlank = true then ([] : Text) else [' ']) = [] :=
            List.eq_nil_of_length_eq_zero (by omega)
          rw [hbefore, hbehind, List.nil_append, List.append_nil] at h
          exact ⟨fun _ _ => by simpa using And.intro hbefore hbehind, List.append_cancel_left h⟩
        · rintro ⟨hspaces, hrest⟩
          obtain ⟨rfl, hhead⟩ := hspaces rfl rfl
          rw [if_pos rfl, if_pos hhead, List.nil_append, List.append_nil, hrest]
      · have hnone : (t.isSpaced && operand) = false := by simpa using hbinary
        rw [hnone]
        simp only [Bool.false_eq_true, if_false, List.append_cancel_left_eq]
        exact ⟨fun h => ⟨fun hspaced hoperand => absurd ⟨hspaced, hoperand⟩ hbinary, h⟩, And.right⟩

theorem head?_spacedTokens (h : tokens.head?.all isBlank) :
    (spacedTokens blankBefore false tokens).head?.all isBlank := by
  cases tokens with
  | nil => rfl
  | cons t rest =>
      obtain ⟨tail, htail⟩ : ∃ tail, spacedTokens blankBefore false (t :: rest) = t :: tail :=
        spacedTokens_cons t rest (.inr rfl)
      rw [htail]
      exact h

theorem isSettled_spacedTokens (blankBefore operand : Bool) (tokens : List Token) :
    IsSettled blankBefore operand (spacedTokens blankBefore operand tokens) := by
  induction tokens generalizing blankBefore operand with
  | nil => trivial
  | cons t rest ih =>
      rw [spacedTokens]
      by_cases hbinary : t.isSpaced && operand
      · obtain ⟨hspaced, rfl⟩ : t.isSpaced ∧ operand = true := by simpa using hbinary
        have hblank := isBlank_eq_false_of_isSpaced hspaced
        have hends := endsOperand_of_isSpaced hspaced
        have hbehind : IsSettled true true
            (t :: ((if rest.head?.all isBlank then [] else [space]) ++
            spacedTokens false false rest)) := by
          rw [IsSettled, hblank, hends]
          split
          · rename_i hhead
            exact ⟨fun _ _ => ⟨rfl, head?_spacedTokens hhead⟩, ih false false⟩
          · refine ⟨fun _ _ => ⟨rfl, rfl⟩, fun hspace _ => absurd hspace (by decide), ?_⟩
            exact (ih false false).of_blank
        rw [if_pos hbinary, hblank, hends]
        cases blankBefore with
        | true => exact hbehind
        | false => exact ⟨fun hspace _ => absurd hspace (by decide), hbehind⟩
      · rw [if_neg hbinary]
        refine ⟨fun hspaced hoperand => absurd ?_ hbinary, ih _ _⟩
        rw [hspaced, hoperand]
        rfl

theorem spaced_place (position : Nat) (tokens : List Token) :
    spaced (place position tokens) = spaced tokens :=
  spacedText_eq_of_content (content_place position tokens) false false

theorem spaceOperators_spaced (h : Lexed tokens) :
    spaceOperators (spaced tokens) = spaced tokens := by
  have hsettled := isSettled_spacedTokens false false tokens
  calc
    spaceOperators (spaced tokens) = spaced (place 0 (spacedTokens false false tokens)) := by
      rw [spaceOperators, tokenize_spaced h]
    _ = spaced (spacedTokens false false tokens) := spaced_place 0 _
    _ = render (spacedTokens false false tokens) := spacedText_eq_render_iff.mpr hsettled
    _ = spaced tokens := render_spacedTokens false false tokens

/-- Whether the last token that is no blank ends an operand. -/
def endsInOperand (tokens : List Token) : Bool :=
  (tokens.filter (!·.isBlank)).getLast?.any endsOperand

/-- Every binary operator that gets spaces has a blank directly in front of it, and a blank or the
end of the text directly behind it. -/
def HasSpaces (tokens : List Token) : Prop :=
  ∀ front t back, tokens = front ++ t :: back → t.isSpaced → endsInOperand front →
    front.getLast?.any isBlank ∧ back.head?.all isBlank

theorem getLast?_cons_getD {α β : Type} (f : α → β) (x : α) (xs : List α) (y : β) :
    ((x :: xs).getLast?.map f).getD y = (xs.getLast?.map f).getD (f x) := by
  rw [List.getLast?_cons]
  cases xs.getLast? <;> rfl

theorem getLast?_filter_cons_getD (t : Token) (front : List Token) (operand : Bool) :
    (((t :: front).filter (!·.isBlank)).getLast?.map endsOperand).getD operand =
      ((front.filter (!·.isBlank)).getLast?.map endsOperand).getD
        (if t.isBlank then operand else t.endsOperand) := by
  cases ht : t.isBlank with
  | true => rw [List.filter_cons_of_neg (by simp [ht]), if_pos rfl]
  | false =>
      rw [List.filter_cons_of_pos (by simp [ht]), getLast?_cons_getD]
      rfl

theorem isSettled_iff :
    IsSettled blankBefore operand tokens ↔
      ∀ front t back, tokens = front ++ t :: back → t.isSpaced →
        ((front.filter (!·.isBlank)).getLast?.map endsOperand).getD operand →
          (front.getLast?.map isBlank).getD blankBefore ∧ back.head?.all isBlank := by
  induction tokens generalizing blankBefore operand with
  | nil => simp [IsSettled]
  | cons u rest ih =>
      rw [IsSettled, ih]
      constructor
      · rintro ⟨hspaces, hrest⟩ front t back htokens
        cases front with
        | nil =>
            obtain ⟨rfl, rfl⟩ := List.cons.inj htokens
            exact hspaces
        | cons v front =>
            obtain ⟨rfl, rfl⟩ := List.cons.inj htokens
            rw [getLast?_filter_cons_getD, getLast?_cons_getD]
            exact hrest front t back rfl
      · intro h
        refine ⟨h [] u rest rfl, ?_⟩
        rintro front t back rfl
        have hspaces := h (u :: front) t back rfl
        rwa [getLast?_filter_cons_getD, getLast?_cons_getD] at hspaces

theorem isSettled_iff_hasSpaces : IsSettled false false tokens ↔ HasSpaces tokens := by
  have hany : ∀ (p : Token → Bool) (last : Option Token), (last.map p).getD false = last.any p := by
    rintro p (_ | t) <;> rfl
  simp only [isSettled_iff, HasSpaces, endsInOperand, hany]

/-- Spacing a formula once is enough, and nothing changes exactly when the formula has an open
quote, or has spaces around all its binary operators. -/
theorem spaceOperators_settles (formula : Text) :
    spaceOperators (spaceOperators formula) = spaceOperators formula ∧
      (spaceOperators formula = formula ↔
        ∀ tokens, tokenize formula = .ok tokens → HasSpaces tokens) := by
  cases h : tokenize formula with
  | error e =>
      have hsame : spaceOperators formula = formula := by rw [spaceOperators, h]
      simp [hsame]
  | ok tokens =>
      obtain ⟨hrender, hlexed, -⟩ := tokenize_eq_ok_iff.mp h
      have hspaced : spaceOperators formula = spaced tokens := by rw [spaceOperators, h]
      refine ⟨by rw [hspaced, spaceOperators_spaced hlexed], ?_⟩
      calc
        spaceOperators formula = formula ↔ spaced tokens = render tokens := by rw [hspaced, hrender]
        _ ↔ IsSettled false false tokens := spacedText_eq_render_iff
        _ ↔ HasSpaces tokens := isSettled_iff_hasSpaces
        _ ↔ ∀ tokens', Except.ok tokens = Except.ok tokens' → HasSpaces tokens' := by simp

/-- A sign, a percent sign, and an operator at the end. -/
example : spaceOperators "-A1%*-2 &".toList = "-A1% * -2 &".toList ∧
    spaceOperators "-A1% * -2 &".toList = "-A1% * -2 &".toList := by
  decide +kernel

end ColumnFormula.Token
