import ColumnFormula.Proofs.Numerals

namespace ColumnFormula.Column

open List (replicate)

/-- A text of upper-case letters, at least one. -/
def IsLetters (s : Text) : Prop := s ≠ [] ∧ ∀ c ∈ s, c.isUpper

/-- Shorter letters come first, and letters of one length in the order of the alphabet. -/
def Precedes : Text → Text → Prop := List.Shortlex (· < ·)

/-- The letters that come next. The last letter other than `Z` moves on, and each `Z` behind it
becomes an `A`; where there is no other letter, all become `A` and there is one more of them. -/
inductive Next : Text → Text → Prop
  | advance (front : Text) (i count : Nat) (h : i < 25) :
      Next (front ++ letter i :: replicate count 'Z')
        (front ++ letter (i + 1) :: replicate count 'A')
  | lengthen (count : Nat) : Next (replicate (count + 1) 'Z') (replicate (count + 2) 'A')

theorem letter_lt {i j : Nat} (hij : i < j) (hj : j < 26) : letter i < letter j := by
  have htoNat : (letter i).toNat < (letter j).toNat := by
    rw [letter_toNat (hij.trans hj), letter_toNat hj]
    omega
  exact htoNat

theorem isLetters_iff {s : Text} : IsLetters s ↔ ∃ index, s = letters index := by
  constructor
  · rintro ⟨hne, hupper⟩
    exact ⟨rank s - 1, (letters_rank hne hupper).symm⟩
  · rintro ⟨index, rfl⟩
    exact ⟨letters_ne_nil index, letters_isUpper index⟩

theorem Precedes.trans {s t u : Text} (hst : Precedes s t) (htu : Precedes t u) : Precedes s u := by
  rcases List.shortlex_def.mp hst with hlength | ⟨hlength, hlex⟩
  · rcases List.shortlex_def.mp htu with hlength' | ⟨hlength', -⟩
    · exact .of_length_lt (hlength.trans hlength')
    · exact .of_length_lt (hlength' ▸ hlength)
  · rcases List.shortlex_def.mp htu with hlength' | ⟨hlength', hlex'⟩
    · exact .of_length_lt (hlength ▸ hlength')
    · have hlt : s < u := List.lt_trans hlex hlex'
      exact .of_lex (hlength.trans hlength') hlt

theorem Precedes.asymm {s t : Text} (h : Precedes s t) : ¬Precedes t s :=
  List.Shortlex.asymm.asymm s t h

theorem Next.precedes {s t : Text} (h : Next s t) : Precedes s t := by
  cases h with
  | advance front i count h =>
      refine List.Shortlex.append_left (.of_lex (by simp) ?_) front
      exact List.Lex.rel (letter_lt (Nat.lt_succ_self i) (by omega))
  | lengthen count =>
      apply List.Shortlex.of_length_lt
      simp

/-- When the last wheel runs over, it stands at `A` again and the ones before it move on. -/
theorem Next.carry {s t : Text} (h : Next s t) : Next (s ++ ['Z']) (t ++ ['A']) := by
  cases h with
  | advance front i count h =>
      have hnext := Next.advance front i (count + 1) h
      simpa [List.replicate_succ'] using hnext
  | lengthen count =>
      have hnext := Next.lengthen (count + 1)
      rwa [List.replicate_succ', List.replicate_succ' (n := count + 2)] at hnext

theorem next_letters (index : Nat) : Next (letters index) (letters (index + 1)) := by
  induction index using Nat.strong_induction_on with
  | _ index ih =>
      by_cases hlt : index < 26
      · rw [letters_of_lt hlt]
        by_cases hlast : index = 25
        · rw [hlast, letters_of_le (Nat.le_refl 26), letters_of_lt (by decide)]
          exact Next.lengthen 0
        · rw [letters_of_lt (by omega)]
          exact Next.advance [] index 0 (by omega)
      · have hle : 26 ≤ index + 1 := by omega
        rw [letters_of_le (Nat.not_lt.mp hlt), letters_of_le hle]
        by_cases hlast : index % 26 = 25
        · have hfront : (index + 1) / 26 - 1 = index / 26 - 1 + 1 := by omega
          have hmod : (index + 1) % 26 = 0 := by omega
          rw [hfront, hlast, hmod]
          exact (ih (index / 26 - 1) (by omega)).carry
        · have hfront : (index + 1) / 26 = index / 26 := by omega
          have hmod : (index + 1) % 26 = index % 26 + 1 := by omega
          rw [hfront, hmod]
          exact Next.advance _ (index % 26) 0 (by omega)

theorem precedes_of_lt {m n : Nat} (h : m < n) : Precedes (letters m) (letters n) := by
  induction n, h using Nat.le_induction with
  | base => exact (next_letters m).precedes
  | succ n _ ih => exact ih.trans (next_letters n).precedes

theorem precedes_letters_iff {m n : Nat} : Precedes (letters m) (letters n) ↔ m < n := by
  constructor
  · intro h
    by_contra hle
    rcases Nat.lt_or_eq_of_le (Nat.not_lt.mp hle) with hlt | rfl
    · exact h.asymm (precedes_of_lt hlt)
    · exact h.asymm h
  · exact precedes_of_lt

/-- The columns' letters are all letters, in order, and the next column's letters are the next
letters: they come about as the wheels of a counter turn, and there are none between. -/
theorem letters_enumerate (m n : Nat) :
    (∀ s, IsLetters s ↔ ∃ index, s = letters index) ∧
      (Precedes (letters m) (letters n) ↔ m < n) ∧
      Next (letters n) (letters (n + 1)) ∧
      ¬∃ s, IsLetters s ∧ Precedes (letters n) s ∧ Precedes s (letters (n + 1)) := by
  refine ⟨fun s => isLetters_iff, precedes_letters_iff, next_letters n, ?_⟩
  rintro ⟨s, hletters, hafter, hbefore⟩
  obtain ⟨index, rfl⟩ := isLetters_iff.mp hletters
  have hlt := precedes_letters_iff.mp hafter
  have hlt' := precedes_letters_iff.mp hbefore
  omega

end ColumnFormula.Column
