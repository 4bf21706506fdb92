import ColumnFormula.Proofs.StringLiterals
import ColumnFormula.Proofs.TokenReplacement

/-!
Formulas that have no tokens. A scan that looks at one character at a time, and knows only whether
it is inside a quoted run and of which kind, tells them from the others. Main statement: a formula
has tokens just when the scan ends outside; otherwise the error is at a quote that no later one
closes.
-/

namespace ColumnFormula

open Lexeme

/-- Where a character stands: outside of quoted runs, or inside one. -/
inductive Quotation
  | outside
  | double
  | single
deriving DecidableEq

namespace Quotation

/-- The state behind a character. Inside a run only its own quote matters. -/
def step : Quotation → Char → Quotation
  | outside, c => if c = '"' then double else if c = '\'' then single else outside
  | double, c => if c = '"' then outside else double
  | single, c => if c = '\'' then outside else single

def run (state : Quotation) (s : Text) : Quotation := s.foldl step state

def inside (q : Char) : Quotation := if q = '"' then double else single

@[simp] theorem run_nil (state : Quotation) : run state [] = state := rfl

@[simp] theorem run_cons (state : Quotation) (c : Char) (s : Text) :
    run state (c :: s) = run (state.step c) s := rfl

theorem run_append (state : Quotation) (s t : Text) :
    run state (s ++ t) = run (run state s) t := List.foldl_append

theorem inside_ne_outside (q : Char) : inside q ≠ outside := by
  rw [inside]
  split <;> simp

theorem step_outside_quote {q : Char} (hq : isQuote q) : outside.step q = inside q := by
  rcases eq_of_isQuote hq with rfl | rfl <;> rfl

theorem step_outside_other {c : Char} (hc : isQuote c = false) : outside.step c = outside := by
  have hne : c ≠ '"' ∧ c ≠ '\'' := by simpa [isQuote] using hc
  simp [step, hne]

theorem step_inside_quote {q : Char} (hq : isQuote q) : (inside q).step q = outside := by
  rcases eq_of_isQuote hq with rfl | rfl <;> rfl

theorem step_inside_other {q c : Char} (hq : isQuote q) (hc : c ≠ q) :
    (inside q).step c = inside q := by
  rcases eq_of_isQuote hq with rfl | rfl
  · exact if_neg hc
  · exact if_neg hc

theorem run_outside_of_noQuote {s : Text} (h : ∀ c ∈ s, isQuote c = false) :
    run outside s = outside := by
  induction s with
  | nil => rfl
  | cons c s ih =>
      rw [run_cons, step_outside_other (h c (by simp))]
      exact ih fun d hd => h d (by simp [hd])

theorem run_inside_of_closes {q : Char} (hq : isQuote q) {s : Text} (h : Closes q s) :
    run (inside q) s = outside := by
  induction h with
  | quote => rw [run_cons, step_inside_quote hq, run_nil]
  | doubled _ ih => rw [run_cons, run_cons, step_inside_quote hq, step_outside_quote hq, ih]
  | other hc _ ih => rw [run_cons, step_inside_other hq hc, ih]

theorem run_inside_of_closeQuote_eq_none {q : Char} (hq : isQuote q) {s : Text}
    (h : closeQuote q s = none) : run (inside q) s = inside q := by
  fun_induction closeQuote q s with
  | case1 => rfl
  | case2 rest ih =>
      rw [run_cons, run_cons, step_inside_quote hq, step_outside_quote hq]
      exact ih (Option.map_eq_none_iff.mp h)
  | case3 => contradiction
  | case4 => contradiction
  | case5 c rest hc ih =>
      rw [run_cons, step_inside_other hq hc]
      exact ih (Option.map_eq_none_iff.mp h)

/-- Every token leaves the scan outside. -/
theorem run_outside_of_quoting {kind : Token.Kind} {text rest : Text} (h : Quoting kind text rest) :
    run outside text = outside := by
  cases h with
  | plain _ hnone => exact run_outside_of_noQuote hnone
  | string hcloses _ => exact run_inside_of_closes (q := '"') rfl hcloses
  | sheet _ hcloses hnone _ =>
      rw [run_append, run_cons]
      have hrun := run_inside_of_closes (q := '\'') rfl hcloses
      exact (congrArg (run · _) hrun).trans (run_outside_of_noQuote hnone)

theorem run_outside_of_lexed {tokens : List Token} (h : Token.Lexed tokens) :
    run outside (Token.render tokens) = outside := by
  induction tokens with
  | nil => rfl
  | cons t rest ih =>
      rw [Token.render_cons, run_append, run_outside_of_quoting h.1.quoting]
      exact ih h.2

end Quotation

/-- Every run of a quote in the text that no further one goes on with has an even number of them. -/
def Text.HasEvenRuns (q : Char) (s : Text) : Prop :=
  ∀ front n back, s = front ++ List.replicate n q ++ back → front.getLast? ≠ some q →
    back.head? ≠ some q → Even n

namespace Lexeme

theorem getLast?_ne_of_cons {c q : Char} {s : Text} (h : (c :: s).getLast? ≠ some q) :
    s.getLast? ≠ some q := by
  cases s with
  | nil => simp
  | cons d s => simpa using h

theorem hasEvenRuns_doubled {q : Char} {s : Text} (h : Text.HasEvenRuns q s) :
    Text.HasEvenRuns q (q :: q :: s) := by
  intro front n back heq hfront hback
  match front with
  | [] =>
      match n with
      | 0 =>
          obtain rfl : q :: q :: s = back := heq
          exact absurd rfl hback
      | 1 =>
          obtain rfl : q :: s = back := (List.cons.inj heq).2
          exact absurd rfl hback
      | n + 2 =>
          have hs : s = [] ++ List.replicate n q ++ back := (List.cons.inj (List.cons.inj heq).2).2
          exact (h [] n back hs (by simp) hback).add even_two
  | [c] => exact absurd (congrArg some (List.cons.inj heq).1.symm) hfront
  | c :: d :: front =>
      have hs : s = front ++ List.replicate n q ++ back := (List.cons.inj (List.cons.inj heq).2).2
      exact h front n back hs (getLast?_ne_of_cons (getLast?_ne_of_cons hfront)) hback

theorem hasEvenRuns_other {q c : Char} (hc : c ≠ q) {s : Text} (h : Text.HasEvenRuns q s) :
    Text.HasEvenRuns q (c :: s) := by
  intro front n back heq hfront hback
  cases front with
  | nil =>
      cases n with
      | zero => exact Even.zero
      | succ n => exact absurd (List.cons.inj heq).1 hc
  | cons d front =>
      exact h front n back (List.cons.inj heq).2 (getLast?_ne_of_cons hfront) hback

theorem hasEvenRuns_of_closeQuote_eq_none {q : Char} {s : Text} (h : closeQuote q s = none) :
    Text.HasEvenRuns q s := by
  fun_induction closeQuote q s with
  | case1 =>
      intro front n back heq _ _
      obtain ⟨-, rfl, -⟩ : front = [] ∧ n = 0 ∧ back = [] := by simpa using heq
      exact Even.zero
  | case2 rest ih => exact hasEvenRuns_doubled (ih (Option.map_eq_none_iff.mp h))
  | case3 => contradiction
  | case4 => contradiction
  | case5 c rest hc ih => exact hasEvenRuns_other hc (ih (Option.map_eq_none_iff.mp h))

end Lexeme

namespace Token

open Quotation (run outside)

theorem of_scan_eq_error {position : Nat} {s : Text} {e : LexError}
    (h : scan position s = .error e) :
    ∃ front q back, s = front ++ q :: back ∧ e.position = position + front.length ∧ isQuote q ∧
      closeQuote q back = none ∧ run outside front = outside := by
  induction hn : s.length using Nat.strongRecOn generalizing s position with
  | ind n ih =>
      cases s with
      | nil =>
          rw [scan_nil] at h
          cases h
      | cons c s =>
          cases hfirst : first c s with
          | error cause =>
              obtain ⟨hquote, hclose⟩ := of_first_eq_error hfirst
              rw [scan_of_first_error hfirst] at h
              cases h
              exact ⟨[], c, s, rfl, rfl, hquote, hclose, rfl⟩
          | ok l =>
              obtain ⟨htext, hreads⟩ := starts_iff.mp ⟨c, s, rfl, hfirst⟩
              rw [scan_of_starts ⟨c, s, rfl, hfirst⟩] at h
              cases htail : scan (position + l.text.length) l.rest with
              | ok tail =>
                  rw [htail] at h
                  cases h
              | error e' =>
                  rw [htail] at h
                  cases h
                  have hlt : l.rest.length < n := hn ▸ first_rest_length_lt hfirst
                  obtain ⟨front, q, back, hrest, hposition, hq, hclose, hrun⟩ := ih _ hlt htail rfl
                  refine ⟨l.text ++ front, q, back, ?_, ?_, hq, hclose, ?_⟩
                  · rw [List.append_assoc, ← hrest, htext]
                  · rw [hposition, List.length_append, Nat.add_assoc]
                  · rw [Quotation.run_append, Quotation.run_outside_of_quoting hreads.quoting, hrun]

theorem exists_tokenize_iff {formula : Text} :
    (∃ tokens, tokenize formula = .ok tokens) ↔ run outside formula = outside := by
  constructor
  · rintro ⟨tokens, htokens⟩
    obtain ⟨hrender, hlexed, -⟩ := tokenize_eq_ok_iff.mp htokens
    rw [← hrender]
    exact Quotation.run_outside_of_lexed hlexed
  · intro hrun
    cases h : tokenize formula with
    | ok tokens => exact ⟨tokens, rfl⟩
    | error e =>
        obtain ⟨front, q, back, rfl, -, hq, hclose, hfront⟩ := of_scan_eq_error h
        have hopen := Quotation.run_inside_of_closeQuote_eq_none hq hclose
        rw [Quotation.run_append, hfront, Quotation.run_cons, Quotation.step_outside_quote hq,
          hopen] at hrun
        exact absurd hrun (Quotation.inside_ne_outside q)

end Token

namespace Converter

open Quotation (run outside)

/-- A conversion fails just when the scan of the formula ends inside a quoted run. -/
theorem convert_success_iff (t : Converter) (formula : Text) (row : Option Nat) :
    (t.convert formula row).success = true ↔ run outside (body formula) = outside := by
  cases hbody : Text.isAllBlank (body formula) with
  | true =>
      have hnone : ∀ c ∈ body formula, isQuote c = false := by
        intro c hc
        exact isQuote_eq_false (by decide) (by decide) (List.all_eq_true.mp hbody c hc)
      simp [convert, hbody, Conversion.succeeded, Quotation.run_outside_of_noQuote hnone]
  | false =>
      rw [← Token.exists_tokenize_iff]
      cases htokens : Token.tokenize (body formula) with
      | ok tokens => simp [convert_of_tokenize hbody htokens, Conversion.succeeded]
      | error e => simp [convert, hbody, htokens, Conversion.failed]

theorem convert_of_failure {t : Converter} {formula : Text} {row : Option Nat}
    (h : (t.convert formula row).success = false) :
    (t.convert formula row).output = [] ∧ ∃ w, (t.convert formula row).warnings = [w] := by
  rw [convert] at h ⊢
  split at h
  · contradiction
  · rename_i hbody
    rw [if_neg hbody]
    split at h
    · exact ⟨rfl, _, rfl⟩
    · contradiction

/-- A formula has tokens, and is converted, just when the scan of its quotes ends outside. Otherwise
the error is at a quote with tokens in front of it, none of whose kind behind it closes the run. -/
theorem tokenize_iff_outside (formula : Text) :
    ((∃ tokens, Token.tokenize formula = .ok tokens) ↔ run outside formula = outside) ∧
    (∀ e, Token.tokenize formula = .error e → ∃ front q back, formula = front ++ q :: back ∧
      e.position = front.length ∧ (q = '"' ∨ q = '\'') ∧
      (∃ tokens, Token.tokenize front = .ok tokens) ∧ Text.HasEvenRuns q back) ∧
    ∀ (t : Converter) (row : Option Nat),
      ((t.convert formula row).success = false ↔ run outside (body formula) ≠ outside) ∧
      ((t.convert formula row).success = false →
        (t.convert formula row).output = [] ∧ ∃ w, (t.convert formula row).warnings = [w]) := by
  refine ⟨Token.exists_tokenize_iff, ?_, ?_⟩
  · intro e he
    obtain ⟨front, q, back, hformula, hposition, hq, hclose, hrun⟩ := Token.of_scan_eq_error he
    rw [Nat.zero_add] at hposition
    exact ⟨front, q, back, hformula, hposition, eq_of_isQuote hq,
      Token.exists_tokenize_iff.mpr hrun,
      hasEvenRuns_of_closeQuote_eq_none hclose⟩
  · intro t row
    refine ⟨?_, convert_of_failure⟩
    rw [← Bool.not_eq_true, convert_success_iff]

theorem tokenize_iff_outside_doubled :
    let formula := "='a'''!A1&\"x\"\"y".toList
    Token.tokenize formula = .error ⟨.string, 10⟩ ∧ run outside (body formula) = .double ∧
      (∃ front q back, formula = front ++ q :: back ∧ 10 = front.length ∧ (q = '"' ∨ q = '\'') ∧
        (∃ tokens, Token.tokenize front = .ok tokens) ∧ Text.HasEvenRuns q back) ∧
      ∀ (t : Converter) (row : Option Nat), (t.convert formula row).success = false ∧
        (t.convert formula row).output = [] ∧ ∃ w, (t.convert formula row).warnings = [w] := by
  intro formula
  have herror : Token.tokenize formula = .error ⟨.string, 10⟩ := by decide +kernel
  have hrun : run outside (body formula) = .double := by decide +kernel
  obtain ⟨-, hposition, hconvert⟩ := tokenize_iff_outside formula
  refine ⟨herror, hrun, hposition _ herror, fun t row => ?_⟩
  have hfailure := (hconvert t row).1.mpr (by simp [hrun])
  exact ⟨hfailure, (hconvert t row).2 hfailure⟩

end Converter

end ColumnFormula
