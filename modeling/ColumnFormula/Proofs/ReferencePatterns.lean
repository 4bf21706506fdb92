import Mathlib
import ColumnFormula.Proofs.LexemeParts

namespace ColumnFormula.Pattern

open ColumnFormula.Bound (markText)
open Lexeme (isBound isCell)
open RegularExpression

def oneOf : List Char → RegularExpression Char
  | [] => 0
  | c :: rest => char c + oneOf rest

def span (first last : Char) : List Char :=
  (List.range' first.toNat (last.toNat + 1 - first.toNat)).map Char.ofNat

def optional (p : RegularExpression Char) : RegularExpression Char := 1 + p

def repeated (p : RegularExpression Char) : RegularExpression Char := p * star p

/-- `[$]?` -/
def mark : RegularExpression Char := optional (char '$')

/-- `[A-Z]` -/
def letter : RegularExpression Char := oneOf (span 'A' 'Z')

/-- `[0-9]` -/
def digit : RegularExpression Char := oneOf (span '0' '9')

/-- `[$]?[A-Z]+` with what follows it. -/
def column (tail : RegularExpression Char) : RegularExpression Char :=
  mark * (repeated letter * tail)

/-- `[$]?[A-Z]+[$]?[0-9]+` -/
def cell : RegularExpression Char := column (mark * repeated digit)

/-- `[$]?[A-Z]+([$]?[0-9]+)?` -/
def bound : RegularExpression Char := column (optional (mark * repeated digit))

/-- `[$]?[A-Z]+[$]?[0-9]*`, which has no digits behind a second mark either. -/
def loose : RegularExpression Char := column (mark * star digit)

theorem mem_oneOf_iff {cs : List Char} {s : Text} :
    s ∈ (oneOf cs).matches' ↔ ∃ c ∈ cs, s = [c] := by
  induction cs with
  | nil => simp [oneOf]
  | cons c cs ih =>
      rw [oneOf, matches'_add, Language.mem_add, ih, matches'_char]
      simp only [List.mem_cons, exists_eq_or_imp]
      exact Iff.rfl

theorem mem_star_oneOf_iff {cs : List Char} {s : Text} :
    s ∈ (star (oneOf cs)).matches' ↔ ∀ c ∈ s, c ∈ cs := by
  rw [matches'_star, Language.mem_kstar]
  constructor
  · rintro ⟨pieces, rfl, hpieces⟩ c hc
    obtain ⟨piece, hpiece, hc⟩ := List.mem_flatten.mp hc
    obtain ⟨d, hd, rfl⟩ := mem_oneOf_iff.mp (hpieces piece hpiece)
    exact List.mem_singleton.mp hc ▸ hd
  · intro hs
    refine ⟨s.map ([·]), by rw [← List.flatMap_def, List.flatMap_singleton'], ?_⟩
    intro piece hpiece
    obtain ⟨c, hc, rfl⟩ := List.mem_map.mp hpiece
    exact mem_oneOf_iff.mpr ⟨c, hs c hc, rfl⟩

theorem mem_repeated_oneOf_iff {cs : List Char} {s : Text} :
    s ∈ (repeated (oneOf cs)).matches' ↔ s ≠ [] ∧ ∀ c ∈ s, c ∈ cs := by
  rw [repeated, matches'_mul, Language.mem_mul]
  constructor
  · rintro ⟨one, hone, more, hmore, rfl⟩
    obtain ⟨c, hc, rfl⟩ := mem_oneOf_iff.mp hone
    exact ⟨by simp, List.forall_mem_cons.mpr ⟨hc, mem_star_oneOf_iff.mp hmore⟩⟩
  · rintro ⟨hne, hs⟩
    obtain ⟨c, more, rfl⟩ := List.exists_cons_of_ne_nil hne
    obtain ⟨hc, hmore⟩ := List.forall_mem_cons.mp hs
    exact ⟨[c], mem_oneOf_iff.mpr ⟨c, hc, rfl⟩, more, mem_star_oneOf_iff.mpr hmore, rfl⟩

theorem mem_optional_iff {p : RegularExpression Char} {s : Text} :
    s ∈ (optional p).matches' ↔ s = [] ∨ s ∈ p.matches' := by
  rw [optional, matches'_add, Language.mem_add, matches'_epsilon, Language.mem_one]

theorem mem_mark_iff {s : Text} : s ∈ mark.matches' ↔ ∃ m, s = markText m := by
  rw [mark, mem_optional_iff, matches'_char]
  constructor
  · rintro (rfl | rfl)
    · exact ⟨false, rfl⟩
    · exact ⟨true, rfl⟩
  · rintro ⟨m, rfl⟩
    cases m with
    | false => exact .inl rfl
    | true => exact .inr rfl

theorem mem_span_iff {first last c : Char} (h : last.toNat < 0xD800) :
    c ∈ span first last ↔ first.toNat ≤ c.toNat ∧ c.toNat ≤ last.toNat := by
  rw [span, List.mem_map]
  constructor
  · rintro ⟨n, hn, rfl⟩
    rw [List.mem_range'_1] at hn
    rw [Char.toNat_ofNat, if_pos (.inl (by omega))]
    omega
  · rintro ⟨hfirst, hlast⟩
    refine ⟨c.toNat, ?_, c.ofNat_toNat⟩
    rw [List.mem_range'_1]
    omega

theorem mem_letters_iff {c : Char} : c ∈ span 'A' 'Z' ↔ c.isUpper :=
  (mem_span_iff (by decide)).trans Text.isUpper_iff.symm

theorem mem_digits_iff {c : Char} : c ∈ span '0' '9' ↔ c.isDigit :=
  (mem_span_iff (by decide)).trans Text.isDigit_iff.symm

theorem mem_column_iff {tail : RegularExpression Char} {s : Text} :
    s ∈ (column tail).matches' ↔ ∃ m letters back, letters ≠ [] ∧ (∀ c ∈ letters, c.isUpper) ∧
      back ∈ tail.matches' ∧ s = markText m ++ (letters ++ back) := by
  simp only [column, letter, matches'_mul, Language.mem_mul, mem_mark_iff, mem_repeated_oneOf_iff,
    mem_letters_iff]
  constructor
  · rintro ⟨_, ⟨m, rfl⟩, _, ⟨letters, ⟨hne, hupper⟩, back, hback, rfl⟩, rfl⟩
    exact ⟨m, letters, back, hne, hupper, hback, rfl⟩
  · rintro ⟨m, letters, back, hne, hupper, hback, rfl⟩
    exact ⟨_, ⟨m, rfl⟩, _, ⟨letters, ⟨hne, hupper⟩, back, hback, rfl⟩, rfl⟩

theorem mem_row_iff {s : Text} :
    s ∈ (mark * repeated digit).matches' ↔
      ∃ m digits, digits ≠ [] ∧ (∀ c ∈ digits, c.isDigit) ∧ s = markText m ++ digits := by
  simp only [digit, matches'_mul, Language.mem_mul, mem_mark_iff, mem_repeated_oneOf_iff,
    mem_digits_iff]
  constructor
  · rintro ⟨_, ⟨m, rfl⟩, digits, ⟨hne, hdigits⟩, rfl⟩
    exact ⟨m, digits, hne, hdigits, rfl⟩
  · rintro ⟨m, digits, hne, hdigits, rfl⟩
    exact ⟨_, ⟨m, rfl⟩, digits, ⟨hne, hdigits⟩, rfl⟩

theorem mem_looseRow_iff {s : Text} :
    s ∈ (mark * star digit).matches' ↔
      ∃ m digits, (∀ c ∈ digits, c.isDigit) ∧ s = markText m ++ digits := by
  simp only [digit, matches'_mul, Language.mem_mul, mem_mark_iff, mem_star_oneOf_iff,
    mem_digits_iff]
  constructor
  · rintro ⟨_, ⟨m, rfl⟩, digits, hdigits, rfl⟩
    exact ⟨m, digits, hdigits, rfl⟩
  · rintro ⟨m, digits, hdigits, rfl⟩
    exact ⟨_, ⟨m, rfl⟩, digits, hdigits, rfl⟩

theorem isCell_iff_mem {word : Text} : isCell word ↔ word ∈ cell.matches' := by
  rw [Lexeme.isCell_iff, cell, mem_column_iff]
  constructor
  · rintro ⟨w, hform, rfl, hdigits⟩
    exact ⟨w.columnMark, w.letters, _, hform.letters_ne_nil, hform.letters_isUpper,
      mem_row_iff.mpr ⟨w.rowMark, w.digits, hdigits, hform.digits_isDigit, rfl⟩, rfl⟩
  · rintro ⟨m, letters, _, hne, hupper, hrow, rfl⟩
    obtain ⟨m', digits, hdigits, hall, rfl⟩ := mem_row_iff.mp hrow
    exact ⟨⟨m, letters, m', digits⟩, ⟨hne, hupper, hall, fun _ => hdigits⟩, rfl, hdigits⟩

theorem isBound_iff_mem {word : Text} : isBound word ↔ word ∈ bound.matches' := by
  rw [Lexeme.isBound_iff, bound, mem_column_iff]
  constructor
  · rintro ⟨w, hform, rfl⟩
    refine ⟨w.columnMark, w.letters, _, hform.letters_ne_nil, hform.letters_isUpper, ?_, rfl⟩
    rw [mem_optional_iff, mem_row_iff]
    by_cases hdigits : w.digits = []
    · left
      have hmark : w.rowMark = false := by
        rw [Bool.eq_false_iff]
        exact fun hmark => hform.digits_ne_nil hmark hdigits
      rw [hmark, hdigits]
      rfl
    · exact .inr ⟨w.rowMark, w.digits, hdigits, hform.digits_isDigit, rfl⟩
  · rintro ⟨m, letters, back, hne, hupper, hback, rfl⟩
    rcases mem_optional_iff.mp hback with rfl | hrow
    · exact ⟨⟨m, letters, false, []⟩, ⟨hne, hupper, by simp, by simp⟩, rfl⟩
    · obtain ⟨m', digits, hdigits, hall, rfl⟩ := mem_row_iff.mp hrow
      exact ⟨⟨m, letters, m', digits⟩, ⟨hne, hupper, hall, fun _ => hdigits⟩, rfl⟩

theorem isBound_iff_mem_loose {word : Text} :
    isBound word ↔ word ∈ loose.matches' ∧ word.getLast? ≠ some '$' := by
  have hlast : ∀ front (s : Text), s ≠ [] → (∀ c ∈ s, c.isUpper ∨ c.isDigit) →
      (front ++ s).getLast? ≠ some '$' := by
    intro front s hne hall heq
    obtain ⟨init, c, rfl⟩ := (List.eq_nil_or_concat' s).resolve_left hne
    obtain rfl : c = '$' := by simpa using heq
    have := hall '$' (by simp)
    contradiction
  rw [Lexeme.isBound_iff, loose, mem_column_iff]
  constructor
  · rintro ⟨w, hform, rfl⟩
    refine ⟨⟨w.columnMark, w.letters, _, hform.letters_ne_nil, hform.letters_isUpper,
      mem_looseRow_iff.mpr ⟨w.rowMark, w.digits, hform.digits_isDigit, rfl⟩, rfl⟩, ?_⟩
    obtain ⟨columnMark, letters, rowMark, digits⟩ := w
    by_cases hdigits : digits = []
    · obtain rfl := hdigits
      have hmark : rowMark = false := by
        rw [Bool.eq_false_iff]
        exact fun hmark => hform.digits_ne_nil hmark rfl
      subst hmark
      have := hlast (markText columnMark) letters hform.letters_ne_nil
        fun c hc => .inl (hform.letters_isUpper c hc)
      simpa [Bound.Written.text, markText] using this
    · have := hlast (markText columnMark ++ (letters ++ markText rowMark)) digits hdigits
        fun c hc => .inr (hform.digits_isDigit c hc)
      simpa [Bound.Written.text] using this
  · rintro ⟨⟨m, letters, _, hne, hupper, hrow, rfl⟩, hend⟩
    obtain ⟨m', digits, hall, rfl⟩ := mem_looseRow_iff.mp hrow
    refine ⟨⟨m, letters, m', digits⟩, ⟨hne, hupper, hall, ?_⟩, rfl⟩
    rintro (hmark : m' = true) (hdigits : digits = [])
    subst hmark hdigits
    simp [markText] at hend

end ColumnFormula.Pattern
