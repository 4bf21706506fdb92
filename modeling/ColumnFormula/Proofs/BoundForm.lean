import ColumnFormula.Proofs.TextRuns

namespace ColumnFormula.Bound

open Text

/-- The dollar sign of an absolute column or row. -/
def markText (mark : Bool) : Text := if mark then ['$'] else []

def Written.text (w : Written) : Text :=
  markText w.columnMark ++ (w.letters ++ (markText w.rowMark ++ w.digits))

/-- The parts that a bound may have. -/
structure Written.WellFormed (w : Written) : Prop where
  letters_ne_nil : w.letters ≠ []
  letters_isUpper : ∀ c ∈ w.letters, c.isUpper
  digits_isDigit : ∀ c ∈ w.digits, c.isDigit
  digits_ne_nil : w.rowMark → w.digits ≠ []

theorem markText_takeMark (s : Text) : markText (takeMark s).1 ++ (takeMark s).2 = s := by
  fun_cases takeMark s <;> rfl

theorem takeMark_eq (s : Text) :
    takeMark s = (decide (s.head? = some '$'), if s.head? = some '$' then s.tail else s) := by
  unfold takeMark
  split
  · rfl
  · rename_i hno
    have hhead : s.head? ≠ some '$' := by
      intro hhead
      cases s with
      | nil => simp at hhead
      | cons c rest => exact hno rest (by simpa using hhead)
    simp [hhead]

theorem takeMark_markText_append (mark : Bool) {s : Text} (h : StopsBefore (· == '$') s) :
    takeMark (markText mark ++ s) = (mark, s) := by
  cases mark with
  | true => rfl
  | false =>
      change takeMark s = (false, s)
      fun_cases takeMark s with
      | case1 rest => simp at h
      | case2 => rfl

theorem eq_of_mem_markText {mark : Bool} {c : Char} (h : c ∈ markText mark) : c = '$' := by
  cases mark with
  | true => exact List.mem_singleton.mp h
  | false => exact absurd h List.not_mem_nil

theorem ne_mark_of_isAlphanum {c : Char} (h : c.isUpper ∨ c.isDigit) : (c == '$') = false := by
  rw [beq_eq_false_iff_ne]
  rintro rfl
  revert h
  decide

theorem not_isUpper_of_isDigit {c : Char} (h : c.isDigit) : c.isUpper = false := by
  rw [Bool.eq_false_iff, ne_eq, isUpper_iff]
  rw [isDigit_iff] at h
  omega

theorem not_isDigit_of_isUpper {c : Char} (h : c.isUpper) : c.isDigit = false := by
  rw [Bool.eq_false_iff]
  intro hdigit
  simp [not_isUpper_of_isDigit hdigit] at h

theorem captures?_text {w : Written} (hne : w.letters ≠ []) (hupper : ∀ c ∈ w.letters, c.isUpper)
    (hdigit : ∀ c ∈ w.digits, c.isDigit) : captures? w.text = some w := by
  obtain ⟨columnMark, letters, rowMark, digits⟩ := w
  dsimp only at hne hupper hdigit
  have hcolumn : takeMark (markText columnMark ++ (letters ++ (markText rowMark ++ digits))) =
      (columnMark, letters ++ (markText rowMark ++ digits)) := by
    apply takeMark_markText_append
    cases letters with
    | nil => exact absurd rfl hne
    | cons c letters =>
        exact stopsBefore_cons.mpr (ne_mark_of_isAlphanum (.inl (hupper c (by simp))))
  have hstop : StopsBefore Char.isUpper (markText rowMark ++ digits) := by
    cases rowMark with
    | true => exact stopsBefore_cons.mpr rfl
    | false => exact stopsBefore_of_forall fun c hc => not_isUpper_of_isDigit (hdigit c hc)
  have hrow : takeMark (markText rowMark ++ digits) = (rowMark, digits) :=
    takeMark_markText_append rowMark
      (stopsBefore_of_forall fun c hc => ne_mark_of_isAlphanum (.inr (hdigit c hc)))
  simp only [captures?, Written.text, hcolumn]
  rw [takeWhile_append_of_stopsBefore hupper hstop, dropWhile_append_of_stopsBefore hupper hstop,
    hrow]
  exact if_pos ⟨hne, List.all_eq_true.mpr hdigit⟩

theorem of_captures?_eq_some {s : Text} {w : Written} (h : captures? s = some w) :
    w.text = s ∧ w.letters ≠ [] ∧ (∀ c ∈ w.letters, c.isUpper) ∧ ∀ c ∈ w.digits, c.isDigit := by
  simp only [captures?] at h
  split at h
  · rename_i hform
    obtain ⟨hne, hdigit⟩ := hform
    cases h
    refine ⟨?_, hne, fun c hc => List.mem_takeWhile_imp hc, List.all_eq_true.mp hdigit⟩
    simp only [Written.text]
    rw [markText_takeMark, List.takeWhile_append_dropWhile, markText_takeMark]
  · simp at h

theorem split?_text {w : Written} (h : w.WellFormed) : split? w.text = some w := by
  rw [split?, captures?_text h.letters_ne_nil h.letters_isUpper h.digits_isDigit]
  have hmark : !w.rowMark || w.digits != [] := by simpa [imp_iff_not_or] using h.digits_ne_nil
  exact if_pos hmark

theorem of_split?_eq_some {s : Text} {w : Written} (h : split? s = some w) :
    w.text = s ∧ w.WellFormed := by
  obtain ⟨hw, hmark⟩ := Option.filter_eq_some_iff.mp h
  obtain ⟨htext, hne, hupper, hdigit⟩ := of_captures?_eq_some hw
  exact ⟨htext,
    { letters_ne_nil := hne
      letters_isUpper := hupper
      digits_isDigit := hdigit
      digits_ne_nil := by simpa [imp_iff_not_or] using hmark }⟩

theorem split?_eq_some_iff {s : Text} {w : Written} :
    split? s = some w ↔ w.text = s ∧ w.WellFormed := by
  constructor
  · exact of_split?_eq_some
  · rintro ⟨rfl, h⟩
    exact split?_text h

end ColumnFormula.Bound
