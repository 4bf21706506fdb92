import ColumnFormula.Proofs.IdentifierWords

namespace ColumnFormula.Identifier

open Text

/-- Runs of letters and digits with one underscore between each two, and one in front just when
the first run starts with a digit. -/
def IsStable (s : Text) : Prop :=
  ∃ first more, IsRun first ∧ (∀ run ∈ more, IsRun run) ∧
    s = (if startsWithDigit first then ['_'] else []) ++ List.intercalate ['_'] (first :: more)

theorem startsWithDigit_intercalate {first : Text} (h : IsRun first) (more : List Text) :
    startsWithDigit (List.intercalate ['_'] (first :: more)) = startsWithDigit first := by
  obtain ⟨c, rest, rfl⟩ := List.exists_cons_of_ne_nil h.ne_nil
  rw [List.intercalate_cons_cons_left]
  rfl

theorem guardDigit_intercalate {first : Text} (h : IsRun first) (more : List Text) :
    guardDigit (List.intercalate ['_'] (first :: more)) =
      (if startsWithDigit first then ['_'] else []) ++ List.intercalate ['_'] (first :: more) := by
  rw [guardDigit_eq, startsWithDigit_intercalate h]
  split
  · rfl
  · rfl

theorem IsRun.isStable {run : Text} (h : IsRun run) (hdigit : startsWithDigit run = false) :
    IsStable run := by
  refine ⟨run, [], h, by simp, ?_⟩
  rw [hdigit, List.intercalate_singleton]
  rfl

theorem IsStable.joined_eq {s : Text} (h : IsStable s) :
    words s ≠ [] ∧ guardDigit (joined s) = s := by
  obtain ⟨first, more, hfirst, hmore, rfl⟩ := h
  have hruns : ∀ run ∈ first :: more, IsRun run := List.forall_mem_cons.mpr ⟨hfirst, hmore⟩
  have hwords : words ((if startsWithDigit first then ['_'] else []) ++
      List.intercalate ['_'] (first :: more)) = first :: more := by
    split
    · rw [List.singleton_append, words_cons rfl, words_intercalate hruns]
    · rw [List.nil_append, words_intercalate hruns]
  rw [joined, hwords, guardDigit_intercalate hfirst]
  exact ⟨List.cons_ne_nil first more, rfl⟩

theorem guardDigit_intercalate_isStable {runs : List Text} (hne : runs ≠ [])
    (h : ∀ run ∈ runs, IsRun run) : IsStable (guardDigit (List.intercalate ['_'] runs)) := by
  obtain ⟨first, more, rfl⟩ := List.exists_cons_of_ne_nil hne
  obtain ⟨hfirst, hmore⟩ := List.forall_mem_cons.mp h
  rw [guardDigit_intercalate hfirst]
  exact ⟨first, more, hfirst, hmore, rfl⟩

theorem guardDigit_joined_isStable {s : Text} (h : words s ≠ []) :
    IsStable (guardDigit (joined s)) :=
  guardDigit_intercalate_isStable h fun _ => isRun_of_mem_words

theorem sanitize_of_isStable {s : Text} (h : IsStable s) (fallback : Text) :
    sanitize fallback s = s := by
  obtain ⟨hwords, hguard⟩ := h.joined_eq
  rw [sanitize_eq, if_neg (joined_eq_nil_iff.not.mpr hwords), hguard]

theorem ofFallback_of_isValid {s : Text} (h : isValid s) : ofFallback s = s := by
  have hfilter : s.filter isWordChar = s := List.filter_eq_self.mpr (isWordChar_of_isValid h)
  rw [ofFallback_eq, hfilter]
  cases s with
  | nil => contradiction
  | cons c s =>
      obtain ⟨-, hdigit, -⟩ := isValid_cons.mp h
      simp [guardDigit, hdigit]

theorem IsStable.isValid {s : Text} (h : IsStable s) : isValid s :=
  sanitize_of_isStable h s ▸ sanitize_isValid s s

theorem sanitize_isStable {fallback : Text} (h : IsStable fallback) (raw : Text) :
    IsStable (sanitize fallback raw) := by
  rw [sanitize_eq, ofFallback_of_isValid h.isValid]
  split
  · exact h
  · rename_i hne
    exact guardDigit_joined_isStable (joined_eq_nil_iff.not.mp hne)

theorem sanitize_eq_self_iff {fallback s : Text} (h : IsStable fallback) :
    sanitize fallback s = s ↔ IsStable s := by
  constructor
  · intro hself
    exact hself ▸ sanitize_isStable h s
  · intro hs
    exact sanitize_of_isStable hs fallback

theorem defaultFallback_isStable : IsStable defaultFallback :=
  IsRun.isStable ⟨by decide, List.all_eq_true.mp (by decide)⟩ (by decide)

/-- The text does not start with a small letter. -/
def StartsNoSmall (s : Text) : Prop := ∀ c ∈ s.head?, c.isLower = false

theorem capitalize_eq_self_iff {s : Text} : capitalize s = s ↔ StartsNoSmall s := by
  cases s with
  | nil => simp [capitalize, StartsNoSmall]
  | cons c s =>
      have hhead : c.toUpper = c ↔ c.isLower = false := by
        constructor
        · intro hself
          rw [← hself]
          exact Char.isLower_toUpper_eq_false c
        · intro hlower
          exact Char.toUpper_eq_of_not_isLower (by simp [hlower])
      simpa [capitalize, StartsNoSmall] using hhead

theorem capitalize_startsNoSmall (s : Text) : StartsNoSmall (capitalize s) := by
  cases s with
  | nil => simp [capitalize, StartsNoSmall]
  | cons c s => simp [capitalize, StartsNoSmall, Char.isLower_toUpper_eq_false]

theorem capitalize_isStable {s : Text} (h : IsStable s) : IsStable (capitalize s) := by
  obtain ⟨first, more, hfirst, hmore, rfl⟩ := h
  cases hdigit : startsWithDigit first with
  | true =>
      refine ⟨first, more, hfirst, hmore, ?_⟩
      rw [hdigit]
      rfl
  | false =>
      obtain ⟨c, rest, rfl⟩ := List.exists_cons_of_ne_nil hfirst.ne_nil
      obtain ⟨hc, hrest⟩ := List.forall_mem_cons.mp hfirst.isAlphanum
      have halpha : c.isAlpha := by
        have hcdigit : c.isDigit = false := hdigit
        simpa [Char.isAlphanum, hcdigit] using hc
      have hupper : c.toUpper.isUpper := by rwa [Char.isUpper_toUpper_eq_isAlpha]
      have hrun : IsRun (c.toUpper :: rest) := by
        refine ⟨List.cons_ne_nil _ _, List.forall_mem_cons.mpr ⟨?_, hrest⟩⟩
        simp [Char.isAlphanum, Char.isAlpha, hupper]
      have hupperDigit : startsWithDigit (c.toUpper :: rest) = false :=
        Bound.not_isDigit_of_isUpper hupper
      refine ⟨c.toUpper :: rest, more, hrun, hmore, ?_⟩
      rw [hupperDigit, List.intercalate_cons_cons_left, List.intercalate_cons_cons_left]
      rfl

theorem tableFallback_isStable : IsStable "Table".toList :=
  IsRun.isStable ⟨by decide, List.all_eq_true.mp (by decide)⟩ (by decide)

theorem sanitizeTable_eq_self_iff {s : Text} :
    sanitizeTable s = s ↔ IsStable s ∧ StartsNoSmall s := by
  constructor
  · intro hself
    have hstable : IsStable s :=
      hself ▸ capitalize_isStable (sanitize_isStable tableFallback_isStable s)
    rw [sanitizeTable, sanitize_of_isStable hstable, capitalize_eq_self_iff] at hself
    exact ⟨hstable, hself⟩
  · rintro ⟨hstable, hsmall⟩
    rw [sanitizeTable, sanitize_of_isStable hstable, capitalize_eq_self_iff.mpr hsmall]

theorem sanitizeTable_isStable (raw : Text) :
    IsStable (sanitizeTable raw) ∧ StartsNoSmall (sanitizeTable raw) :=
  ⟨capitalize_isStable (sanitize_isStable tableFallback_isStable raw), capitalize_startsNoSmall _⟩

/-- Identifiers and names of tables are left alone when they are made once more. The texts left
alone are the stable ones, for names of tables those that do not start with a small letter. -/
theorem sanitize_again (raw s : Text) :
    sanitize defaultFallback (sanitize defaultFallback raw) = sanitize defaultFallback raw ∧
      sanitizeTable (sanitizeTable raw) = sanitizeTable raw ∧
      (sanitize defaultFallback s = s ↔ IsStable s) ∧
      (sanitizeTable s = s ↔ IsStable s ∧ StartsNoSmall s) := by
  refine ⟨?_, ?_, sanitize_eq_self_iff defaultFallback_isStable, sanitizeTable_eq_self_iff⟩
  · exact sanitize_of_isStable (sanitize_isStable defaultFallback_isStable raw) _
  · exact sanitizeTable_eq_self_iff.mpr (sanitizeTable_isStable raw)

end ColumnFormula.Identifier
