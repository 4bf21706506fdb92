import ColumnFormula.Proofs.IdentifierForm
import ColumnFormula.Proofs.ReferencePatterns

/-!
Identifiers and the words of a text, which are its longest runs of ASCII letters and digits.
Masking, collapsing and trimming keep the words, and leave a text in which each underscore stands
between two of them; such a text is its words joined by underscores. Main statement: an identifier
is made of the joined words, or of the fallback when there are none, and matches
`[A-Za-z_][A-Za-z0-9_]*`.
-/

namespace ColumnFormula

namespace Pattern

/-- `[A-Za-z_]` -/
def nameStart : List Char := span 'A' 'Z' ++ span 'a' 'z' ++ ['_']

/-- `[A-Za-z_][A-Za-z0-9_]*` -/
def identifier : RegularExpression Char :=
  oneOf nameStart * .star (oneOf (nameStart ++ span '0' '9'))

theorem mem_nameStart_iff {c : Char} :
    c ∈ nameStart ↔ Identifier.isWordChar c ∧ c.isDigit = false := by
  have hlower : c ∈ span 'a' 'z' ↔ c.isLower :=
    (mem_span_iff (by decide)).trans Text.isLower_iff.symm
  have hdigit : c.isUpper ∨ c.isLower ∨ c = '_' → c.isDigit = false := by
    rw [Bool.eq_false_iff, Text.isUpper_iff, Text.isLower_iff, ne_eq, Text.isDigit_iff]
    rintro (h | h | rfl)
    · omega
    · omega
    · decide
  simp only [nameStart, List.mem_append, mem_letters_iff, hlower, List.mem_singleton, or_assoc,
    Identifier.isWordChar, Char.isAlphanum, Char.isAlpha, Bool.or_eq_true, beq_iff_eq]
  constructor
  · intro h
    exact ⟨h.imp_right (Or.imp_right .inr), hdigit h⟩
  · rintro ⟨h, hfalse⟩
    simpa [hfalse] using h

theorem mem_nameRest_iff {c : Char} :
    c ∈ nameStart ++ span '0' '9' ↔ Identifier.isWordChar c := by
  rw [List.mem_append, mem_nameStart_iff, mem_digits_iff]
  constructor
  · rintro (⟨h, -⟩ | h)
    · exact h
    · exact Identifier.isWordChar_of_isDigit h
  · intro h
    cases hdigit : c.isDigit with
    | false => exact .inl ⟨h, rfl⟩
    | true => exact .inr rfl

theorem isValid_iff_mem {s : Text} : Identifier.isValid s ↔ s ∈ identifier.matches' := by
  simp only [identifier, RegularExpression.matches'_mul, Language.mem_mul, mem_oneOf_iff,
    mem_star_oneOf_iff, mem_nameStart_iff, mem_nameRest_iff]
  constructor
  · intro h
    cases s with
    | nil => contradiction
    | cons c s =>
        obtain ⟨hc, hdigit, hs⟩ := Identifier.isValid_cons.mp h
        exact ⟨[c], ⟨c, ⟨hc, hdigit⟩, rfl⟩, s, hs, rfl⟩
  · rintro ⟨_, ⟨c, ⟨hc, hdigit⟩, rfl⟩, s, hs, rfl⟩
    exact Identifier.isValid_cons.mpr ⟨hc, hdigit, hs⟩

end Pattern

namespace Identifier

open Text

/-- The words of a text: what stands between characters that are no ASCII letters or digits. -/
def words (s : Text) : List Text := (s.splitOnP (!·.isAlphanum)).filter (· ≠ [])

/-- The words of a text with one underscore between each two. -/
def joined (s : Text) : Text := List.intercalate ['_'] (words s)

/-- A run of ASCII letters and digits. -/
structure IsRun (run : Text) : Prop where
  ne_nil : run ≠ []
  isAlphanum : ∀ c ∈ run, c.isAlphanum

/-- The runs of ASCII letters and digits in a text, in order, each of them as long as it can be. -/
inductive HasRuns : Text → List Text → Prop
  | nil : HasRuns [] []
  | gap {c : Char} {s : Text} {runs : List Text} (hc : c.isAlphanum = false) (h : HasRuns s runs) :
      HasRuns (c :: s) runs
  | run {run s : Text} {runs : List Text} (hrun : IsRun run) (hstop : StopsBefore Char.isAlphanum s)
      (h : HasRuns s runs) : HasRuns (run ++ s) (run :: runs)

theorem words_nil : words [] = [] := rfl

theorem words_append_cons {c : Char} (hc : c.isAlphanum = false) (s rest : Text) :
    words (s ++ c :: rest) = words s ++ words rest := by
  rw [words, List.splitOnP_append_cons s rest (by simp [hc]), List.filter_append]
  rfl

theorem words_cons {c : Char} (hc : c.isAlphanum = false) (s : Text) : words (c :: s) = words s :=
  words_append_cons hc [] s

theorem words_concat {c : Char} (hc : c.isAlphanum = false) (s : Text) :
    words (s ++ [c]) = words s := by
  rw [words_append_cons hc, words_nil, List.append_nil]

theorem IsRun.words_eq {run : Text} (h : IsRun run) : words run = [run] := by
  have hsplit : run.splitOnP (!·.isAlphanum) = [run] :=
    List.splitOnP_eq_singleton fun c hc => by simp [h.isAlphanum c hc]
  simp [words, hsplit, h.ne_nil]

theorem IsRun.words_append {run s : Text} (h : IsRun run) (hstop : StopsBefore Char.isAlphanum s) :
    words (run ++ s) = run :: words s := by
  cases s with
  | nil => rw [List.append_nil, h.words_eq, words_nil]
  | cons c s =>
      have hc : c.isAlphanum = false := stopsBefore_cons.mp hstop
      rw [words_append_cons hc, h.words_eq, words_cons hc, List.singleton_append]

theorem not_of_mem_splitOnP {p : Char → Bool} {s piece : Text} (h : piece ∈ s.splitOnP p) :
    ∀ c ∈ piece, p c = false := by
  induction s generalizing piece with
  | nil => simp_all
  | cons d s ih =>
      obtain ⟨first, more, heq⟩ := List.exists_cons_of_ne_nil (List.splitOnP_ne_nil p s)
      rw [List.splitOnP_cons_eq_if_modifyHead, heq] at h
      rw [heq] at ih
      split at h
      · rcases List.mem_cons.mp h with rfl | h
        · simp
        · exact ih h
      · rename_i hd
        rcases List.mem_cons.mp h with rfl | h
        · exact List.forall_mem_cons.mpr ⟨by simpa using hd, ih (by simp)⟩
        · exact ih (by simp [h])

theorem isRun_of_mem_words {s run : Text} (h : run ∈ words s) : IsRun run := by
  obtain ⟨hpiece, hne⟩ := List.mem_filter.mp h
  refine ⟨of_decide_eq_true hne, ?_⟩
  intro c hc
  simpa using not_of_mem_splitOnP hpiece c hc

theorem exists_run (s : Text) : ∃ run back, s = run ++ back ∧ (∀ c ∈ run, c.isAlphanum) ∧
    StopsBefore Char.isAlphanum back :=
  ⟨_, _, List.takeWhile_append_dropWhile.symm, fun _ hc => List.mem_takeWhile_imp hc,
    stopsBefore_dropWhile _ s⟩

/-- The words of a text are its longest runs. -/
theorem hasRuns_words (s : Text) : HasRuns s (words s) := by
  induction hlength : s.length using Nat.strong_induction_on generalizing s with
  | _ n ih =>
      obtain ⟨run, back, rfl, hall, hstop⟩ := exists_run s
      have hback : HasRuns back (words back) := by
        cases back with
        | nil => exact .nil
        | cons c rest =>
            have hc : c.isAlphanum = false := stopsBefore_cons.mp hstop
            rw [words_cons hc]
            exact .gap hc (ih rest.length (by simp at hlength; omega) rest rfl)
      by_cases hne : run = []
      · rw [hne]
        exact hback
      · have hrun : IsRun run := ⟨hne, hall⟩
        rw [hrun.words_append hstop]
        exact .run hrun hstop hback

theorem words_intercalate {runs : List Text} (h : ∀ run ∈ runs, IsRun run) :
    words (List.intercalate ['_'] runs) = runs := by
  induction runs with
  | nil => rfl
  | cons run runs ih =>
      obtain ⟨hrun, hruns⟩ := List.forall_mem_cons.mp h
      cases runs with
      | nil => rw [List.intercalate_singleton, hrun.words_eq]
      | cons next runs =>
          rw [List.intercalate_cons_cons, List.append_assoc, List.singleton_append,
            hrun.words_append (stopsBefore_cons.mpr rfl), words_cons rfl, ih hruns]

theorem words_joined (s : Text) : words (joined s) = words s :=
  words_intercalate fun _ => isRun_of_mem_words

theorem joined_eq_nil_iff {s : Text} : joined s = [] ↔ words s = [] := by
  constructor
  · intro h
    rw [← words_joined, h, words_nil]
  · intro h
    rw [joined, h, List.intercalate_nil]

theorem splitOnP_mask (raw : Text) :
    (mask raw).splitOnP (!·.isAlphanum) = raw.splitOnP (!·.isAlphanum) := by
  induction raw with
  | nil => rfl
  | cons c raw ih =>
      change ((if isWordChar c then c else '_') :: mask raw).splitOnP _ = _
      rw [List.splitOnP_cons_eq_if_modifyHead, List.splitOnP_cons_eq_if_modifyHead, ih]
      by_cases hc : c.isAlphanum
      · simp [isWordChar, hc]
      · have hmasked : (if isWordChar c then c else '_').isAlphanum = false := by
          split
          · simpa using hc
          · rfl
        simp [hmasked, hc]

theorem words_mask (raw : Text) : words (mask raw) = words raw :=
  congrArg (List.filter (· ≠ [])) (splitOnP_mask raw)

theorem words_append_collapse (front s : Text) :
    words (front ++ collapse s) = words (front ++ s) := by
  fun_induction collapse s generalizing front with
  | case1 => rfl
  | case2 c rest hc ih =>
      obtain ⟨rfl, hhead⟩ := hc
      obtain ⟨more, rfl⟩ := List.head?_eq_some_iff.mp hhead
      rw [ih, words_append_cons rfl, words_append_cons rfl, words_cons rfl]
  | case3 c rest _ ih =>
      simpa using ih (front ++ [c])

theorem words_dropWhile (s : Text) : words (s.dropWhile (· == '_')) = words s := by
  induction s with
  | nil => rfl
  | cons c s ih =>
      rw [List.dropWhile_cons]
      split
      · rename_i hc
        obtain rfl := beq_iff_eq.mp hc
        rw [ih, words_cons rfl]
      · rfl

theorem words_rdropWhile (s : Text) : words (s.rdropWhile (· == '_')) = words s := by
  induction s using List.reverseRecOn with
  | nil => rfl
  | append_singleton s c ih =>
      rw [List.rdropWhile_concat]
      split
      · rename_i hc
        obtain rfl := beq_iff_eq.mp hc
        rw [ih, words_concat rfl]
      · rfl

/-- The words of a raw text, tidied up. -/
def tidied (raw : Text) : Text := trimBoth (· == '_') (collapse (mask raw))

theorem words_tidied (raw : Text) : words (tidied raw) = words raw := by
  calc words (tidied raw)
    _ = words ((collapse (mask raw)).dropWhile (· == '_')) := words_rdropWhile _
    _ = words (collapse (mask raw)) := words_dropWhile _
    _ = words (mask raw) := words_append_collapse [] _
    _ = words raw := words_mask raw

/-- Each underscore of the text stands between letters or digits. -/
structure IsTidy (s : Text) : Prop where
  isWordChar : ∀ c ∈ s, isWordChar c
  apart : s.IsChain fun c d => c = '_' → d ≠ '_'
  head : StopsBefore (· == '_') s
  last : StopsBefore (· == '_') s.reverse

theorem head?_collapse (s : Text) : (collapse s).head? = s.head? := by
  fun_induction collapse s with
  | case1 => rfl
  | case2 c rest hc ih => rw [ih, hc.2, List.head?_cons, hc.1]
  | case3 c rest _ ih => rfl

theorem collapse_apart (s : Text) : (collapse s).IsChain fun c d => c = '_' → d ≠ '_' := by
  fun_induction collapse s with
  | case1 => exact .nil
  | case2 c rest _ ih => exact ih
  | case3 c rest hc ih =>
      refine List.isChain_cons.mpr ⟨?_, ih⟩
      rintro d hd rfl rfl
      exact hc ⟨rfl, head?_collapse rest ▸ hd⟩

theorem tidied_isTidy (raw : Text) : IsTidy (tidied raw) := by
  obtain ⟨back, hfront⟩ : ∃ back, tidied raw ++ back =
      (collapse (mask raw)).dropWhile (· == '_') := List.rdropWhile_prefix _ _
  constructor
  case isWordChar =>
    intro c hc
    exact isWordChar_of_mem_mask (collapse_subset _ (trimBoth_subset _ _ hc))
  case apart =>
    have hchain := (collapse_apart (mask raw)).suffix (List.dropWhile_suffix (· == '_'))
    rw [← hfront] at hchain
    exact (List.isChain_append.mp hchain).1
  case head =>
    have hstop := stopsBefore_dropWhile (· == '_') (collapse (mask raw))
    rw [← hfront] at hstop
    exact hstop.of_append
  case last =>
    rw [tidied, trimBoth, List.reverse_reverse]
    exact stopsBefore_dropWhile _ _

theorem isAlphanum_or_eq {c : Char} (h : isWordChar c) : c.isAlphanum ∨ c = '_' := by
  simpa [isWordChar] using h

theorem IsTidy.tail {run rest : Text} (h : IsTidy (run ++ '_' :: rest)) : IsTidy rest := by
  obtain ⟨-, hchain, -⟩ := List.isChain_append.mp h.apart
  obtain ⟨hhead, hrest⟩ := List.isChain_cons.mp hchain
  constructor
  case isWordChar =>
    intro c hc
    exact h.isWordChar c (by simp [hc])
  case apart => exact hrest
  case head =>
    cases rest with
    | nil => exact stopsBefore_nil _
    | cons d rest => exact stopsBefore_cons.mpr (beq_eq_false_iff_ne.mpr (hhead d rfl rfl))
  case last =>
    have hlast := h.last
    rw [List.reverse_append, List.reverse_cons, List.append_assoc] at hlast
    exact hlast.of_append

theorem IsTidy.isRun_or {s : Text} (h : IsTidy s) (hne : s ≠ []) :
    IsRun s ∨ ∃ run rest, IsRun run ∧ rest ≠ [] ∧ IsTidy rest ∧ s = run ++ '_' :: rest := by
  obtain ⟨run, back, rfl, hall, hstop⟩ := exists_run s
  have hmark : ∀ d rest, back = d :: rest → d = '_' := by
    rintro d rest rfl
    have hword := h.isWordChar d (by simp)
    exact (isAlphanum_or_eq hword).resolve_left (by simpa using hstop)
  have hrun : IsRun run := by
    refine ⟨?_, hall⟩
    rintro rfl
    obtain ⟨d, rest, rfl⟩ := List.exists_cons_of_ne_nil hne
    have hhead : StopsBefore (· == '_') (d :: rest) := h.head
    rw [stopsBefore_cons, beq_eq_false_iff_ne] at hhead
    exact hhead (hmark d rest rfl)
  cases back with
  | nil => exact .inl (run.append_nil.symm ▸ hrun)
  | cons d rest =>
      obtain rfl := hmark d rest rfl
      refine .inr ⟨run, rest, hrun, ?_, h.tail, rfl⟩
      rintro rfl
      have hlast := h.last
      simp at hlast

theorem IsTidy.joined_eq {s : Text} (h : IsTidy s) : joined s = s := by
  induction hlength : s.length using Nat.strong_induction_on generalizing s with
  | _ n ih =>
      by_cases hne : s = []
      · rw [hne]
        rfl
      rcases h.isRun_or hne with hrun | ⟨run, rest, hrun, hrest, htidy, rfl⟩
      · rw [joined, hrun.words_eq, List.intercalate_singleton]
      · have hjoined : joined rest = rest := ih rest.length (by simp at hlength; omega) htidy rfl
        have hwords : words rest ≠ [] := fun hnil => hrest (hjoined ▸ joined_eq_nil_iff.mpr hnil)
        rw [joined, hrun.words_append (stopsBefore_cons.mpr rfl), words_cons rfl,
          List.intercalate_cons_of_ne_nil hwords, List.append_assoc]
        exact congrArg (fun text => run ++ '_' :: text) hjoined

theorem ofWords_eq (raw : Text) : ofWords raw = guardDigit (joined raw) := by
  have hjoined : joined (tidied raw) = tidied raw := (tidied_isTidy raw).joined_eq
  rw [joined, words_tidied] at hjoined
  exact congrArg guardDigit hjoined.symm

def startsWithDigit (s : Text) : Bool := s.head?.any Char.isDigit

theorem guardDigit_eq (s : Text) : guardDigit s = if startsWithDigit s then '_' :: s else s := by
  cases s with
  | nil => rfl
  | cons c s => rfl

theorem guardDigit_eq_nil_iff {s : Text} : guardDigit s = [] ↔ s = [] := by
  cases s with
  | nil => exact Iff.rfl
  | cons c s =>
      rw [guardDigit_eq]
      split
      · simp
      · simp

theorem match_guardDigit (s other : Text) :
    (match guardDigit s with
      | [] => other
      | t => t) = if s = [] then other else guardDigit s := by
  split
  · rename_i hnil
    rw [if_pos (guardDigit_eq_nil_iff.mp hnil)]
  · rename_i hne
    rw [if_neg fun hnil => hne (guardDigit_eq_nil_iff.mpr hnil)]

theorem ofFallback_eq (fallback : Text) :
    ofFallback fallback = if fallback.filter isWordChar = [] then defaultFallback
      else guardDigit (fallback.filter isWordChar) :=
  match_guardDigit _ _

theorem sanitize_eq (fallback raw : Text) :
    sanitize fallback raw =
      if joined raw = [] then ofFallback fallback else guardDigit (joined raw) := by
  rw [sanitize, ofWords_eq]
  exact match_guardDigit _ _

/-- An identifier is made of the longest runs of letters and digits, joined by underscores, or
else of the characters of the fallback that an identifier may hold, or else it is `Column`; an
underscore guards a digit in front. In every case it matches the pattern of identifiers. -/
theorem sanitize_joined (fallback raw : Text) :
    let s := List.intercalate ['_'] (words raw)
    let kept := fallback.filter fun c => c.isAlphanum || c == '_'
    HasRuns raw (words raw) ∧
      sanitize fallback raw =
        (if s = [] then
          if kept = [] then "Column".toList
          else if startsWithDigit kept then '_' :: kept else kept
        else if startsWithDigit s then '_' :: s else s) ∧
      sanitize fallback raw ∈ Pattern.identifier.matches' := by
  intro s kept
  refine ⟨hasRuns_words raw, ?_, Pattern.isValid_iff_mem.mp (sanitize_isValid fallback raw)⟩
  rw [sanitize_eq, ofFallback_eq, guardDigit_eq, guardDigit_eq]
  rfl

/-- The mark and the letter that is not ASCII both end a run. -/
example : words "2023 – Café_(net)".toList = ["2023", "Caf", "net"].map String.toList ∧
    sanitize [] "2023 – Café_(net)".toList = "_2023_Caf_net".toList := by decide +kernel

end Identifier

end ColumnFormula
