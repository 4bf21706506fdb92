import ColumnFormula.Proofs.TokenSequence
import ColumnFormula.Proofs.Lookahead

namespace ColumnFormula

open Text

/-- Whether a token of this kind holds a word: a name, a truth value, a function or a reference. -/
def Token.Kind.hasWord : Token.Kind → Bool
  | .function | .name | .boolean | .cell _ | .range _ => true
  | .blank | .string | .number | .errorLiteral | .operator | .openParen | .closeParen | .comma
  | .other => false

namespace Lexeme

theorem exists_cons_of_isWord {word : Text} (h : isWord word) :
    ∃ c s, word = c :: s ∧ isWordStart c ∧ ∀ d ∈ s, isWordChar d := by
  cases word with
  | nil => contradiction
  | cons c s => exact ⟨c, s, rfl, isWord_cons.mp h⟩

theorem qualified_hasWord (sheet head s : Text) : (qualified sheet head s).kind.hasWord := by
  unfold qualified
  dsimp only
  split
  · rfl
  · dsimp only
    split <;> rfl

theorem word_hasWord (s : Text) : (word s).kind.hasWord := by
  unfold word
  dsimp only
  split
  · exact qualified_hasWord ..
  · rfl
  · unfold bare
    split
    · rfl
    · dsimp only
      split
      · rfl
      split <;> rfl

theorem hasWord_of_single? {c : Char} {kind : Token.Kind} (h : single? c = some kind) :
    kind.hasWord = false := by
  rcases of_single?_eq_some h with ⟨-, rfl⟩ | ⟨-, rfl⟩ | ⟨-, rfl⟩ | ⟨-, rfl⟩ <;> rfl

variable {kind : Token.Kind} {text rest rest' : Text}

theorem Reads.stopsBefore_isWordStart (h : Reads kind text rest) (hword : kind.hasWord = false) :
    StopsBefore isWordStart text := by
  obtain ⟨c, s, heq, hfirst⟩ := h.starts
  obtain ⟨d, text, rfl⟩ := List.exists_cons_of_ne_nil h.text_ne_nil
  obtain rfl := (List.cons.inj heq).1
  rw [stopsBefore_cons, Bool.eq_false_iff]
  intro hstart
  rw [first_word hstart] at hfirst
  have hword' := word_hasWord (d :: s)
  rw [Except.ok.inj hfirst] at hword'
  exact ne_true_of_eq_false hword hword'

theorem Reads.stopsBefore_isWordChar (h : Reads kind text rest) (hword : kind.hasWord) :
    StopsBefore isWordChar rest := by
  have hbare : ∀ {s : Text}, StopsBefore endsBare s → StopsBefore isWordChar s :=
    fun hstop => hstop.mono fun c hc => by simp [endsBare, hc]
  cases h with
  | blank | string | number | errorLiteral | comparison | doubleComparison | quotedRun | numberSign
  | stray => contradiction
  | symbol hsingle =>
      rw [hasWord_of_single? hsingle] at hword
      contradiction
  | function => exact stopsBefore_cons.mpr rfl
  | cell _ hstop | boolean _ hstop | name _ _ _ hstop => exact hbare hstop
  | range _ _ hstop | sheetRange _ _ _ hstop | sheetCell _ _ hstop | sheetName _ _ _ hstop =>
      exact hstop

/-- Where a token without a word ends before the first text, it ends before the second. -/
def StopsAlike (rest rest' : Text) : Prop :=
  ∀ p : Char → Bool, p ' ' = false → p '(' = false → (∀ c, p c → isWordChar c = false) →
    StopsBefore p rest → StopsBefore p rest'

theorem Reads.of_stopsAlike (h : Reads kind text rest) (hword : kind.hasWord = false)
    (halike : StopsAlike rest rest') (hblank : kind = .blank → StopsBefore isBlank rest')
    (hnumber : kind ≠ .number) (hsign : text = ['#'] → NoLiteral rest')
    (hpoint : text = ['.'] → StopsBefore Char.isDigit rest') : Reads kind text rest' := by
  cases h with
  | function | range | cell | boolean | name | sheetRange | sheetCell | sheetName | number =>
      contradiction
  | blank hne hall _ => exact .blank hne hall (hblank rfl)
  | string hcloses hstop =>
      refine .string hcloses (halike _ rfl rfl (fun c hc => ?_) hstop)
      obtain rfl := beq_iff_eq.mp hc
      rfl
  | errorLiteral he hsame => exact .errorLiteral he hsame
  | symbol hsingle => exact .symbol hsingle
  | @comparison c _ hc hstop =>
      refine .comparison hc (halike _ (by simp) (by simp) (fun d hd => ?_) hstop)
      have hd' : d = '=' ∨ c = '<' ∧ d = '>' := by simpa using hd
      rcases hd' with rfl | ⟨-, rfl⟩ <;> rfl
  | doubleComparison hc hd => exact .doubleComparison hc hd
  | quotedRun hcloses hstop =>
      refine .quotedRun hcloses (halike _ rfl rfl (fun d hd => ?_) hstop)
      have hd' : d = '\'' ∨ d = '!' := by simpa using hd
      rcases hd' with rfl | rfl <;> rfl
  | numberSign => exact .numberSign (hsign rfl)
  | @stray c _ hstray =>
      obtain ⟨hdigit, -⟩ := startsNumber_eq_false_iff.mp hstray.startsNumber
      have hstart : startsNumber c rest' = false :=
        startsNumber_eq_false_iff.mpr ⟨hdigit, fun hc => hpoint (by rw [hc])⟩
      exact .stray { hstray with startsNumber := hstart }

theorem Reads.exists_isNumber (h : Reads .number text rest) :
    ∃ whole point power, text = whole ++ (point ++ power) ∧ IsNumber whole point power rest := by
  cases h with
  | number hparts => exact ⟨_, _, _, rfl, hparts⟩
  | symbol hsingle => simpa using of_single?_eq_some hsingle

theorem exponent_of_not_isWordStart {c : Char} (h : isWordStart c = false) (s : Text) :
    exponent (c :: s) = ([], c :: s) := by
  have hletter : ¬ (c = 'e' ∨ c = 'E') := by
    rintro (rfl | rfl) <;> contradiction
  rw [exponent.eq_def]
  exact if_neg hletter

theorem Reads.noLiteral (h : Reads kind ['#'] rest) : kind = .other ∧ NoLiteral rest := by
  have hsign : Starts ('#' :: rest) (Lexeme.errorLiteral ('#' :: rest)) :=
    ⟨'#', rest, rfl, rfl⟩
  have heq := h.starts.unique hsign
  unfold Lexeme.errorLiteral at heq
  split at heq
  · rename_i e hfind
    have hlong : ∀ e ∈ errorLiterals, 2 ≤ e.length := by decide
    have hlength := hlong e (List.mem_of_find?_eq_some hfind)
    have hsame : sameIgnoringCase e (('#' :: rest).take e.length) := by
      simpa using List.find?_some hfind
    have htake : ('#' :: rest).take e.length = ['#'] := (congrArg Lexeme.text heq).symm
    rw [htake] at hsame
    have hupper : asciiUpper e = asciiUpper ['#'] := by simpa [sameIgnoringCase] using hsame
    have hshort := congrArg List.length hupper
    simp only [asciiUpper, List.length_map, List.length_singleton] at hshort
    omega
  · rename_i hnone
    refine ⟨congrArg Lexeme.kind heq, fun e he => ?_⟩
    simpa using List.find?_eq_none.mp hnone e he

theorem Reads.stopsBefore_isDigit (h : Reads kind ['.'] rest) : StopsBefore Char.isDigit rest := by
  cases rest with
  | nil => exact stopsBefore_nil _
  | cons d s =>
      rw [stopsBefore_cons, Bool.eq_false_iff]
      intro hd
      have hnumber : Starts ('.' :: d :: s) (Lexeme.number ('.' :: d :: s)) :=
        ⟨'.', d :: s, rfl, first_number (by simp [startsNumber, hd])⟩
      have htext := congrArg Lexeme.text (h.starts.unique hnumber)
      have hpoint : ('.' : Char).isDigit = false := rfl
      simp [Lexeme.number, Lexeme.fraction, hd, hpoint] at htext

/-- A character of words, or one that stands between two words that belong together. -/
def isInert (c : Char) : Bool := isWordChar c || c == '[' || c == ']' || c == '!' || c == ':'

theorem isInert_of_isWordChar {c : Char} (h : isWordChar c) : isInert c := by
  simp [isInert, h]

theorem isInert_of_isBound {word : Text} (h : isBound word) : ∀ c ∈ word, isInert c :=
  fun c hc => isInert_of_isWordChar (isWordChar_of_isWord (isWord_of_isBound h) c hc)

theorem isInert_range {left right : Text} (hleft : isBound left) (hright : isBound right) :
    ∀ c ∈ left ++ ':' :: right, isInert c := by
  intro c hc
  rw [List.mem_append, List.mem_cons] at hc
  rcases hc with hc | rfl | hc
  · exact isInert_of_isBound hleft c hc
  · rfl
  · exact isInert_of_isBound hright c hc

theorem single?_of_isInert {c : Char} (h : isInert c) : single? c = none := by
  have hall : ['(', ')', ',', '+', '-', '*', '/', '^', '&', '=', '%'].all (!isInert ·) := by decide
  rw [Option.eq_none_iff_forall_ne_some]
  intro kind hkind
  have hnot := List.all_eq_true.mp hall c (mem_of_single?_eq_some hkind)
  simp [h] at hnot

theorem first_of_isInert {c : Char} (h : isInert c) (s : Text) :
    first c s = .ok (if startsNumber c s then number (c :: s)
      else if isWordStart c then word (c :: s) else ⟨.other, [c], s⟩) := by
  have hne : ∀ d, isInert d = false → c ≠ d := by
    rintro d hd rfl
    exact ne_true_of_eq_false hd h
  have hblank : isBlank c = false := by
    rw [Bool.eq_false_iff]
    intro hblank
    have hcases : c = '[' ∨ c = ']' ∨ c = '!' ∨ c = ':' := by
      simpa [isInert, isWordChar_of_isBlank hblank, or_assoc] using h
    rcases hcases with rfl | rfl | rfl | rfl <;> exact absurd hblank (by decide)
  rw [first_eq_unquoted hblank ⟨hne '"' rfl, hne '\'' rfl⟩, unquoted, single?_of_isInert h]
  simp only [hne '#' rfl, hne '<' rfl, hne '>' rfl, or_false, if_false]

end Lexeme

theorem Token.Lexed.exists_of_first {tokens : List Token} (h : Token.Lexed tokens) {c : Char}
    {k : Token.Kind} (hfirst : ∀ s, Lexeme.first c s = .ok ⟨k, [c], s⟩)
    (hhead : (Token.render tokens).head? = some c) :
    ∃ position rest, tokens = ⟨k, [c], position⟩ :: rest := by
  cases tokens with
  | nil => contradiction
  | cons u rest =>
      obtain ⟨kind, text, position⟩ := u
      obtain ⟨hreads, -⟩ := h
      obtain ⟨d, text, rfl⟩ := List.exists_cons_of_ne_nil hreads.text_ne_nil
      obtain rfl := Option.some.inj hhead
      obtain ⟨rfl, rfl⟩ := hreads.of_first hfirst
      exact ⟨position, rest, rfl⟩

end ColumnFormula
