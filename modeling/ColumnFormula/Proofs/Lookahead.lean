import ColumnFormula.Proofs.LexemeReading

namespace ColumnFormula.Lexeme

open Text

/-- No error value starts with the number sign in front of the text. -/
def NoLiteral (rest : Text) : Prop :=
  ∀ e ∈ errorLiterals, sameIgnoringCase e (('#' :: rest).take e.length) = false

/-- Where a token ends before the first text, it ends before the second. -/
structure EndsAlike (rest rest' : Text) : Prop where
  stop : ∀ p : Char → Bool, p ' ' = false → StopsBefore p rest → StopsBefore p rest'
  noExponent : exponent rest = ([], rest) → exponent rest' = ([], rest')
  noTail : ∀ word, rangeTail? word rest = none → rangeTail? word rest' = none
  noLiteral : NoLiteral rest → NoLiteral rest'

/-- A class of characters that tokens end before: no space is in it, and of the letters in upper
case either all are or none is. -/
structure IsEnd (p : Char → Bool) : Prop where
  space : p ' ' = false
  upper : (∀ c : Char, c.isUpper → p c) ∨ ∀ c : Char, c.isUpper → p c = false

/-- Where a token that is neither a numeral nor a number sign ends before the first text, it ends
before the second. -/
structure EndsNear (rest rest' : Text) : Prop where
  stop : ∀ p, IsEnd p → StopsBefore p rest → StopsBefore p rest'
  noTail : ∀ word, rangeTail? word rest = none → rangeTail? word rest' = none

theorem EndsAlike.near {rest rest' : Text} (h : EndsAlike rest rest') : EndsNear rest rest' where
  stop p hp := h.stop p hp.space
  noTail := h.noTail

theorem isEnd_of_isUpper_false {p : Char → Bool} (hspace : p ' ' = false)
    (h : ∀ c, p c → c.isUpper = false) : IsEnd p := by
  refine ⟨hspace, .inr fun c hc => ?_⟩
  rw [Bool.eq_false_iff]
  intro hp
  simp [h c hp] at hc

theorem isEnd_beq {d : Char} (hspace : d ≠ ' ') (hd : d.isUpper = false) : IsEnd (· == d) := by
  apply isEnd_of_isUpper_false
  · simpa using hspace.symm
  · intro c hc
    rwa [beq_iff_eq.mp hc]

theorem isEnd_isDigit : IsEnd Char.isDigit :=
  isEnd_of_isUpper_false rfl fun _ => Bound.not_isUpper_of_isDigit

theorem isWordChar_of_isUpper {c : Char} (h : c.isUpper) : isWordChar c :=
  isWordChar_of_isWordStart (isWordStart_of_isAlpha (by simp [Char.isAlpha, h]))

theorem isEnd_isWordChar : IsEnd isWordChar := ⟨rfl, .inl fun _ => isWordChar_of_isUpper⟩

theorem isEnd_endsBare : IsEnd endsBare :=
  ⟨rfl, .inl fun _ hc => by simp [endsBare, isWordChar_of_isUpper hc]⟩

theorem startsNumber_eq_false_iff {c : Char} {rest : Text} :
    startsNumber c rest = false ↔
      c.isDigit = false ∧ (c = '.' → StopsBefore Char.isDigit rest) := by
  cases rest <;> simp [startsNumber, StopsBefore]

theorem IsNumber.of_endsNear {whole point power rest rest' : Text}
    (h : IsNumber whole point power rest) (hnear : EndsNear rest rest')
    (hexponent : Lexeme.exponent rest = ([], rest) → Lexeme.exponent rest' = ([], rest')) :
    IsNumber whole point power rest' :=
  { h with
    noDigit := hnear.stop _ isEnd_isDigit h.noDigit
    noPoint := fun hpoint hpower =>
      hnear.stop _ (isEnd_beq (by decide) rfl) (h.noPoint hpoint hpower)
    noExponent := fun hpower => hexponent (h.noExponent hpower) }

theorem IsStray.of_endsNear {c : Char} {rest rest' : Text} (h : IsStray c rest)
    (hnear : EndsNear rest rest') : IsStray c rest' := by
  obtain ⟨hdigit, hpoint⟩ := startsNumber_eq_false_iff.mp h.startsNumber
  have hstart : Lexeme.startsNumber c rest' = false :=
    startsNumber_eq_false_iff.mpr ⟨hdigit, fun hc => hnear.stop _ isEnd_isDigit (hpoint hc)⟩
  exact { h with startsNumber := hstart }

/-- What follows a token may be exchanged for a text before which it ends as well. -/
theorem Reads.of_endsNear {kind : Token.Kind} {text rest rest' : Text} (h : Reads kind text rest)
    (hnear : EndsNear rest rest') (hblank : kind = .blank → StopsBefore isBlank rest')
    (hfunction : kind = .function → rest'.head? = some '(')
    (hnumber : kind = .number → exponent rest = ([], rest) → exponent rest' = ([], rest'))
    (hsign : text = ['#'] → NoLiteral rest → NoLiteral rest') : Reads kind text rest' := by
  cases h with
  | blank hne hall _ => exact .blank hne hall (hblank rfl)
  | string hcloses hstop => exact .string hcloses (hnear.stop _ (isEnd_beq (by decide) rfl) hstop)
  | number hparts => exact .number (hparts.of_endsNear hnear (hnumber rfl))
  | errorLiteral he hsame => exact .errorLiteral he hsame
  | function hname =>
      obtain ⟨s, rfl⟩ := List.head?_eq_some_iff.mp (hfunction rfl)
      exact .function hname
  | range hleft hright hstop => exact .range hleft hright (hnear.stop _ isEnd_isWordChar hstop)
  | cell hcell hstop htail =>
      exact .cell hcell (hnear.stop _ isEnd_endsBare hstop) (hnear.noTail _ htail)
  | boolean hboolean hstop htail =>
      exact .boolean hboolean (hnear.stop _ isEnd_endsBare hstop) (hnear.noTail _ htail)
  | name hword hcell hboolean hstop htail =>
      exact .name hword hcell hboolean (hnear.stop _ isEnd_endsBare hstop) (hnear.noTail _ htail)
  | sheetRange hhead hleft hright hstop =>
      exact .sheetRange hhead hleft hright (hnear.stop _ isEnd_isWordChar hstop)
  | sheetCell hhead hcell hstop htail =>
      exact .sheetCell hhead hcell (hnear.stop _ isEnd_isWordChar hstop) (hnear.noTail _ htail)
  | sheetName hhead hall hcell hstop htail =>
      exact .sheetName hhead hall hcell (hnear.stop _ isEnd_isWordChar hstop) (hnear.noTail _ htail)
  | symbol hsingle => exact .symbol hsingle
  | @comparison c _ hc hstop =>
      refine .comparison hc (hnear.stop _ (isEnd_of_isUpper_false (by simp) ?_) hstop)
      intro d hd
      have hd' : d = '=' ∨ c = '<' ∧ d = '>' := by simpa using hd
      rcases hd' with rfl | ⟨-, rfl⟩ <;> rfl
  | doubleComparison hc hd => exact .doubleComparison hc hd
  | quotedRun hcloses hstop =>
      refine .quotedRun hcloses (hnear.stop _ (isEnd_of_isUpper_false (by simp) ?_) hstop)
      intro d hd
      have hd' : d = '\'' ∨ d = '!' := by simpa using hd
      rcases hd' with rfl | rfl <;> rfl
  | numberSign hnone => exact .numberSign (hsign rfl hnone)
  | stray hstray => exact .stray (hstray.of_endsNear hnear)

theorem Reads.of_endsAlike {kind : Token.Kind} {text rest rest' : Text} (h : Reads kind text rest)
    (halike : EndsAlike rest rest') (hblank : kind = .blank → StopsBefore isBlank rest')
    (hfunction : kind = .function → rest'.head? = some '(') : Reads kind text rest' :=
  h.of_endsNear halike.near hblank hfunction (fun _ => halike.noExponent) fun _ => halike.noLiteral

/-- What an exponent starts with: a letter and a digit, perhaps with a sign between them. -/
inductive ExponentStart : Text → Prop
  | unsigned {e d : Char} (letter : e = 'e' ∨ e = 'E') (isDigit : d.isDigit) : ExponentStart [e, d]
  | signed {e sign d : Char} (letter : e = 'e' ∨ e = 'E') (isSign : isSign sign)
      (isDigit : d.isDigit) : ExponentStart [e, sign, d]

theorem exponentStart_of_exponent {power : Text} (h : Exponent power) (hne : power ≠ []) :
    ∃ p, ExponentStart p ∧ p <+: power := by
  cases h with
  | absent => exact absurd rfl hne
  | @unsigned e digits he hdigits hall =>
      cases digits with
      | nil => exact absurd rfl hdigits
      | cons d digits => exact ⟨[e, d], .unsigned he (hall d (by simp)), digits, rfl⟩
  | @signed e sign digits he hsign hdigits hall =>
      cases digits with
      | nil => exact absurd rfl hdigits
      | cons d digits => exact ⟨[e, sign, d], .signed he hsign (hall d (by simp)), digits, rfl⟩

theorem exponent_eq_nil_iff {s : Text} :
    exponent s = ([], s) ↔ ∀ p, ExponentStart p → ¬ p <+: s := by
  constructor
  · rintro hnil p hp ⟨t, rfl⟩
    cases hp with
    | unsigned he hd => simp [exponent, he, hd] at hnil
    | signed he hsign hd => simp [exponent, he, isSign_ne hsign, hsign, hd] at hnil
  · intro hnone
    obtain ⟨hform, hnil, -⟩ := exponent_spec s
    by_cases hpower : (exponent s).1 = []
    · exact Prod.ext hpower (hnil hpower)
    · obtain ⟨p, hp, hfront⟩ := exponentStart_of_exponent hform hpower
      exact absurd (hfront.trans ⟨_, exponent_append s⟩) (hnone p hp)

theorem ExponentStart.not_mem_space {p : Text} (h : ExponentStart p) : ' ' ∉ p := by
  have hletter : ∀ e, e = 'e' ∨ e = 'E' → ' ' ≠ e := by
    rintro e (rfl | rfl) <;> decide
  have hdigit : ∀ d : Char, d.isDigit → ' ' ≠ d := by
    rintro d hd rfl
    simp at hd
  cases h with
  | unsigned he hd => simp [hletter _ he, hdigit _ hd]
  | @signed _ sign _ he hsign hd =>
      have hne : ' ' ≠ sign := by
        rintro rfl
        simp [isSign] at hsign
      simp [hletter _ he, hne, hdigit _ hd]

theorem NoLiteral.imp {rest rest' : Text} (h : NoLiteral rest)
    (hfronts : ∀ e ∈ errorLiterals, ∀ text, sameIgnoringCase e text → text <+: '#' :: rest' →
      text <+: '#' :: rest) : NoLiteral rest' := by
  intro e he
  rw [Bool.eq_false_iff]
  intro hsame
  have hfront := hfronts e he _ hsame (List.take_prefix e.length _)
  have hupper : asciiUpper e = asciiUpper (('#' :: rest').take e.length) := by
    simpa [sameIgnoringCase] using hsame
  have hliteral : asciiUpper e <+: asciiUpper ('#' :: rest) := by
    rw [hupper]
    exact hfront.map Char.toUpper
  have hsame' := sameIgnoringCase_take_iff.mpr hliteral
  rw [h e he] at hsame'
  exact absurd hsame' (by decide)

theorem rangeTail?_eq_none_iff {word rest : Text} :
    rangeTail? word rest = none ↔
      ∀ more, rest = ':' :: more → isBound word → isBound (more.takeWhile isWordChar) = false := by
  constructor
  · rintro h more rfl hword
    simpa [rangeTail?, hword] using h
  · intro h
    unfold rangeTail?
    split
    · rename_i more
      cases hword : isBound word with
      | false => rfl
      | true => simp [h more rfl hword]
    · rfl

theorem not_mem_of_sameIgnoringCase {c : Char} (hupper : c.toUpper = c)
    (hnone : ∀ e ∈ errorLiterals, c ∉ asciiUpper e) {e s : Text} (he : e ∈ errorLiterals)
    (hsame : sameIgnoringCase e s) : c ∉ s := by
  intro hc
  have heq : asciiUpper e = asciiUpper s := by simpa [sameIgnoringCase] using hsame
  apply hnone e he
  rw [heq]
  exact List.mem_map.mpr ⟨c, hc, hupper⟩

theorem isChain_of_sameIgnoringCase {e s : Text} (he : e ∈ errorLiterals)
    (hsame : sameIgnoringCase e s) : s.IsChain fun c d => c.isUpper → d.isDigit = false := by
  have hall : ∀ e ∈ errorLiterals,
      (asciiUpper e).IsChain fun c d => c.isUpper → d.isDigit = false := by decide +kernel
  have hupper : asciiUpper e = asciiUpper s := by simpa [sameIgnoringCase] using hsame
  have hchain := hall e he
  rw [hupper, asciiUpper, List.isChain_map] at hchain
  refine hchain.imp fun c d hcd hc => ?_
  have hc' : c.toUpper.isUpper := by
    rw [Char.isUpper_toUpper_eq_isAlpha]
    simp [Char.isAlpha, hc]
  have hd := hcd hc'
  by_contra hdigit
  have hlower : ¬ d.isLower := by
    rw [isLower_iff]
    rw [Bool.not_eq_false, isDigit_iff] at hdigit
    omega
  rw [Char.toUpper_eq_of_not_isLower hlower] at hd
  exact hdigit hd

theorem not_mem_space_of_sameIgnoringCase {e s : Text} (he : e ∈ errorLiterals)
    (hsame : sameIgnoringCase e s) : ' ' ∉ s :=
  not_mem_of_sameIgnoringCase (by decide) (by decide) he hsame

/-- A text that starts with nothing more than another one, unless it is with a space in it, goes
on with no numeral that the other one does not go on with, -/
theorem noExponent_of_fronts {s s' : Text} (h : ∀ p, ' ' ∉ p → p <+: s' → p <+: s)
    (hnone : exponent s = ([], s)) : exponent s' = ([], s') := by
  rw [exponent_eq_nil_iff] at hnone ⊢
  intro p hp hfront
  exact hnone p hp (h p hp.not_mem_space hfront)

theorem NoLiteral.of_fronts {s s' : Text} (h : ∀ p, ' ' ∉ p → p <+: '#' :: s' → p <+: '#' :: s)
    (hnone : NoLiteral s) : NoLiteral s' :=
  hnone.imp fun _ he text hsame hfront => h text (not_mem_space_of_sameIgnoringCase he hsame) hfront

theorem noLiteral_space (s : Text) : NoLiteral (' ' :: s) := by
  intro e he
  rw [Bool.eq_false_iff]
  intro hsame
  refine not_mem_space_of_sameIgnoringCase he hsame ?_
  have hlength : ∀ e ∈ errorLiterals, 2 ≤ e.length := by decide
  obtain ⟨n, hn⟩ := Nat.exists_eq_add_of_le (hlength e he)
  rw [hn, Nat.add_comm]
  simp

theorem endsAlike_space (rest s : Text) : EndsAlike rest (' ' :: s) where
  stop _ hp _ := stopsBefore_cons.mpr hp
  noExponent _ := rfl
  noTail _ _ := rfl
  noLiteral _ := noLiteral_space s

end ColumnFormula.Lexeme
