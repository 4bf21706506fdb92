import ColumnFormula.Proofs.LexemeForm

namespace ColumnFormula.Lexeme

open Text

theorem closeQuote_doubled (q : Char) (s : Text) :
    closeQuote q (q :: q :: s) = (closeQuote q s).map fun r => (q :: q :: r.1, r.2) := by
  rw [closeQuote, if_pos rfl]
  exact if_pos rfl

theorem closeQuote_other {q c : Char} (hc : c ≠ q) (s : Text) :
    closeQuote q (c :: s) = (closeQuote q s).map fun r => (c :: r.1, r.2) := by
  rw [closeQuote.eq_def]
  exact if_neg hc

theorem closeQuote_quote {q : Char} {s : Text} (h : StopsBefore (· == q) s) :
    closeQuote q (q :: s) = some ([q], s) := by
  rw [closeQuote.eq_def]
  simp only [if_pos]
  cases s with
  | nil => rfl
  | cons d s =>
      have hd : d ≠ q := by simpa using h
      exact if_neg hd

theorem closes_of_closeQuote {q : Char} {s run rest : Text}
    (h : closeQuote q s = some (run, rest)) : Closes q run ∧ StopsBefore (· == q) rest := by
  fun_induction closeQuote q s generalizing run rest with
  | case1 => simp at h
  | case2 rest' ih =>
      obtain ⟨r, hr, heq⟩ := Option.map_eq_some_iff.mp h
      cases heq
      exact ⟨.doubled (ih hr).1, (ih hr).2⟩
  | case3 d rest' hd =>
      cases h
      exact ⟨.quote, by simpa using hd⟩
  | case4 =>
      cases h
      exact ⟨.quote, stopsBefore_nil _⟩
  | case5 c rest' hc ih =>
      obtain ⟨r, hr, heq⟩ := Option.map_eq_some_iff.mp h
      cases heq
      exact ⟨.other hc (ih hr).1, (ih hr).2⟩

theorem closeQuote_append_of_closes {q : Char} {run rest : Text} (h : Closes q run)
    (hstop : StopsBefore (· == q) rest) : closeQuote q (run ++ rest) = some (run, rest) := by
  induction h with
  | quote => exact closeQuote_quote hstop
  | doubled _ ih => simp [closeQuote_doubled, ih]
  | other hc _ ih => simp [closeQuote_other hc, ih]

theorem fraction_of_stopsBefore {s : Text} (h : StopsBefore (· == '.') s) :
    fraction s = ([], s) := by
  fun_cases fraction s with
  | case1 rest => simp at h
  | case2 => rfl

theorem fraction_spec (s : Text) :
    Fraction (fraction s).1 ∧
      ((fraction s).1 = [] → (fraction s).2 = s ∧ StopsBefore (· == '.') s) ∧
      ((fraction s).1 ≠ [] → StopsBefore Char.isDigit (fraction s).2) := by
  by_cases h : StopsBefore (· == '.') s
  · rw [fraction_of_stopsBefore h]
    exact ⟨.absent, fun _ => ⟨rfl, h⟩, fun hne => absurd rfl hne⟩
  · cases s with
    | nil => exact absurd (stopsBefore_nil _) h
    | cons c rest =>
        obtain rfl : c = '.' := by simpa using h
        refine ⟨.point fun d hd => List.mem_takeWhile_imp hd,
          fun hnil => by simp [fraction] at hnil, ?_⟩
        exact fun _ => stopsBefore_dropWhile _ rest

theorem exponent_spec (s : Text) :
    Exponent (exponent s).1 ∧
      ((exponent s).1 = [] → (exponent s).2 = s) ∧
      ((exponent s).1 ≠ [] → StopsBefore Char.isDigit (exponent s).2) := by
  fun_cases exponent s with
  | case1 e he d rest hd =>
      refine ⟨.unsigned he ?_ fun d hd => List.mem_takeWhile_imp hd, fun h => by simp at h,
        fun _ => ?_⟩
      · simp [hd]
      · exact stopsBefore_dropWhile _ _
  | case2 e he d rest hd hsign =>
      refine ⟨.signed he hsign.1 ?_ fun d hd => List.mem_takeWhile_imp hd, fun h => by simp at h,
        fun _ => ?_⟩
      · cases rest with
        | nil => simp at hsign
        | cons c rest =>
            have hc : c.isDigit := by simpa using hsign.2
            simp [hc]
      · exact stopsBefore_dropWhile _ _
  | case3 | case4 | case5 | case6 => exact ⟨.absent, fun _ => rfl, fun h => absurd rfl h⟩

theorem isNumber_of_number {c : Char} {s : Text} (h : startsNumber c s) :
    ∃ whole point power, (number (c :: s)).text = whole ++ (point ++ power) ∧
      IsNumber whole point power (number (c :: s)).rest := by
  let whole := (c :: s).takeWhile Char.isDigit
  let afterWhole := (c :: s).dropWhile Char.isDigit
  obtain ⟨hfraction, hnoPoint, hpoint⟩ := fraction_spec afterWhole
  obtain ⟨hexponent, hnoPower, hpower⟩ := exponent_spec (fraction afterWhole).2
  refine ⟨whole, (fraction afterWhole).1, (exponent (fraction afterWhole).2).1,
    List.append_assoc _ _ _, ?_⟩
  change IsNumber _ _ _ (exponent (fraction afterWhole).2).2
  refine
    { whole_isDigit := fun d hd => List.mem_takeWhile_imp hd
      fraction := hfraction
      exponent := hexponent
      start := ?_
      noDigit := ?_
      noPoint := ?_
      noExponent := ?_ }
  · rcases Bool.or_eq_true .. ▸ h with hc | hc
    · exact .inl (by simp [whole, hc])
    · obtain ⟨rfl, hdigit⟩ : c = '.' ∧ s.head?.any Char.isDigit = true := by simpa using hc
      cases s with
      | nil => simp at hdigit
      | cons d s =>
          have hd : d.isDigit := by simpa using hdigit
          have hdot : ('.' : Char).isDigit = false := rfl
          exact .inr ⟨d, s.takeWhile Char.isDigit, by simp [afterWhole, fraction, hdot, hd]⟩
  · by_cases hpow : (exponent (fraction afterWhole).2).1 = []
    · rw [hnoPower hpow]
      by_cases hp : (fraction afterWhole).1 = []
      · rw [(hnoPoint hp).1]
        exact stopsBefore_dropWhile _ _
      · exact hpoint hp
    · exact hpower hpow
  · intro hp hpow
    rw [hnoPower hpow, (hnoPoint hp).1]
    exact (hnoPoint hp).2
  · intro hpow
    rw [hnoPower hpow]
    exact Prod.ext hpow (hnoPower hpow)

theorem isExponentLetter_ne {e : Char} (h : e = 'e' ∨ e = 'E') : e ≠ '.' ∧ e.isDigit = false := by
  rcases h with rfl | rfl <;> decide

theorem fraction_append_of_fraction {point s : Text} (h : Fraction point)
    (hstop : StopsBefore Char.isDigit s) (hpoint : point = [] → StopsBefore (· == '.') s) :
    fraction (point ++ s) = (point, s) := by
  cases h with
  | absent => exact fraction_of_stopsBefore (hpoint rfl)
  | point hall =>
      rw [List.cons_append, fraction, takeWhile_append_of_stopsBefore hall hstop,
        dropWhile_append_of_stopsBefore hall hstop]

theorem isSign_ne {sign : Char} (h : isSign sign) : sign.isDigit = false := by
  rcases Bool.or_eq_true .. ▸ h with h | h
  all_goals
    rw [beq_iff_eq] at h
    subst h
    decide

theorem exponent_append_of_exponent {power rest : Text} (h : Exponent power)
    (hstop : StopsBefore Char.isDigit rest) (hnone : power = [] → exponent rest = ([], rest)) :
    exponent (power ++ rest) = (power, rest) := by
  cases h with
  | absent => exact hnone rfl
  | @unsigned e digits he hne hall =>
      cases digits with
      | nil => exact absurd rfl hne
      | cons d digits =>
          have hd : d.isDigit := hall d (by simp)
          have htake := takeWhile_append_of_stopsBefore hall hstop
          have hdrop := dropWhile_append_of_stopsBefore hall hstop
          simp only [List.cons_append] at htake hdrop ⊢
          simp [exponent, he, hd] at htake hdrop ⊢
          exact ⟨htake, hdrop⟩
  | @signed e sign digits he hsign hne hall =>
      cases digits with
      | nil => exact absurd rfl hne
      | cons d digits =>
          have hd : d.isDigit := hall d (by simp)
          have htake := takeWhile_append_of_stopsBefore hall hstop
          have hdrop := dropWhile_append_of_stopsBefore hall hstop
          simp only [List.cons_append] at htake hdrop ⊢
          simp [exponent, he, isSign_ne hsign, hsign, hd] at htake hdrop ⊢
          exact ⟨htake, hdrop⟩

theorem IsNumber.forall_mem {whole point power rest : Text} {P : Char → Prop}
    (h : IsNumber whole point power rest) (hdigit : ∀ {c : Char}, c.isDigit → P c) (hpoint : P '.')
    (hpower : ∀ c ∈ power, P c) : ∀ c ∈ whole ++ (point ++ power), P c := by
  have hfraction : ∀ c ∈ point, P c := by
    cases h.fraction with
    | absent => simp
    | point hall =>
        intro c hc
        rcases List.mem_cons.mp hc with rfl | hc
        · exact hpoint
        · exact hdigit (hall c hc)
  intro c hc
  rw [List.mem_append, List.mem_append] at hc
  rcases hc with hc | hc | hc
  · exact hdigit (h.whole_isDigit c hc)
  · exact hfraction c hc
  · exact hpower c hc

theorem number_append_of_isNumber {whole point power rest : Text}
    (h : IsNumber whole point power rest) :
    number (whole ++ (point ++ power) ++ rest) =
      ⟨.number, whole ++ (point ++ power), rest⟩ := by
  have hpowerStop : StopsBefore Char.isDigit (power ++ rest) := by
    cases h.exponent with
    | absent => exact h.noDigit
    | unsigned he | signed he => exact stopsBefore_cons.mpr (isExponentLetter_ne he).2
  have hpointStop : StopsBefore Char.isDigit (point ++ (power ++ rest)) := by
    cases h.fraction with
    | absent => exact hpowerStop
    | point => exact stopsBefore_cons.mpr rfl
  have hpoint : point = [] → StopsBefore (· == '.') (power ++ rest) := by
    intro hnil
    cases hexp : h.exponent with
    | absent => exact h.noPoint hnil rfl
    | unsigned he | signed he => exact stopsBefore_cons.mpr (by simp [(isExponentLetter_ne he).1])
  have hassoc : whole ++ (point ++ power) ++ rest = whole ++ (point ++ (power ++ rest)) := by simp
  rw [hassoc]
  simp only [number, takeWhile_append_of_stopsBefore h.whole_isDigit hpointStop,
    dropWhile_append_of_stopsBefore h.whole_isDigit hpointStop,
    fraction_append_of_fraction h.fraction hpowerStop hpoint,
    exponent_append_of_exponent h.exponent h.noDigit h.noExponent, List.append_assoc]

theorem startsNumber_of_isNumber {whole point power rest : Text}
    (h : IsNumber whole point power rest) :
    ∃ c s, whole ++ (point ++ power) ++ rest = c :: s ∧ startsNumber c s := by
  cases whole with
  | cons c whole =>
      have hc : c.isDigit := h.whole_isDigit c (by simp)
      exact ⟨c, _, rfl, by simp [startsNumber, hc]⟩
  | nil =>
      obtain hne | ⟨d, digits, rfl⟩ := h.start
      · exact absurd rfl hne
      · cases h.fraction with
        | point hall =>
            have hd : d.isDigit := hall d (by simp)
            exact ⟨'.', _, rfl, by simp [startsNumber, hd]⟩

theorem isWordStart_of_isAlpha {c : Char} (h : c.isAlpha) : isWordStart c := by
  have hascii : c.toNat < 0x80 := by
    have := isAlpha_iff.mp h
    omega
  simp [isWordStart, isAlphabetic, hascii, h]

theorem isWordChar_of_isDigit {c : Char} (h : c.isDigit) : isWordChar c := by
  have hascii : c.toNat < 0x80 := by
    have := isDigit_iff.mp h
    omega
  simp [isWordChar, isNumeric, hascii, h]

theorem isWord_cons {c : Char} {s : Text} :
    isWord (c :: s) ↔ isWordStart c ∧ ∀ d ∈ s, isWordChar d := by
  simp [isWord]

theorem isWordChar_of_isWord {word : Text} (h : isWord word) : ∀ c ∈ word, isWordChar c := by
  cases word with
  | nil => simp
  | cons c s =>
      obtain ⟨hc, hs⟩ := isWord_cons.mp h
      intro d hd
      rcases List.mem_cons.mp hd with rfl | hd
      · exact isWordChar_of_isWordStart hc
      · exact hs d hd

theorem length_dropWhile_eq_iff (p : Char → Bool) (s : Text) :
    (s.dropWhile p).length = s.length ↔ s.takeWhile p = [] := by
  have h := congrArg List.length (List.takeWhile_append_dropWhile (p := p) (l := s))
  rw [List.length_append] at h
  rw [← List.length_eq_zero_iff]
  omega

/-- Going through a word character by character finds the shape of a bound just where the word has
the form of one. -/
theorem hasShape_eq_any_split? (needRow : Bool) (word : Text) :
    hasShape needRow word =
      (Bound.split? word).any fun w => w.digits != [] || !needRow := by
  simp only [hasShape, Bound.split?, Bound.captures?, Bound.takeMark_eq]
  generalize (if word.head? = some '$' then word.tail else word) = afterMark
  generalize hbehind : afterMark.dropWhile Char.isUpper = behindLetters
  generalize (if behindLetters.head? = some '$' then behindLetters.tail else behindLetters) =
    digits
  by_cases hletters : afterMark.takeWhile Char.isUpper = []
  · have hlength := (length_dropWhile_eq_iff _ _).mpr hletters
    rw [hbehind] at hlength
    simp [hletters, hlength]
  have hlength := mt (length_dropWhile_eq_iff _ _).mp hletters
  rw [hbehind] at hlength
  by_cases hdigits : digits.dropWhile Char.isDigit = []
  · have hall : digits.all Char.isDigit := by simpa using hdigits
    cases digits <;> simp [hlength, hletters, hdigits, hall]
  · have hall : ¬ digits.all Char.isDigit := by simpa using hdigits
    simp [hlength, hletters, hdigits, hall]

theorem hasShape_iff {needRow : Bool} {word : Text} :
    hasShape needRow word ↔
      ∃ w : Bound.Written, w.WellFormed ∧ w.text = word ∧ (needRow → w.digits ≠ []) := by
  rw [hasShape_eq_any_split?, Option.any_eq_true]
  simp only [Bound.split?_eq_some_iff, Bool.or_eq_true, bne_iff_ne, Bool.not_eq_true']
  constructor
  · rintro ⟨w, ⟨htext, hform⟩, hrow⟩
    exact ⟨w, hform, htext, by simpa [imp_iff_not_or, or_comm] using hrow⟩
  · rintro ⟨w, hform, htext, hrow⟩
    exact ⟨w, ⟨htext, hform⟩, by simpa [imp_iff_not_or, or_comm] using hrow⟩

theorem isBound_iff {word : Text} :
    isBound word ↔ ∃ w : Bound.Written, w.WellFormed ∧ w.text = word := by
  simp [isBound, hasShape_iff]

theorem isCell_iff {word : Text} :
    isCell word ↔ ∃ w : Bound.Written, w.WellFormed ∧ w.text = word ∧ w.digits ≠ [] := by
  simp [isCell, hasShape_iff]

theorem isBound_of_isCell {word : Text} (h : isCell word) : isBound word := by
  obtain ⟨w, hform, htext, -⟩ := isCell_iff.mp h
  exact isBound_iff.mpr ⟨w, hform, htext⟩

theorem isWord_of_isBound {word : Text} (h : isBound word) : isWord word := by
  obtain ⟨⟨columnMark, letters, rowMark, digits⟩, hform, rfl⟩ := isBound_iff.mp h
  obtain ⟨hne, hupper, hdigit, -⟩ := hform
  dsimp only at hne hupper hdigit
  have hmark : ∀ mark, ∀ c ∈ Bound.markText mark, isWordChar c := by
    intro mark c hc
    obtain rfl := Bound.eq_of_mem_markText hc
    rfl
  have hletter : ∀ c ∈ letters, isWordStart c :=
    fun c hc => isWordStart_of_isAlpha (by simp [Char.isAlpha, hupper c hc])
  have htail : ∀ c ∈ letters ++ (Bound.markText rowMark ++ digits), isWordChar c := by
    intro c hc
    simp only [List.mem_append] at hc
    rcases hc with hc | hc | hc
    · exact isWordChar_of_isWordStart (hletter c hc)
    · exact hmark rowMark c hc
    · exact isWordChar_of_isDigit (hdigit c hc)
  cases columnMark with
  | true => exact isWord_cons.mpr ⟨rfl, htail⟩
  | false =>
      cases letters with
      | nil => exact absurd rfl hne
      | cons c letters =>
          refine isWord_cons.mpr ⟨hletter c (by simp), fun d hd => htail d ?_⟩
          exact List.mem_cons_of_mem c hd

theorem not_stopsBefore_of_isBound {s : Text} (h : isBound (s.takeWhile isWordChar)) :
    ¬ StopsBefore isWordStart s := by
  have hword := isWord_of_isBound h
  cases s with
  | nil => exact absurd h (by decide)
  | cons c s =>
      rw [List.takeWhile_cons] at hword
      split at hword
      · simpa using (isWord_cons.mp hword).1
      · exact absurd hword (by decide)

theorem isAlpha_of_isBoolean {word : Text} (h : isBoolean word) : ∀ c ∈ word, c.isAlpha := by
  intro c hc
  have hupper : ∀ literal : Text, literal.all Char.isUpper → sameIgnoringCase word literal →
      asciiUpper literal = literal → c.isAlpha := by
    intro literal hall hsame hliteral
    have heq : asciiUpper word = literal := by
      rw [← hliteral]
      simpa [sameIgnoringCase] using hsame
    have hmem : c.toUpper ∈ asciiUpper word := List.mem_map_of_mem hc
    have hletter := List.all_eq_true.mp hall _ (heq ▸ hmem)
    rwa [Char.isUpper_toUpper_eq_isAlpha] at hletter
  rcases Bool.or_eq_true .. ▸ h with h | h
  · exact hupper "TRUE".toList (by decide) h (by decide)
  · exact hupper "FALSE".toList (by decide) h (by decide)

theorem isWord_of_isBoolean {word : Text} (h : isBoolean word) : isWord word := by
  have halpha := isAlpha_of_isBoolean h
  cases word with
  | nil => exact absurd h (by decide)
  | cons c s =>
      refine isWord_cons.mpr ⟨isWordStart_of_isAlpha (halpha c (by simp)), fun d hd => ?_⟩
      exact isWordChar_of_isWordStart (isWordStart_of_isAlpha (halpha d (by simp [hd])))

theorem not_isCell_of_isBoolean {word : Text} (h : isBoolean word) : isCell word = false := by
  rw [Bool.eq_false_iff]
  intro hcell
  obtain ⟨w, hform, rfl, hne⟩ := isCell_iff.mp hcell
  obtain ⟨d, hd⟩ := List.exists_mem_of_ne_nil _ hne
  have hdigit := hform.digits_isDigit d hd
  have halpha := isAlpha_of_isBoolean h d (by simp [Bound.Written.text, hd])
  rw [isDigit_iff] at hdigit
  rw [isAlpha_iff] at halpha
  omega

theorem of_rangeTail?_eq_some {word rest tail rest' : Text}
    (h : rangeTail? word rest = some (tail, rest')) :
    isBound word ∧ ∃ right, isBound right ∧ tail = ':' :: right ∧ StopsBefore isWordChar rest' := by
  unfold rangeTail? at h
  split at h
  · rename_i more
    dsimp only at h
    split at h
    · rename_i hbounds
      rw [Bool.and_eq_true] at hbounds
      cases h
      exact ⟨hbounds.1, _, hbounds.2, rfl, stopsBefore_dropWhile _ more⟩
    · simp at h
  · simp at h

theorem rangeTail?_colon {word right rest : Text} (hword : isBound word) (hright : isBound right)
    (hstop : StopsBefore isWordChar rest) :
    rangeTail? word (':' :: (right ++ rest)) = some (':' :: right, rest) := by
  have hall := isWordChar_of_isWord (isWord_of_isBound hright)
  simp only [rangeTail?, takeWhile_append_of_stopsBefore hall hstop,
    dropWhile_append_of_stopsBefore hall hstop, hword, hright, Bool.and_self, if_true]

theorem eq_of_isPrefixOf_errorLiteral :
    ∀ e ∈ errorLiterals, ∀ e' ∈ errorLiterals,
      (asciiUpper e).isPrefixOf (asciiUpper e') → e = e' := by
  decide +kernel

theorem sameIgnoringCase_take_iff {e s : Text} :
    sameIgnoringCase e (s.take e.length) ↔ asciiUpper e <+: asciiUpper s := by
  simp only [sameIgnoringCase, beq_iff_eq, asciiUpper, List.map_take]
  rw [List.prefix_iff_eq_take, List.length_map]

end ColumnFormula.Lexeme
