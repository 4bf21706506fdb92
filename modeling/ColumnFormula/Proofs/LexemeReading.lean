import ColumnFormula.Proofs.LexemeParts

namespace ColumnFormula.Lexeme

open Text

theorem qualified_reads {sheet head : Text} (h : SheetHead sheet head) (s : Text) :
    Reads (qualified sheet head s).kind (qualified sheet head s).text
      (qualified sheet head s).rest := by
  unfold qualified
  dsimp only
  split
  · rename_i tail rest htail
    obtain ⟨hword, right, hright, rfl, hstop⟩ := of_rangeTail?_eq_some htail
    rw [List.append_assoc]
    exact .sheetRange h hword hright hstop
  · rename_i htail
    dsimp only
    split
    · rename_i hcell
      exact .sheetCell h hcell (stopsBefore_dropWhile _ s) htail
    · rename_i hcell
      exact .sheetName h (fun c hc => List.mem_takeWhile_imp hc) (by simpa using hcell)
        (stopsBefore_dropWhile _ s) htail

theorem bare_reads {w rest : Text} (hword : isWord w) (hstop : StopsBefore endsBare rest) :
    Reads (bare w rest).kind (bare w rest).text (bare w rest).rest := by
  unfold bare
  split
  · rename_i tail rest' htail
    obtain ⟨hbound, right, hright, rfl, hstop'⟩ := of_rangeTail?_eq_some htail
    exact .range hbound hright hstop'
  · rename_i htail
    dsimp only
    split
    · rename_i hcell
      exact .cell hcell hstop htail
    split
    · rename_i hboolean
      exact .boolean hboolean hstop htail
    · rename_i hcell hboolean
      exact .name hword (by simpa using hcell) (by simpa using hboolean) hstop htail

theorem word_reads {c : Char} {s : Text} (h : isWordStart c) :
    Reads (word (c :: s)).kind (word (c :: s)).text (word (c :: s)).rest := by
  have hword : isWord ((c :: s).takeWhile isWordChar) := by
    rw [List.takeWhile_cons_of_pos (isWordChar_of_isWordStart h)]
    exact isWord_cons.mpr ⟨h, fun d hd => List.mem_takeWhile_imp hd⟩
  have hstop := stopsBefore_dropWhile isWordChar (c :: s)
  unfold word
  dsimp only
  split
  · rename_i more _
    exact qualified_reads (.plain hword) more
  · exact .function hword
  · rename_i hmark hparen
    refine bare_reads hword ?_
    generalize (c :: s).dropWhile isWordChar = rest at *
    cases rest with
    | nil => exact stopsBefore_nil _
    | cons d rest =>
        have hne : d ≠ '!' ∧ d ≠ '(' := by
          constructor
          · rintro rfl
            exact hmark rest rfl
          · rintro rfl
            exact hparen rest rfl
        rw [stopsBefore_cons] at hstop ⊢
        simp [endsBare, hstop, hne]

theorem errorLiteral_reads (s : Text) :
    Reads (errorLiteral ('#' :: s)).kind (errorLiteral ('#' :: s)).text
      (errorLiteral ('#' :: s)).rest := by
  unfold errorLiteral
  split
  · rename_i e he
    exact .errorLiteral (List.mem_of_find?_eq_some he) (by simpa using List.find?_some he)
  · rename_i hnone
    refine .numberSign fun e he => ?_
    simpa using List.find?_eq_none.mp hnone e he

theorem quotedSheet_reads {run rest : Text} (h : Closes '\'' run)
    (hstop : StopsBefore (· == '\'') rest) :
    Reads (quotedSheet run rest).kind (quotedSheet run rest).text (quotedSheet run rest).rest := by
  unfold quotedSheet
  split
  · rename_i more
    exact qualified_reads (.quoted h) more
  · rename_i hmark
    refine .quotedRun h ?_
    cases rest with
    | nil => exact stopsBefore_nil _
    | cons c rest =>
        have hne : c ≠ '!' := by
          rintro rfl
          exact hmark rest rfl
        rw [stopsBefore_cons] at hstop ⊢
        simp [hstop, hne]

theorem comparison_reads {c : Char} (h : c = '<' ∨ c = '>') (s : Text) :
    Reads (comparison c s).kind (comparison c s).text (comparison c s).rest := by
  unfold comparison
  split
  · rename_i d rest
    split
    · rename_i hd
      exact .doubleComparison h hd
    · rename_i hd
      refine .comparison h ?_
      rw [stopsBefore_cons]
      grind
  · exact .comparison h (stopsBefore_nil _)

theorem unquoted_reads {c : Char} {s : Text} (hblank : isBlank c = false)
    (hquote : c ≠ '"' ∧ c ≠ '\'') :
    Reads (unquoted c s).kind (unquoted c s).text (unquoted c s).rest := by
  unfold unquoted
  split
  · rename_i kind hsingle
    exact .symbol hsingle
  rename_i hsingle
  split
  · rename_i hsign
    subst hsign
    exact errorLiteral_reads s
  split
  · rename_i hcomparison
    exact comparison_reads hcomparison s
  split
  · rename_i hnumber
    obtain ⟨whole, point, power, htext, hparts⟩ := isNumber_of_number hnumber
    change Reads .number _ _
    rw [htext]
    exact .number hparts
  split
  · rename_i hword
    exact word_reads hword
  · rename_i hsign hcomparison hnumber hword
    rw [not_or] at hcomparison
    exact .stray ⟨hblank, hquote, hsingle, ⟨hsign, hcomparison⟩, by simpa using hnumber,
      by simpa using hword⟩

/-- A token that is taken off has the form of its kind. -/
theorem reads_of_first {c : Char} {s : Text} {l : Lexeme} (h : first c s = .ok l) :
    Reads l.kind l.text l.rest := by
  unfold first at h
  split at h
  · rename_i hblank
    cases h
    refine .blank (by simp) (fun d hd => ?_) (stopsBefore_dropWhile _ s)
    rcases List.mem_cons.mp hd with rfl | hd
    · exact hblank
    · exact List.mem_takeWhile_imp hd
  rename_i hblank
  split at h
  · rename_i hc
    subst hc
    split at h
    · rename_i run rest hrun
      cases h
      obtain ⟨hcloses, hstop⟩ := closes_of_closeQuote hrun
      exact .string hcloses hstop
    · cases h
  rename_i hdouble
  split at h
  · rename_i hc
    subst hc
    split at h
    · rename_i run rest hrun
      cases h
      obtain ⟨hcloses, hstop⟩ := closes_of_closeQuote hrun
      exact quotedSheet_reads hcloses hstop
    · cases h
  · rename_i hsingle
    cases h
    exact unquoted_reads (by simpa using hblank) ⟨hdouble, hsingle⟩

theorem of_isDigit {P : Char → Prop} (h : ∀ n ∈ List.range' 48 10, P (Char.ofNat n)) {c : Char}
    (hc : c.isDigit) : P c := by
  rw [isDigit_iff] at hc
  exact of_code h ⟨hc.1, by omega⟩

theorem first_eq_unquoted {c : Char} (hblank : isBlank c = false) (hquote : c ≠ '"' ∧ c ≠ '\'')
    (s : Text) : first c s = .ok (unquoted c s) := by
  simp [first, hblank, hquote]

theorem of_single?_eq_some {c : Char} {kind : Token.Kind} (h : single? c = some kind) :
    c = '(' ∧ kind = .openParen ∨ c = ')' ∧ kind = .closeParen ∨ c = ',' ∧ kind = .comma ∨
      c ∈ ['+', '-', '*', '/', '^', '&', '=', '%'] ∧ kind = .operator := by
  unfold single? at h
  split at h
  · rename_i hc
    exact .inl ⟨hc, (Option.some.inj h).symm⟩
  split at h
  · rename_i hc
    exact .inr (.inl ⟨hc, (Option.some.inj h).symm⟩)
  split at h
  · rename_i hc
    exact .inr (.inr (.inl ⟨hc, (Option.some.inj h).symm⟩))
  split at h
  · rename_i hc
    exact .inr (.inr (.inr ⟨List.contains_iff_mem.mp hc, (Option.some.inj h).symm⟩))
  · simp at h

theorem mem_of_single?_eq_some {c : Char} {kind : Token.Kind} (h : single? c = some kind) :
    c ∈ ['(', ')', ',', '+', '-', '*', '/', '^', '&', '=', '%'] := by
  rcases of_single?_eq_some h with ⟨rfl, -⟩ | ⟨rfl, -⟩ | ⟨rfl, -⟩ | ⟨hc, -⟩
  · decide
  · decide
  · decide
  · exact List.mem_append_right ['(', ')', ','] hc

theorem first_single {c : Char} {kind : Token.Kind} (h : single? c = some kind) (s : Text) :
    first c s = .ok ⟨kind, [c], s⟩ := by
  have hall : ['(', ')', ',', '+', '-', '*', '/', '^', '&', '=', '%'].all
      (fun d => !isBlank d && d != '"' && d != '\'') := by decide
  have hc := List.all_eq_true.mp hall c (mem_of_single?_eq_some h)
  simp only [Bool.and_eq_true, Bool.not_eq_true', bne_iff_ne, ne_eq] at hc
  rw [first_eq_unquoted hc.1.1 ⟨hc.1.2, hc.2⟩, unquoted, h]

theorem first_numberSign (s : Text) : first '#' s = .ok (errorLiteral ('#' :: s)) := rfl

theorem first_comparison {c : Char} (h : c = '<' ∨ c = '>') (s : Text) :
    first c s = .ok (comparison c s) := by
  rcases h with rfl | rfl <;> rfl

theorem first_number {c : Char} {s : Text} (h : startsNumber c s) :
    first c s = .ok (number (c :: s)) := by
  have hplain : isBlank c = false ∧ (c ≠ '"' ∧ c ≠ '\'') ∧ single? c = none ∧
      c ≠ '#' ∧ ¬(c = '<' ∨ c = '>') := by
    rcases Bool.or_eq_true .. ▸ h with hc | hc
    · exact of_isDigit (P := fun c => isBlank c = false ∧ (c ≠ '"' ∧ c ≠ '\'') ∧ single? c = none ∧
        c ≠ '#' ∧ ¬(c = '<' ∨ c = '>')) (by decide) hc
    · obtain ⟨rfl, -⟩ : c = '.' ∧ _ := by simpa using hc
      decide
  obtain ⟨hblank, hquote, hsingle, hsign, hcomparison⟩ := hplain
  rw [first_eq_unquoted hblank hquote, unquoted, hsingle]
  simp [hsign, hcomparison, h]

/-- The characters that tell other tokens from words. -/
def specials : Text :=
  ['"', '\'', '#', '<', '>', '(', ')', ',', '+', '-', '*', '/', '^', '&', '=', '%', '.', '0', '1',
    '2', '3', '4', '5', '6', '7', '8', '9']

theorem not_mem_specials_of_isWordStart {c : Char} (h : isWordStart c) : c ∉ specials := by
  have hspecial : specials.all (!isWordStart ·) := by decide
  intro hc
  simpa [h] using List.all_eq_true.mp hspecial c hc

theorem first_word {c : Char} (h : isWordStart c) (s : Text) : first c s = .ok (word (c :: s)) := by
  have hnot := not_mem_specials_of_isWordStart h
  have hne : ∀ d ∈ specials, c ≠ d := by
    rintro d hd rfl
    exact hnot hd
  have hblank : isBlank c = false := by
    rw [Bool.eq_false_iff]
    intro hblank
    have hword := isWordChar_of_isWordStart h
    simp [isWordChar_of_isBlank hblank] at hword
  have hdigit : c.isDigit = false := by
    rw [Bool.eq_false_iff]
    intro hdigit
    exact hnot (of_isDigit (P := (· ∈ specials)) (by decide) hdigit)
  have hsingle : single? c = none := by
    rw [Option.eq_none_iff_forall_ne_some]
    intro kind hkind
    have hsub : ['(', ')', ',', '+', '-', '*', '/', '^', '&', '=', '%'] ⊆ specials := by decide
    exact hnot (hsub (mem_of_single?_eq_some hkind))
  rw [first_eq_unquoted hblank ⟨hne '"' (by decide), hne '\'' (by decide)⟩, unquoted, hsingle]
  simp [startsNumber, hne '#' (by decide), hne '<' (by decide), hne '>' (by decide),
    hne '.' (by decide), hdigit, h]

theorem qualified_range {left right rest : Text} (sheet head : Text) (hleft : isBound left)
    (hright : isBound right) (hstop : StopsBefore isWordChar rest) :
    qualified sheet head (left ++ ':' :: (right ++ rest)) =
      ⟨.range (some sheet), head ++ (left ++ ':' :: right), rest⟩ := by
  have hall := isWordChar_of_isWord (isWord_of_isBound hleft)
  have hcolon : StopsBefore isWordChar (':' :: (right ++ rest)) := stopsBefore_cons.mpr rfl
  simp only [qualified, takeWhile_append_of_stopsBefore hall hcolon,
    dropWhile_append_of_stopsBefore hall hcolon, rangeTail?_colon hleft hright hstop,
    List.append_assoc]

theorem qualified_word {w rest : Text} (sheet head : Text) (hall : ∀ c ∈ w, isWordChar c)
    (hstop : StopsBefore isWordChar rest) (htail : rangeTail? w rest = none) :
    qualified sheet head (w ++ rest) =
      ⟨if isCell w then .cell (some sheet) else .name, head ++ w, rest⟩ := by
  simp only [qualified, takeWhile_append_of_stopsBefore hall hstop,
    dropWhile_append_of_stopsBefore hall hstop, htail]

theorem word_eq_bare {w rest : Text} (hword : isWord w) (hstop : StopsBefore endsBare rest) :
    word (w ++ rest) = bare w rest := by
  have hall := isWordChar_of_isWord hword
  have hstop' : StopsBefore isWordChar rest := hstop.mono fun c hc => by simp [endsBare, hc]
  simp only [word, takeWhile_append_of_stopsBefore hall hstop',
    dropWhile_append_of_stopsBefore hall hstop']
  cases rest with
  | nil => rfl
  | cons c rest =>
      have hne : c ≠ '!' ∧ c ≠ '(' := by
        rw [stopsBefore_cons] at hstop
        constructor <;> rintro rfl <;> simp [endsBare] at hstop
      split
      · rename_i heq
        exact absurd (List.cons.inj heq).1 hne.1
      · rename_i heq
        exact absurd (List.cons.inj heq).1 hne.2
      · rfl

theorem word_function {name : Text} (hname : isWord name) (rest : Text) :
    word (name ++ '(' :: rest) = ⟨.function, name, '(' :: rest⟩ := by
  have hall := isWordChar_of_isWord hname
  have hstop : StopsBefore isWordChar ('(' :: rest) := stopsBefore_cons.mpr rfl
  simp only [word, takeWhile_append_of_stopsBefore hall hstop,
    dropWhile_append_of_stopsBefore hall hstop]

theorem word_qualified {name : Text} (hname : isWord name) (rest : Text) :
    word (name ++ '!' :: rest) = qualified name (name ++ ['!']) rest := by
  have hall := isWordChar_of_isWord hname
  have hstop : StopsBefore isWordChar ('!' :: rest) := stopsBefore_cons.mpr rfl
  simp only [word, takeWhile_append_of_stopsBefore hall hstop,
    dropWhile_append_of_stopsBefore hall hstop]

theorem bare_range {left right rest : Text} (hleft : isBound left) (hright : isBound right)
    (hstop : StopsBefore isWordChar rest) :
    bare left (':' :: (right ++ rest)) = ⟨.range none, left ++ ':' :: right, rest⟩ := by
  simp only [bare, rangeTail?_colon hleft hright hstop]

theorem eq_numberSign_of_toUpper {c : Char} (h : c.toUpper = '#') : c = '#' := by
  have hlower : ¬ c.isLower := by
    intro hlower
    rw [isLower_iff] at hlower
    have hne : ∀ n ∈ List.range' 97 26, (Char.ofNat n).toUpper ≠ '#' := by decide
    exact of_code (P := (·.toUpper ≠ '#')) hne ⟨hlower.1, by omega⟩ h
  rwa [Char.toUpper_eq_of_not_isLower hlower] at h

theorem eq_cons_of_sameIgnoringCase_errorLiteral {e text : Text} (he : e ∈ errorLiterals)
    (hsame : sameIgnoringCase e text) : ∃ s, text = '#' :: s := by
  have hhead : ∀ e ∈ errorLiterals, (asciiUpper e).head? = some '#' := by decide
  have hupper : asciiUpper e = asciiUpper text := by simpa [sameIgnoringCase] using hsame
  have htext := hhead e he
  rw [hupper] at htext
  cases text with
  | nil => simp [asciiUpper] at htext
  | cons c s =>
      obtain rfl := eq_numberSign_of_toUpper (c := c) (by simpa [asciiUpper] using htext)
      exact ⟨s, rfl⟩

theorem quotedSheet_alone {run rest : Text}
    (hstop : StopsBefore (fun c => c == '\'' || c == '!') rest) :
    quotedSheet run rest = ⟨.other, '\'' :: run, rest⟩ := by
  unfold quotedSheet
  split
  · simp at hstop
  · rfl

theorem errorLiteral_append_of_mem {e text rest : Text} (he : e ∈ errorLiterals)
    (hsame : sameIgnoringCase e text) :
    errorLiteral (text ++ rest) = ⟨.errorLiteral, text, rest⟩ := by
  have hupper : asciiUpper e = asciiUpper text := by simpa [sameIgnoringCase] using hsame
  have hlength : e.length = text.length := by
    simpa [asciiUpper] using congrArg List.length hupper
  have hfront : asciiUpper e <+: asciiUpper (text ++ rest) := by
    rw [hupper, asciiUpper, asciiUpper, List.map_append]
    exact List.prefix_append ..
  have hfind : errorLiterals.find?
      (fun e => sameIgnoringCase e ((text ++ rest).take e.length)) = some e := by
    cases hfind : errorLiterals.find?
        (fun e => sameIgnoringCase e ((text ++ rest).take e.length)) with
    | none =>
        have := List.find?_eq_none.mp hfind e he
        exact absurd (sameIgnoringCase_take_iff.mpr hfront) this
    | some e' =>
        have he' := List.mem_of_find?_eq_some hfind
        have hmatch : sameIgnoringCase e' ((text ++ rest).take e'.length) := by
          simpa using List.find?_some hfind
        have hfront' := sameIgnoringCase_take_iff.mp hmatch
        rcases List.prefix_or_prefix_of_prefix hfront hfront' with h | h
        · rw [eq_of_isPrefixOf_errorLiteral e he e' he' (List.isPrefixOf_iff_prefix.mpr h)]
        · rw [eq_of_isPrefixOf_errorLiteral e' he' e he (List.isPrefixOf_iff_prefix.mpr h)]
  simp only [errorLiteral, hfind, hlength, List.take_left', List.drop_left']

/-- The text is not empty, and this token is taken off its front. -/
def Starts (s : Text) (l : Lexeme) : Prop := ∃ c rest, s = c :: rest ∧ first c rest = .ok l

theorem Starts.unique {s : Text} {l l' : Lexeme} (h : Starts s l) (h' : Starts s l') : l = l' := by
  obtain ⟨c, rest, rfl, hfirst⟩ := h
  obtain ⟨c', rest', heq, hfirst'⟩ := h'
  obtain ⟨rfl, rfl⟩ := List.cons.inj heq
  exact Except.ok.inj (hfirst.symm.trans hfirst')

theorem starts_word {w : Text} (hword : isWord w) (s : Text) : Starts (w ++ s) (word (w ++ s)) := by
  cases w with
  | nil => exact absurd hword (by decide)
  | cons c w => exact ⟨c, w ++ s, rfl, first_word (isWord_cons.mp hword).1 _⟩

theorem starts_sheetHead {sheet head : Text} (h : SheetHead sheet head) (s : Text) :
    Starts (head ++ s) (qualified sheet head s) := by
  cases h with
  | @quoted run hcloses =>
      have hstop : StopsBefore (· == '\'') ('!' :: s) := stopsBefore_cons.mpr rfl
      refine ⟨'\'', run ++ '!' :: s, by simp, ?_⟩
      have hquote : isBlank '\'' = false := by decide
      simp [first, hquote, closeQuote_append_of_closes hcloses hstop, quotedSheet]
  | plain hname =>
      have hstarts := starts_word hname ('!' :: s)
      rw [word_qualified hname] at hstarts
      simpa using hstarts

theorem starts_comparison {c : Char} {s : Text} {l : Lexeme} (hc : c = '<' ∨ c = '>')
    (h : comparison c s = l) : Starts (c :: s) l :=
  ⟨c, s, rfl, h ▸ first_comparison hc s⟩

/-- A text with the form of a token is taken off as this token. -/
theorem Reads.starts {kind : Token.Kind} {text rest : Text} (h : Reads kind text rest) :
    Starts (text ++ rest) ⟨kind, text, rest⟩ := by
  cases h with
  | blank hne hall hstop =>
      cases text with
      | nil => exact absurd rfl hne
      | cons c run =>
          have hrun : ∀ d ∈ run, isBlank d := fun d hd => hall d (by simp [hd])
          refine ⟨c, run ++ rest, rfl, ?_⟩
          simp [first, hall c (by simp), takeWhile_append_of_stopsBefore hrun hstop,
            dropWhile_append_of_stopsBefore hrun hstop]
  | @string run _ hcloses hstop =>
      have hquote : isBlank '"' = false := by decide
      refine ⟨'"', run ++ rest, rfl, ?_⟩
      simp [first, hquote, closeQuote_append_of_closes hcloses hstop]
  | @number whole point power _ hparts =>
      obtain ⟨c, s, heq, hstart⟩ := startsNumber_of_isNumber hparts
      refine ⟨c, s, heq, ?_⟩
      rw [first_number hstart, ← heq, number_append_of_isNumber hparts]
  | errorLiteral he hsame =>
      obtain ⟨s, rfl⟩ := eq_cons_of_sameIgnoringCase_errorLiteral he hsame
      refine ⟨'#', s ++ rest, rfl, ?_⟩
      rw [first_numberSign, ← List.cons_append, errorLiteral_append_of_mem he hsame]
  | @function _ s hname =>
      have hstarts := starts_word hname ('(' :: s)
      rwa [word_function hname] at hstarts
  | @range left right _ hleft hright hstop =>
      have hstarts := starts_word (isWord_of_isBound hleft) (':' :: (right ++ rest))
      have hcolon : StopsBefore endsBare (':' :: (right ++ rest)) := stopsBefore_cons.mpr rfl
      rw [word_eq_bare (isWord_of_isBound hleft) hcolon, bare_range hleft hright hstop] at hstarts
      simpa using hstarts
  | cell hcell hstop htail =>
      have hword := isWord_of_isBound (isBound_of_isCell hcell)
      have hstarts := starts_word hword rest
      rw [word_eq_bare hword hstop] at hstarts
      simpa [bare, htail, hcell] using hstarts
  | boolean hboolean hstop htail =>
      have hstarts := starts_word (isWord_of_isBoolean hboolean) rest
      rw [word_eq_bare (isWord_of_isBoolean hboolean) hstop] at hstarts
      simpa [bare, htail, hboolean, not_isCell_of_isBoolean hboolean] using hstarts
  | name hword hcell hboolean hstop htail =>
      have hstarts := starts_word hword rest
      rw [word_eq_bare hword hstop] at hstarts
      simpa [bare, htail, hcell, hboolean] using hstarts
  | @sheetRange sheet head left right _ hhead hleft hright hstop =>
      have hstarts := starts_sheetHead hhead (left ++ ':' :: (right ++ rest))
      rw [qualified_range sheet head hleft hright hstop] at hstarts
      simpa using hstarts
  | @sheetCell sheet head word _ hhead hcell hstop htail =>
      have hall := isWordChar_of_isWord (isWord_of_isBound (isBound_of_isCell hcell))
      have hstarts := starts_sheetHead hhead (word ++ rest)
      rw [qualified_word sheet head hall hstop htail] at hstarts
      simpa [hcell] using hstarts
  | @sheetName sheet head word _ hhead hall hcell hstop htail =>
      have hstarts := starts_sheetHead hhead (word ++ rest)
      rw [qualified_word sheet head hall hstop htail] at hstarts
      simpa [hcell] using hstarts
  | @symbol c _ _ hsingle => exact ⟨c, rest, rfl, first_single hsingle rest⟩
  | @comparison c _ hc hstop =>
      refine starts_comparison hc ?_
      cases rest with
      | nil => rfl
      | cons d rest =>
          have hd : ¬(d = '=' ∨ c = '<' ∧ d = '>') := by simpa using hstop
          exact if_neg hd
  | @doubleComparison c d _ hc hd => exact starts_comparison hc (if_pos hd)
  | @quotedRun run _ hcloses hstop =>
      have hquote : isBlank '\'' = false := by decide
      have hstop' : StopsBefore (· == '\'') rest := hstop.mono fun c hc => by simp [hc]
      refine ⟨'\'', run ++ rest, rfl, ?_⟩
      simp [first, hquote, closeQuote_append_of_closes hcloses hstop', quotedSheet_alone hstop]
  | numberSign hnone =>
      refine ⟨'#', rest, rfl, ?_⟩
      have hfind : errorLiterals.find?
          (fun e => sameIgnoringCase e (('#' :: rest).take e.length)) = none :=
        List.find?_eq_none.mpr fun e he => by simp [hnone e he]
      rw [first_numberSign]
      simp [Lexeme.errorLiteral, hfind]
  | @stray c _ hstray =>
      obtain ⟨hblank, hquote, hsingle, ⟨hsign, hcomparison⟩, hnumber, hword⟩ := hstray
      refine ⟨c, rest, rfl, ?_⟩
      rw [first_eq_unquoted hblank hquote, unquoted, hsingle]
      simp [hsign, hcomparison, hnumber, hword]

theorem starts_iff {s : Text} {l : Lexeme} :
    Starts s l ↔ l.text ++ l.rest = s ∧ Reads l.kind l.text l.rest := by
  constructor
  · rintro ⟨c, rest, rfl, h⟩
    exact ⟨first_append h, reads_of_first h⟩
  · rintro ⟨rfl, h⟩
    exact h.starts

theorem Reads.text_ne_nil {kind : Token.Kind} {text rest : Text} (h : Reads kind text rest) :
    text ≠ [] := by
  obtain ⟨c, s, -, hfirst⟩ := h.starts
  exact first_text_ne_nil hfirst

theorem Reads.of_first {kind k : Token.Kind} {c : Char} {text rest : Text}
    (h : Reads kind (c :: text) rest) (hfirst : ∀ s, first c s = .ok ⟨k, [c], s⟩) :
    kind = k ∧ text = [] := by
  have hsingle : Starts (c :: text ++ rest) ⟨k, [c], text ++ rest⟩ :=
    ⟨c, text ++ rest, rfl, hfirst _⟩
  have heq := h.starts.unique hsingle
  exact ⟨congrArg Lexeme.kind heq, (List.cons.inj (congrArg Lexeme.text heq)).2⟩

theorem Reads.stopsBefore_isBlank_iff {kind : Token.Kind} {text rest : Text}
    (h : Reads kind text rest) (s : Text) :
    StopsBefore isBlank (text ++ s) ↔ kind ≠ .blank := by
  obtain ⟨c, t, heq, hfirst⟩ := h.starts
  have hhead : StopsBefore isBlank (text ++ s) ↔ isBlank c = false := by
    cases text with
    | nil => exact absurd rfl h.text_ne_nil
    | cons d text =>
        obtain rfl := (List.cons.inj heq).1
        exact stopsBefore_cons
  rw [hhead]
  constructor
  · rintro hc rfl
    cases h with
    | blank _ hall _ =>
        cases text with
        | nil => contradiction
        | cons d text =>
            obtain rfl := (List.cons.inj heq).1
            simp [hall d (by simp)] at hc
    | symbol hsingle => simpa using of_single?_eq_some hsingle
  · intro hkind
    rw [Bool.eq_false_iff]
    intro hc
    rw [first, if_pos hc] at hfirst
    exact hkind (congrArg Lexeme.kind (Except.ok.inj hfirst)).symm

theorem Reads.blank_stop {text rest : Text} (h : Reads .blank text rest) :
    StopsBefore isBlank rest := by
  cases h with
  | blank _ _ hstop => exact hstop
  | symbol hsingle => simpa using of_single?_eq_some hsingle

theorem Reads.blank_isAllBlank {text rest : Text} (h : Reads .blank text rest) :
    isAllBlank text = true := by
  cases h with
  | blank _ hall _ => exact List.all_eq_true.mpr hall
  | symbol hsingle => simpa using of_single?_eq_some hsingle

theorem Reads.function_isWord {text rest : Text} (h : Reads .function text rest) : isWord text := by
  cases h with
  | function hname => exact hname
  | symbol hsingle => simpa using of_single?_eq_some hsingle

theorem Reads.function_paren {text rest : Text} (h : Reads .function text rest) :
    ∃ s, rest = '(' :: s := by
  cases h with
  | function => exact ⟨_, rfl⟩
  | symbol hsingle => simpa using of_single?_eq_some hsingle

end ColumnFormula.Lexeme
