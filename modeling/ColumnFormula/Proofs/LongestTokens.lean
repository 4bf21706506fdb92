import ColumnFormula.Proofs.Lookahead
import ColumnFormula.Proofs.TokenLanguages
import ColumnFormula.Proofs.TokenSequence

namespace ColumnFormula

namespace Lexeme

open Text

theorem IsNumber.of_append {whole point power s rest : Text}
    (h : IsNumber whole point power (s ++ rest)) : IsNumber whole point power s :=
  { h with
    noDigit := h.noDigit.of_append
    noPoint := fun hpoint hpower => (h.noPoint hpoint hpower).of_append
    noExponent := by
      intro hpower
      rw [exponent_eq_nil_iff]
      intro p hp hfront
      exact exponent_eq_nil_iff.mp (h.noExponent hpower) p hp
        (hfront.trans (List.prefix_append s rest)) }

theorem NoLiteral.of_append {s rest : Text} (h : NoLiteral (s ++ rest)) : NoLiteral s := by
  apply h.imp
  intro e _ text _ hfront
  exact hfront.trans (List.prefix_append ('#' :: s) rest)

theorem IsStray.of_append {c : Char} {s rest : Text} (h : IsStray c (s ++ rest)) : IsStray c s := by
  obtain ⟨hdigit, hpoint⟩ := startsNumber_eq_false_iff.mp h.startsNumber
  exact { h with
    startsNumber := startsNumber_eq_false_iff.mpr ⟨hdigit, fun hc => (hpoint hc).of_append⟩ }

/-- A range stands at the front of the text. -/
def StartsRange (s : Text) : Prop := ∃ sheet text rest, Starts s ⟨.range sheet, text, rest⟩

theorem reads_or_startsRange_bare {kind : Token.Kind} {word s : Text} (hword : isWord word)
    (hstop : StopsBefore endsBare s) (h : rangeTail? word s = none → Reads kind word s) :
    Reads kind word s ∨ StartsRange (word ++ s) := by
  cases htail : rangeTail? word s with
  | none => exact .inl (h htail)
  | some found =>
      have hstarts := starts_word hword s
      rw [word_eq_bare hword hstop] at hstarts
      simp only [bare, htail] at hstarts
      exact .inr ⟨none, _, _, hstarts⟩

theorem reads_or_startsRange_qualified {kind : Token.Kind} {sheet head word s : Text}
    (hhead : SheetHead sheet head) (hall : ∀ c ∈ word, isWordChar c)
    (hstop : StopsBefore isWordChar s)
    (h : rangeTail? word s = none → Reads kind (head ++ word) s) :
    Reads kind (head ++ word) s ∨ StartsRange (head ++ word ++ s) := by
  cases htail : rangeTail? word s with
  | none => exact .inl (h htail)
  | some found =>
      have hstarts := starts_sheetHead hhead (word ++ s)
      simp only [qualified, takeWhile_append_of_stopsBefore hall hstop,
        dropWhile_append_of_stopsBefore hall hstop, htail] at hstarts
      rw [List.append_assoc]
      exact .inr ⟨some sheet, _, _, hstarts⟩

/-- In front of a part of what follows it a token is the same token, unless the part lacks what
kept two bounds from being a range. -/
theorem Reads.of_append {kind : Token.Kind} {text s rest : Text} (h : Reads kind text (s ++ rest))
    (hfunction : kind ≠ .function) :
    Reads kind text s ∨ (∀ sheet, kind ≠ .range sheet) ∧ StartsRange (text ++ s) := by
  generalize hbehind : s ++ rest = behind at h
  have hpart : ∀ {p}, StopsBefore p behind → StopsBefore p s := by
    rintro p hp
    subst hbehind
    exact hp.of_append
  cases h with
  | blank hne hall hstop => exact .inl (.blank hne hall (hpart hstop))
  | string hcloses hstop => exact .inl (.string hcloses (hpart hstop))
  | number hparts =>
      subst hbehind
      exact .inl (.number hparts.of_append)
  | errorLiteral he hsame => exact .inl (.errorLiteral he hsame)
  | function => contradiction
  | range hleft hright hstop => exact .inl (.range hleft hright (hpart hstop))
  | cell hcell hstop _ =>
      have hword := isWord_of_isBound (isBound_of_isCell hcell)
      exact (reads_or_startsRange_bare hword (hpart hstop) (.cell hcell (hpart hstop))).imp_right
        (⟨nofun, ·⟩)
  | boolean hboolean hstop _ =>
      have hword := isWord_of_isBoolean hboolean
      exact (reads_or_startsRange_bare hword (hpart hstop)
        (.boolean hboolean (hpart hstop))).imp_right (⟨nofun, ·⟩)
  | name hword hcell hboolean hstop _ =>
      exact (reads_or_startsRange_bare hword (hpart hstop)
        (.name hword hcell hboolean (hpart hstop))).imp_right (⟨nofun, ·⟩)
  | sheetRange hhead hleft hright hstop =>
      exact .inl (.sheetRange hhead hleft hright (hpart hstop))
  | sheetCell hhead hcell hstop _ =>
      have hall := isWordChar_of_isWord (isWord_of_isBound (isBound_of_isCell hcell))
      exact (reads_or_startsRange_qualified hhead hall (hpart hstop)
        (.sheetCell hhead hcell (hpart hstop))).imp_right (⟨nofun, ·⟩)
  | sheetName hhead hall hcell hstop _ =>
      exact (reads_or_startsRange_qualified hhead hall (hpart hstop)
        (.sheetName hhead hall hcell (hpart hstop))).imp_right (⟨nofun, ·⟩)
  | symbol hsingle => exact .inl (.symbol hsingle)
  | comparison hc hstop => exact .inl (.comparison hc (hpart hstop))
  | doubleComparison hc hd => exact .inl (.doubleComparison hc hd)
  | quotedRun hcloses hstop => exact .inl (.quotedRun hcloses (hpart hstop))
  | numberSign hnone =>
      subst hbehind
      exact .inl (.numberSign (NoLiteral.of_append hnone))
  | stray hstray =>
      subst hbehind
      exact .inl (.stray hstray.of_append)

end Lexeme

namespace Pattern

open Lexeme
open Text (StopsBefore)

/-- The text is in the language, and with more of what follows it is not. -/
def IsLongest (L : Language Char) (text rest : Text) : Prop :=
  text ∈ L ∧ ∀ more, more <+: rest → text ++ more ∈ L → more = []

theorem reads_operator {s : Text} (h : s ∈ operators) : Reads .operator s [] := by
  have hnil : ∀ {p}, StopsBefore p [] := Text.stopsBefore_nil _
  rcases List.mem_append.mp h with h | h
  · obtain ⟨c, hc, rfl⟩ := List.mem_map.mp h
    have hall : ['+', '-', '*', '/', '^', '&', '=', '%'].all (single? · == some .operator) := by
      decide
    exact .symbol (beq_iff_eq.mp (List.all_eq_true.mp hall c hc))
  · simp only [List.mem_cons, List.not_mem_nil, or_false] at h
    rcases h with rfl | rfl | rfl | rfl | rfl
    · exact .comparison (.inl rfl) hnil
    · exact .comparison (.inr rfl) hnil
    · exact .doubleComparison (.inl rfl) (.inl rfl)
    · exact .doubleComparison (.inr rfl) (.inl rfl)
    · exact .doubleComparison (.inl rfl) (.inr ⟨rfl, rfl⟩)

/-- A text in the language of a kind is a token where nothing follows it, and a range only for the
kinds of ranges; but functions need arguments, and single characters may be something else. -/
theorem exists_reads_of_mem_language {kind : Token.Kind} {s : Text} (h : s ∈ language kind)
    (hfunction : kind ≠ .function) :
    (∃ c, s = [c]) ∨ ∃ kind', Reads kind' s [] ∧
      ((∃ sheet, kind' = .range sheet) → ∃ sheet, kind = .range sheet) := by
  have hnil : ∀ {p}, StopsBefore p [] := Text.stopsBefore_nil _
  cases kind with
  | blank =>
      obtain ⟨hne, hall⟩ := mem_runOf_iff.mp h
      exact .inr ⟨_, .blank hne hall hnil, nofun⟩
  | string =>
      obtain ⟨run, hcloses, rfl⟩ := mem_quoted_iff.mp h
      exact .inr ⟨_, .string hcloses hnil, nofun⟩
  | number =>
      obtain ⟨whole, point, power, hparts, rfl⟩ := mem_numeral_iff.mp h
      exact .inr ⟨_, .number hparts, nofun⟩
  | boolean => exact .inr ⟨_, .boolean (mem_truthValues_iff.mp h) hnil rfl, nofun⟩
  | errorLiteral =>
      obtain ⟨e, he, hsame⟩ := h
      exact .inr ⟨_, .errorLiteral he hsame, nofun⟩
  | function => contradiction
  | name =>
      rcases h with ⟨hword, hother⟩ | hqualified
      · have hcell : isCell s = false := by
          rw [Bool.eq_false_iff]
          exact fun hcell => hother (.inl (isCell_iff_mem.mp hcell))
        have hboolean : isBoolean s = false := by
          rw [Bool.eq_false_iff]
          exact fun hboolean => hother (.inr (mem_truthValues_iff.mpr hboolean))
        exact .inr ⟨_, .name (mem_word_iff.mp hword) hcell hboolean hnil rfl, nofun⟩
      · obtain ⟨head, hhead, w, ⟨hall, hnot⟩, rfl⟩ := Language.mem_mul.mp hqualified
        obtain ⟨sheet, hhead⟩ := mem_sheetHead_iff.mp hhead
        have hcell : isCell w = false := by
          rw [Bool.eq_false_iff]
          exact fun hcell => hnot (isCell_iff_mem.mp hcell)
        exact .inr ⟨_, .sheetName hhead (mem_star_oneIn_iff.mp hall) hcell hnil rfl, nofun⟩
  | cell sheet =>
      cases sheet with
      | none => exact .inr ⟨_, .cell (isCell_iff_mem.mpr h) hnil rfl, nofun⟩
      | some _ =>
          obtain ⟨head, hhead, w, hcell, rfl⟩ := Language.mem_mul.mp h
          obtain ⟨sheet, hhead⟩ := mem_sheetHead_iff.mp hhead
          exact .inr ⟨_, .sheetCell hhead (isCell_iff_mem.mpr hcell) hnil rfl, nofun⟩
  | range sheet =>
      cases sheet with
      | none =>
          obtain ⟨left, right, hleft, hright, rfl⟩ := mem_range_iff.mp h
          exact .inr ⟨_, .range hleft hright hnil, fun _ => ⟨_, rfl⟩⟩
      | some _ =>
          obtain ⟨head, hhead, _, hbounds, rfl⟩ := Language.mem_mul.mp h
          obtain ⟨sheet, hhead⟩ := mem_sheetHead_iff.mp hhead
          obtain ⟨left, right, hleft, hright, rfl⟩ := mem_range_iff.mp hbounds
          exact .inr ⟨_, .sheetRange hhead hleft hright hnil, fun _ => ⟨_, rfl⟩⟩
  | operator => exact .inr ⟨_, reads_operator h, nofun⟩
  | openParen => exact .inl ⟨_, h⟩
  | closeParen => exact .inl ⟨_, h⟩
  | comma => exact .inl ⟨_, h⟩
  | other =>
      rcases h with ⟨c, -, rfl⟩ | hquoted
      · exact .inl ⟨c, rfl⟩
      · obtain ⟨run, hcloses, rfl⟩ := mem_quoted_iff.mp hquoted
        exact .inr ⟨_, .quotedRun hcloses hnil, nofun⟩

theorem isLongest_of_reads {kind : Token.Kind} {text rest : Text} (h : Reads kind text rest) :
    IsLongest (language kind) text rest := by
  refine ⟨mem_language_of_reads h, ?_⟩
  rintro more ⟨behind, rfl⟩ hmem
  by_cases hfunction : kind = .function
  · subst hfunction
    obtain ⟨s, hparen⟩ := h.function_paren
    cases more with
    | nil => rfl
    | cons c more =>
        obtain rfl : c = '(' := (List.cons.inj hparen).1
        have hchar := isWordChar_of_isWord (mem_word_iff.mp hmem) '(' (by simp)
        contradiction
  rcases exists_reads_of_mem_language hmem hfunction with ⟨c, hc⟩ | ⟨kind', halone, hrange⟩
  · have hlength := congrArg List.length hc
    have hpos := List.length_pos_iff.mpr h.text_ne_nil
    rw [List.length_append, List.length_singleton] at hlength
    exact List.length_eq_zero_iff.mp (by omega)
  have hstarts := halone.starts
  rw [List.append_nil] at hstarts
  rcases h.of_append hfunction with hpart | ⟨hnone, sheet, s, t, hother⟩
  · have heq := congrArg Lexeme.rest (hpart.starts.unique hstarts)
    exact heq
  · have heq := congrArg Lexeme.kind (hother.unique hstarts)
    obtain ⟨sheet', hkind⟩ := hrange ⟨sheet, heq.symm⟩
    exact absurd hkind (hnone sheet')

/-- What follows a token does not go on with it; behind the name of a function are its arguments. -/
def EndsBefore (kind : Token.Kind) (text rest : Text) : Prop :=
  match kind with
  | .blank => StopsBefore Text.isBlank rest
  | .string => StopsBefore (· == '"') rest
  | .number => StopsBefore Char.isDigit rest
  | .function => rest.head? = some '('
  | .boolean | .cell none => StopsBefore endsBare rest
  | .name | .cell (some _) | .range _ => StopsBefore isWordChar rest
  | .operator =>
      (text = ['<'] → StopsBefore (fun c => c == '=' || c == '>') rest) ∧
        (text = ['>'] → StopsBefore (· == '=') rest)
  | .errorLiteral | .openParen | .closeParen | .comma | .other => True

theorem endsBefore_of_single? {c : Char} {kind : Token.Kind} (h : single? c = some kind)
    (rest : Text) : EndsBefore kind [c] rest := by
  rcases of_single?_eq_some h with ⟨rfl, rfl⟩ | ⟨rfl, rfl⟩ | ⟨rfl, rfl⟩ | ⟨hc, rfl⟩
  · trivial
  · trivial
  · trivial
  · constructor
    · intro htext
      obtain rfl := List.singleton_inj.mp htext
      simp at hc
    · intro htext
      obtain rfl := List.singleton_inj.mp htext
      simp at hc

theorem endsBefore_of_reads {kind : Token.Kind} {text rest : Text} (h : Reads kind text rest) :
    EndsBefore kind text rest := by
  have hword : ∀ {s}, StopsBefore endsBare s → StopsBefore isWordChar s :=
    fun hstop => hstop.mono fun c hc => by simp [endsBare, hc]
  cases h with
  | blank _ _ hstop => exact hstop
  | string _ hstop => exact hstop
  | number hparts => exact hparts.noDigit
  | errorLiteral => trivial
  | function => rfl
  | range _ _ hstop => exact hstop
  | cell _ hstop _ => exact hstop
  | boolean _ hstop _ => exact hstop
  | name _ _ _ hstop _ => exact hword hstop
  | sheetRange _ _ _ hstop => exact hstop
  | sheetCell _ _ hstop _ => exact hstop
  | sheetName _ _ _ hstop _ => exact hstop
  | symbol hsingle => exact endsBefore_of_single? hsingle rest
  | comparison _ hstop =>
      constructor
      · intro htext
        obtain rfl := List.singleton_inj.mp htext
        simpa using hstop
      · intro htext
        obtain rfl := List.singleton_inj.mp htext
        simpa using hstop
  | doubleComparison =>
      constructor <;> simp
  | quotedRun | numberSign | stray => trivial

end Pattern

namespace Token

open Pattern (EndsBefore IsLongest language)

/-- Every token of a formula is the longest text of its kind where it stands. -/
theorem tokenize_isLongest {formula : Text} {tokens : List Token}
    (h : tokenize formula = .ok tokens) :
    ∀ front t back, tokens = front ++ t :: back →
      formula = render front ++ (t.text ++ render back) ∧
        IsLongest (language t.kind) t.text (render back) ∧
        EndsBefore t.kind t.text (render back) := by
  rintro front t back rfl
  obtain ⟨hrender, hlexed, -⟩ := tokenize_eq_ok_iff.mp h
  obtain ⟨hreads, -⟩ := hlexed.append_right
  refine ⟨?_, Pattern.isLongest_of_reads hreads, Pattern.endsBefore_of_reads hreads⟩
  rw [← hrender, render_append, render_cons]

theorem tokenize_isLongest_numeral :
    let numeral : Token := ⟨.number, "1.5e3".toList, 1⟩
    let behind : List Token :=
      [⟨.name, "e".toList, 6⟩, ⟨.operator, "+".toList, 7⟩, ⟨.blank, " ".toList, 8⟩,
        ⟨.operator, "<>".toList, 9⟩, ⟨.boolean, "true".toList, 11⟩]
    let tokens : List Token := ⟨.operator, "=".toList, 0⟩ :: numeral :: behind
    tokenize "=1.5e3e+ <>true".toList = .ok tokens ∧
      IsLongest (language .number) "1.5e3".toList "e+ <>true".toList ∧
      EndsBefore .number "1.5e3".toList "e+ <>true".toList := by
  intro numeral behind tokens
  have h : tokenize "=1.5e3e+ <>true".toList = .ok tokens := by decide +kernel
  have hrender : render behind = "e+ <>true".toList := by decide +kernel
  obtain ⟨-, hlongest, hends⟩ :=
    tokenize_isLongest h [⟨.operator, "=".toList, 0⟩] numeral behind rfl
  rw [hrender] at hlongest hends
  exact ⟨h, hlongest, hends⟩

end Token

end ColumnFormula
