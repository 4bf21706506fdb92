import ColumnFormula.Proofs.ConvertedStrings
import ColumnFormula.Proofs.WordTokens

namespace ColumnFormula

open Lexeme Text

namespace Lexeme

theorem isWordChar_of_isNameChar {c : Char} (h : Identifier.isWordChar c) : isWordChar c := by
  rcases Bool.or_eq_true .. ▸ h with h | h
  · rcases Bool.or_eq_true .. ▸ h with h | h
    · exact isWordChar_of_isWordStart (isWordStart_of_isAlpha h)
    · exact isWordChar_of_isDigit h
  · obtain rfl := beq_iff_eq.mp h
    rfl

theorem isInert_of_isValid {s : Text} (h : Identifier.isValid s) : ∀ c ∈ s, isInert c :=
  fun c hc =>
    isInert_of_isWordChar (isWordChar_of_isNameChar (Identifier.isWordChar_of_isValid h c hc))

end Lexeme

namespace Token

/-- What may stand in the place of a word. -/
inductive WordPiece (u : Token) : Text → Prop
  | inert {c : Char} {s : Text} (isWordChar : isWordChar c) (all : ∀ d ∈ s, isInert d) :
      WordPiece u (c :: s)
  | quoted {run tail : Text} (closes : Closes '\'' run) (all : ∀ d ∈ tail, isInert d)
      (same : u.text = '\'' :: run ++ '!' :: tail) : WordPiece u ('\'' :: run ++ '!' :: tail)
  | emptied (function : u.kind = .function) : WordPiece u []

variable {u : Token} {rest tail : Text}

theorem WordPiece.of_isWord {word : Text} (h : isWord word) (hall : ∀ c ∈ tail, isInert c) :
    u.WordPiece (word ++ tail) := by
  obtain ⟨c, s, rfl, hc, hs⟩ := exists_cons_of_isWord h
  refine .inert (isWordChar_of_isWordStart hc) fun d hd => ?_
  rcases List.mem_append.mp hd with hd | hd
  · exact isInert_of_isWordChar (hs d hd)
  · exact hall d hd

theorem WordPiece.of_sheetHead {sheet head : Text} (h : SheetHead sheet head)
    (hall : ∀ c ∈ tail, isInert c) (hsame : u.text = head ++ tail) :
    u.WordPiece (head ++ tail) := by
  cases h with
  | quoted hcloses =>
      rw [List.append_assoc] at hsame ⊢
      exact .quoted hcloses hall hsame
  | plain hname =>
      rw [List.append_assoc]
      refine .of_isWord hname fun c hc => ?_
      rcases List.mem_cons.mp hc with rfl | hc
      · rfl
      · exact hall c hc

theorem wordPiece_text (h : Reads u.kind u.text rest) (hword : u.kind.hasWord) :
    u.WordPiece u.text := by
  obtain ⟨kind, text, position⟩ := u
  have hplain : ∀ {word : Text}, isWord word → WordPiece ⟨kind, text, position⟩ word := by
    intro word h
    have hpiece : WordPiece ⟨kind, text, position⟩ (word ++ []) := .of_isWord h (by simp)
    rwa [List.append_nil] at hpiece
  cases h with
  | blank | string | number | errorLiteral | comparison | doubleComparison | quotedRun | numberSign
  | stray => contradiction
  | symbol hsingle =>
      rw [hasWord_of_single? hsingle] at hword
      contradiction
  | function hname => exact hplain hname
  | range hleft hright =>
      refine .of_isWord (isWord_of_isBound hleft) fun c hc => ?_
      rcases List.mem_cons.mp hc with rfl | hc
      · rfl
      · exact isInert_of_isBound hright c hc
  | cell hcell => exact hplain (isWord_of_isBound (isBound_of_isCell hcell))
  | boolean hboolean => exact hplain (isWord_of_isBoolean hboolean)
  | name hname => exact hplain hname
  | sheetRange hhead hleft hright => exact .of_sheetHead hhead (isInert_range hleft hright) rfl
  | sheetCell hhead hcell =>
      exact .of_sheetHead hhead (isInert_of_isBound (isBound_of_isCell hcell)) rfl
  | sheetName hhead hall =>
      exact .of_sheetHead hhead (fun c hc => isInert_of_isWordChar (hall c hc)) rfl

theorem WordPiece.isInert {text : Text} (h : u.WordPiece text)
    (hstart : ¬ StopsBefore isWordStart text) : ∀ c ∈ text, isInert c := by
  cases h with
  | inert hc hall =>
      intro d hd
      rcases List.mem_cons.mp hd with rfl | hd
      · exact isInert_of_isWordChar hc
      · exact hall d hd
  | quoted => exact absurd (stopsBefore_cons.mpr rfl) hstart
  | emptied => exact absurd (stopsBefore_nil _) hstart

theorem isSpaced_of_hasWord (h : u.kind.hasWord) : u.isSpaced = false := by
  cases hkind : u.kind <;> simp [hkind, isSpaced, Kind.hasWord] at h ⊢

theorem isBlank_of_hasWord (h : u.kind.hasWord) : u.isBlank = false := by
  cases hkind : u.kind <;> simp [hkind, isBlank, Kind.hasWord] at h ⊢

theorem endsOperand_of_hasWord (h : u.kind.hasWord) (hfunction : u.kind ≠ .function) :
    u.endsOperand = true := by
  cases hkind : u.kind <;> simp [hkind, endsOperand, Kind.hasWord] at h hfunction ⊢

end Token

namespace Converter

open Token (WordPiece)

variable {t : Converter} {row : Option Nat} {u : Token} {tokens : List Token} {rest : Text}
  {blankBefore operand : Bool}

theorem Rewrites.wordPiece {piece : Text} (h : t.Rewrites u piece) (hnames : t.HasValidNames) :
    u.WordPiece piece := by
  have hidentifier : ∀ {s tail : Text}, Identifier.isValid s → (∀ c ∈ tail, isInert c) →
      u.WordPiece (s ++ tail) := by
    intro s tail hvalid htail
    cases s with
    | nil => contradiction
    | cons c s =>
        have hchars := Identifier.isWordChar_of_isValid hvalid
        refine .inert (isWordChar_of_isNameChar (hchars c (by simp))) fun d hd => ?_
        rcases List.mem_append.mp hd with hd | hd
        · exact isInert_of_isValid hvalid d (by simp [hd])
        · exact htail d hd
  cases h with
  | currentRow _ _ _ _ hknown =>
      exact .inert rfl (isInert_of_isValid (hnames.own.get?_isValid hknown))
  | fixedRow _ _ _ _ _ _ hknown =>
      rw [List.append_assoc]
      refine hidentifier (hnames.own.get?_isValid hknown) fun c hc => ?_
      rw [List.cons_append, List.mem_cons, List.mem_append, List.mem_singleton] at hc
      rcases hc with rfl | hc | rfl
      · rfl
      · exact isInert_of_isWordChar (isWordChar_of_isDigit (isDigit_of_mem_ofNat hc))
      · rfl
  | wholeColumn _ hresolves _ _ hknown =>
      have hheaders := hnames.of_resolvesTo hresolves
      refine hidentifier hheaders.table_isValid fun c hc => ?_
      rcases List.mem_cons.mp hc with rfl | hc
      · rfl
      · exact isInert_of_isValid (hheaders.get?_isValid hknown) c hc

theorem replace_cases (t : Converter) (row : Option Nat) (h : Reads u.kind u.text rest) :
    t.Rewrites u (t.replace row u).text ∨ (t.replace row u).text = u.text ∨
      u.kind = .function := by
  by_cases href : u.IsReference
  · rcases replace_reference h href row with hrewrites | ⟨d, hkeep, -⟩
    · exact .inl hrewrites
    · exact .inr (.inl (congrArg Replacement.text hkeep))
  by_cases hfunction : u.kind = .function
  · exact .inr (.inr hfunction)
  · exact .inr (.inl (replace_other href hfunction))

theorem isWordChar_of_function (t : Converter) (row : Option Nat) (h : Reads u.kind u.text rest)
    (hfunction : u.kind = .function) : ∀ c ∈ (t.replace row u).text, isWordChar c := by
  have hname := isWordChar_of_isWord (hfunction ▸ h).function_isWord
  intro c hc
  rcases (t.replace_matches row u).function hfunction with heq | ⟨-, -, written, -, heq⟩
  · exact hname c (heq ▸ hc)
  · exact hname c (heq ▸ List.mem_append_right written hc)

theorem replace_wordPiece (hnames : t.HasValidNames) (h : Reads u.kind u.text rest)
    (hword : u.kind.hasWord) (row : Option Nat) : u.WordPiece (t.replace row u).text := by
  rcases replace_cases t row h with hrewrites | hsame | hfunction
  · exact hrewrites.wordPiece hnames
  · rw [hsame]
    exact Token.wordPiece_text h hword
  · have hall := isWordChar_of_function t row h hfunction
    cases hpiece : (t.replace row u).text with
    | nil => exact .emptied hfunction
    | cons c s =>
        rw [hpiece] at hall
        exact .inert (hall c (by simp)) fun d hd => isInert_of_isWordChar (hall d (by simp [hd]))

theorem replace_of_not_hasWord (h : u.kind.hasWord = false) (row : Option Nat) :
    (t.replace row u).text = u.text := by
  apply replace_other
  · rintro (⟨sheet, hkind⟩ | ⟨sheet, hkind⟩) <;> simp [hkind, Token.Kind.hasWord] at h
  · intro hkind
    simp [hkind, Token.Kind.hasWord] at h

theorem isSpaced_replace (t : Converter) (row : Option Nat) (u : Token) :
    Token.isSpaced { u with text := (t.replace row u).text } = u.isSpaced := by
  cases hword : u.kind.hasWord with
  | false => rw [replace_of_not_hasWord hword]
  | true =>
      rw [Token.isSpaced_of_hasWord hword]
      exact Token.isSpaced_of_hasWord hword

theorem endsOperand_replace (t : Converter) (row : Option Nat) (u : Token) :
    Token.endsOperand { u with text := (t.replace row u).text } = u.endsOperand := by
  cases hword : u.kind.hasWord with
  | false => rw [replace_of_not_hasWord hword]
  | true =>
      rw [Token.endsOperand, Token.endsOperand]
      cases hkind : u.kind <;> simp [hkind, Token.Kind.hasWord] at hword ⊢

/-- What the tokens of a formula are converted to. `blankBefore` and `operand` are as for
`spacedText`. -/
def written (t : Converter) (row : Option Nat) (blankBefore operand : Bool) (tokens : List Token) :
    Text :=
  Token.spacedText blankBefore operand (t.replaceAll row tokens)

theorem written_nil (t : Converter) (row : Option Nat) (blankBefore operand : Bool) :
    t.written row blankBefore operand [] = [] := rfl

theorem written_cons (h : u.isSpaced → operand = false) :
    t.written row blankBefore operand (u :: tokens) =
      (t.replace row u).text ++
        t.written row u.isBlank (if u.isBlank then operand else u.endsOperand) tokens := by
  have hnot : (u.isSpaced && operand) = false := by
    cases hspaced : u.isSpaced with
    | false => rfl
    | true => rw [h hspaced, Bool.and_false]
  simp only [written, replaceAll, List.map_cons, Token.spacedText, isSpaced_replace,
    endsOperand_replace, hnot, Bool.false_eq_true, if_false]
  rfl

theorem head?_replaceAll (t : Converter) (row : Option Nat) (tokens : List Token) :
    (t.replaceAll row tokens).head?.all Token.isBlank = tokens.head?.all Token.isBlank := by
  cases tokens <;> rfl

theorem written_spaced (h : u.isSpaced) :
    t.written row blankBefore true (u :: tokens) =
      (if blankBefore then [] else [' ']) ++ u.text ++
        (if tokens.head?.all Token.isBlank then [] else [' ']) ++
          t.written row false false tokens := by
  have hword : u.kind.hasWord = false := by
    rw [(Token.operator_of_isSpaced h).1]
    rfl
  have hall : t.replaceAll row (u :: tokens) = u :: t.replaceAll row tokens := by
    rw [replaceAll, List.map_cons, replace_of_not_hasWord hword]
    rfl
  simp only [written, hall, Token.spacedText, h, Bool.and_true, if_true, head?_replaceAll,
    Token.isBlank_eq_false_of_isSpaced h, Token.endsOperand_of_isSpaced h, Bool.false_eq_true,
    if_false]

theorem exists_written_paren (t : Converter) (row : Option Nat) (h : Token.Lexed (u :: tokens))
    (hfunction : u.kind = .function) :
    ∃ p rest, tokens = p :: rest ∧ ∀ blankBefore operand,
      t.written row blankBefore operand tokens = '(' :: t.written row false false rest := by
  obtain ⟨s, hparen⟩ := (hfunction ▸ h.1).function_paren
  have hhead : (Token.render tokens).head? = some '(' := by rw [hparen, List.head?_cons]
  obtain ⟨position, rest, rfl⟩ := h.2.exists_of_first (first_single rfl) hhead
  exact ⟨_, rest, rfl, fun _ _ => rfl⟩

theorem written_word (h : Token.Lexed (u :: tokens)) (hword : u.kind.hasWord) :
    t.written row blankBefore operand (u :: tokens) =
      (t.replace row u).text ++ t.written row false true tokens := by
  have hspaced := Token.isSpaced_of_hasWord hword
  rw [written_cons (by simp [hspaced]), Token.isBlank_of_hasWord hword, if_neg Bool.false_ne_true]
  by_cases hfunction : u.kind = .function
  · obtain ⟨p, rest, -, hparen⟩ := exists_written_paren t row h hfunction
    rw [hparen, hparen]
  · rw [Token.endsOperand_of_hasWord hword hfunction]

theorem written_of_not_hasWord (h : Token.Lexed (u :: tokens)) (hword : u.kind.hasWord = false)
    {c : Char} {s : Text} (hs : t.written row blankBefore operand (u :: tokens) = c :: s) :
    isWordStart c = false ∧ ((Token.render (u :: tokens)).head? = some c ∨
      c = ' ' ∧ blankBefore = false ∧ operand = true) := by
  have hstart := h.1.stopsBefore_isWordStart hword
  obtain ⟨d, text, htext⟩ := List.exists_cons_of_ne_nil h.1.text_ne_nil
  rw [htext, stopsBefore_cons] at hstart
  have hhead : (Token.render (u :: tokens)).head? = some d := by simp [htext]
  by_cases hspaced : u.isSpaced ∧ operand = true
  · obtain ⟨hspaced, rfl⟩ := hspaced
    rw [written_spaced hspaced, htext] at hs
    cases blankBefore with
    | true =>
        obtain ⟨rfl, -⟩ := List.cons.inj hs
        exact ⟨hstart, .inl hhead⟩
    | false =>
        obtain ⟨rfl, -⟩ := List.cons.inj hs
        exact ⟨rfl, .inr ⟨rfl, rfl, rfl⟩⟩
  · rw [written_cons (by simpa using hspaced), replace_of_not_hasWord hword, htext] at hs
    obtain ⟨rfl, -⟩ := List.cons.inj hs
    exact ⟨hstart, .inl hhead⟩

end Converter

end ColumnFormula
