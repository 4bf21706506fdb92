import ColumnFormula.Proofs.IdentifierForm
import ColumnFormula.Proofs.LexemeReading
import ColumnFormula.Proofs.ReferencePatterns

namespace ColumnFormula

theorem Lexeme.IsNumber.alone {whole point power rest : Text}
    (h : IsNumber whole point power rest) : IsNumber whole point power [] :=
  { h with
    noDigit := Text.stopsBefore_nil _
    noPoint := fun _ _ => Text.stopsBefore_nil _
    noExponent := fun _ => rfl }

namespace Pattern

open Computability
open Lexeme
open RegularExpression

def oneIn (p : Char → Bool) : Language Char := {s | ∃ c, p c ∧ s = [c]}

def runOf (p : Char → Bool) : Language Char := oneIn p * (oneIn p)∗

/-- A run in quotes, in which quotes come in adjacent pairs. -/
def quoted (q : Char) : Language Char := {[q]} * (oneIn (· != q) + {[q, q]})∗ * {[q]}

/-- A letter, an underscore or a dollar sign, and then letters, numerals, underscores, dollar
signs and points. -/
def word : Language Char := oneIn isWordStart * (oneIn isWordChar)∗

/-- A sheet name with its exclamation mark. -/
def sheetHead : Language Char := (word + quoted '\'') * {['!']}

/-- The words, in any case of their ASCII letters. -/
def spelledAs (words : List Text) : Language Char :=
  {s | ∃ w ∈ words, Text.sameIgnoringCase w s}

/-- `([eE][+-]?[0-9]+)?` -/
def power : RegularExpression Char :=
  optional (oneOf ['e', 'E'] * (optional (oneOf ['+', '-']) * repeated digit))

/-- `[0-9]+([.][0-9]*)?([eE][+-]?[0-9]+)?` or `[.][0-9]+([eE][+-]?[0-9]+)?` -/
def numeral : RegularExpression Char :=
  repeated digit * (optional (char '.' * star digit) * power) +
    char '.' * (repeated digit * power)

/-- `bound:bound` -/
def range : RegularExpression Char := bound * (char ':' * bound)

def truthValues : List Text := ["TRUE", "FALSE"].map String.toList

def operators : List Text :=
  ['+', '-', '*', '/', '^', '&', '=', '%'].map ([·]) ++
    [['<'], ['>'], ['<', '='], ['>', '='], ['<', '>']]

/-- The texts that tokens of a kind have. -/
def language : Token.Kind → Language Char
  | .blank => runOf Text.isBlank
  | .string => quoted '"'
  | .number => numeral.matches'
  | .boolean => spelledAs truthValues
  | .errorLiteral => spelledAs errorLiterals
  | .function => word
  | .name =>
      word - (cell.matches' + spelledAs truthValues) +
        sheetHead * ((oneIn isWordChar)∗ - cell.matches')
  | .cell none => cell.matches'
  | .cell (some _) => sheetHead * cell.matches'
  | .range none => range.matches'
  | .range (some _) => sheetHead * range.matches'
  | .operator => {s | s ∈ operators}
  | .openParen => {['(']}
  | .closeParen => {[')']}
  | .comma => {[',']}
  | .other => oneIn (fun _ => true) + quoted '\''

theorem mem_kstar_cons {L : Language Char} {front s : Text} (hfront : front ∈ L) (hs : s ∈ L∗) :
    front ++ s ∈ L∗ := by
  obtain ⟨pieces, rfl, hpieces⟩ := Language.mem_kstar.mp hs
  exact ⟨front :: pieces, rfl, List.forall_mem_cons.mpr ⟨hfront, hpieces⟩⟩

theorem mem_star_oneIn_iff {p : Char → Bool} {s : Text} : s ∈ (oneIn p)∗ ↔ ∀ c ∈ s, p c := by
  constructor
  · rintro ⟨pieces, rfl, hpieces⟩ c hc
    obtain ⟨piece, hpiece, hc⟩ := List.mem_flatten.mp hc
    obtain ⟨d, hd, rfl⟩ := hpieces piece hpiece
    exact List.mem_singleton.mp hc ▸ hd
  · intro hs
    induction s with
    | nil => exact Language.nil_mem_kstar _
    | cons c s ih =>
        obtain ⟨hc, hs⟩ := List.forall_mem_cons.mp hs
        rw [← List.singleton_append]
        exact mem_kstar_cons ⟨c, hc, rfl⟩ (ih hs)

theorem mem_oneIn_mul_star_iff {p q : Char → Bool} {s : Text} :
    s ∈ oneIn p * (oneIn q)∗ ↔ ∃ c rest, s = c :: rest ∧ p c ∧ ∀ d ∈ rest, q d := by
  rw [Language.mem_mul]
  constructor
  · rintro ⟨_, ⟨c, hc, rfl⟩, rest, hrest, rfl⟩
    exact ⟨c, rest, rfl, hc, mem_star_oneIn_iff.mp hrest⟩
  · rintro ⟨c, rest, rfl, hc, hrest⟩
    exact ⟨[c], ⟨c, hc, rfl⟩, rest, mem_star_oneIn_iff.mpr hrest, rfl⟩

theorem mem_runOf_iff {p : Char → Bool} {s : Text} : s ∈ runOf p ↔ s ≠ [] ∧ ∀ c ∈ s, p c := by
  rw [runOf, mem_oneIn_mul_star_iff]
  constructor
  · rintro ⟨c, rest, rfl, hc, hrest⟩
    exact ⟨by simp, List.forall_mem_cons.mpr ⟨hc, hrest⟩⟩
  · rintro ⟨hne, hall⟩
    obtain ⟨c, rest, rfl⟩ := List.exists_cons_of_ne_nil hne
    obtain ⟨hc, hrest⟩ := List.forall_mem_cons.mp hall
    exact ⟨c, rest, rfl, hc, hrest⟩

theorem mem_word_iff {s : Text} : s ∈ word ↔ isWord s := by
  rw [word, mem_oneIn_mul_star_iff]
  cases s with
  | nil => simp [isWord]
  | cons c s =>
      rw [isWord_cons]
      constructor
      · rintro ⟨d, rest, heq, hd, hrest⟩
        obtain ⟨rfl, rfl⟩ := List.cons.inj heq
        exact ⟨hd, hrest⟩
      · rintro ⟨hc, hs⟩
        exact ⟨c, s, rfl, hc, hs⟩

theorem closes_append_of_mem_star {q : Char} {inside run : Text}
    (hinside : inside ∈ (oneIn (· != q) + {[q, q]})∗) (hrun : Closes q run) :
    Closes q (inside ++ run) := by
  obtain ⟨pieces, rfl, hpieces⟩ := Language.mem_kstar.mp hinside
  clear hinside
  induction pieces with
  | nil => exact hrun
  | cons piece pieces ih =>
      obtain ⟨hpiece, hpieces⟩ := List.forall_mem_cons.mp hpieces
      have hrest := ih hpieces
      rw [List.flatten_cons, List.append_assoc]
      rcases (Language.mem_add _ _ _).mp hpiece with ⟨c, hc, rfl⟩ | hpair
      · exact .other (by simpa using hc) hrest
      · obtain rfl : piece = [q, q] := hpair
        exact .doubled hrest

theorem exists_of_closes {q : Char} {run : Text} (h : Closes q run) :
    ∃ inside ∈ (oneIn (· != q) + {[q, q]} : Language Char)∗, run = inside ++ [q] := by
  induction h with
  | quote => exact ⟨[], Language.nil_mem_kstar _, rfl⟩
  | doubled _ ih =>
      obtain ⟨inside, hinside, rfl⟩ := ih
      exact ⟨[q, q] ++ inside, mem_kstar_cons (.inr rfl) hinside, rfl⟩
  | @other c _ hc _ ih =>
      obtain ⟨inside, hinside, rfl⟩ := ih
      exact ⟨[c] ++ inside, mem_kstar_cons (.inl ⟨c, by simpa using hc, rfl⟩) hinside, rfl⟩

theorem mem_quoted_iff {q : Char} {s : Text} :
    s ∈ quoted q ↔ ∃ run, Closes q run ∧ s = q :: run := by
  simp only [quoted, Language.mem_mul]
  constructor
  · rintro ⟨_, ⟨_, rfl, inside, hinside, rfl⟩, _, rfl, rfl⟩
    exact ⟨inside ++ [q], closes_append_of_mem_star hinside .quote, by simp⟩
  · rintro ⟨run, hrun, rfl⟩
    obtain ⟨inside, hinside, rfl⟩ := exists_of_closes hrun
    exact ⟨q :: inside, ⟨[q], rfl, inside, hinside, rfl⟩, [q], rfl, by simp⟩

theorem mem_sheetHead_iff {head : Text} :
    head ∈ sheetHead ↔ ∃ sheet, SheetHead sheet head := by
  rw [sheetHead, Language.mem_mul]
  constructor
  · rintro ⟨name, hname, _, rfl, rfl⟩
    rcases (Language.mem_add _ _ _).mp hname with hname | hname
    · exact ⟨name, .plain (mem_word_iff.mp hname)⟩
    · obtain ⟨run, hrun, rfl⟩ := mem_quoted_iff.mp hname
      exact ⟨unquote '\'' run, .quoted hrun⟩
  · rintro ⟨sheet, hhead⟩
    cases hhead with
    | @quoted run hrun =>
        exact ⟨'\'' :: run, .inr (mem_quoted_iff.mpr ⟨run, hrun, rfl⟩), ['!'], rfl, rfl⟩
    | plain hname => exact ⟨sheet, .inl (mem_word_iff.mpr hname), ['!'], rfl, rfl⟩

theorem mem_truthValues_iff {s : Text} : s ∈ spelledAs truthValues ↔ isBoolean s := by
  rw [isBoolean, Bool.or_eq_true, Text.sameIgnoringCase_comm s, Text.sameIgnoringCase_comm s]
  constructor
  · rintro ⟨w, hw, hsame⟩
    rcases List.mem_cons.mp hw with rfl | hw
    · exact .inl hsame
    · exact .inr (List.mem_singleton.mp hw ▸ hsame)
  · rintro (hsame | hsame)
    · exact ⟨_, List.mem_cons_self, hsame⟩
    · exact ⟨_, List.mem_cons_of_mem _ List.mem_cons_self, hsame⟩

theorem mem_power_iff {s : Text} : s ∈ power.matches' ↔ Exponent s := by
  simp only [power, mem_optional_iff, matches'_mul, Language.mem_mul, mem_oneOf_iff, digit,
    mem_repeated_oneOf_iff, mem_digits_iff]
  constructor
  · rintro (rfl | ⟨_, ⟨e, he, rfl⟩, _, ⟨sign, hsign, digits, ⟨hne, hdigits⟩, rfl⟩, rfl⟩)
    · exact .absent
    · have he' : e = 'e' ∨ e = 'E' := by simpa using he
      rcases hsign with rfl | ⟨c, hc, rfl⟩
      · exact .unsigned he' hne hdigits
      · exact .signed he' (by simpa [isSign] using hc) hne hdigits
  · intro h
    cases h with
    | absent => exact .inl rfl
    | @unsigned e digits he hne hdigits =>
        exact .inr ⟨[e], ⟨e, by simpa using he, rfl⟩, digits,
          ⟨[], .inl rfl, digits, ⟨hne, hdigits⟩, rfl⟩, rfl⟩
    | @signed e sign digits he hsign hne hdigits =>
        exact .inr ⟨[e], ⟨e, by simpa using he, rfl⟩, sign :: digits,
          ⟨[sign], .inr ⟨sign, by simpa [isSign] using hsign, rfl⟩, digits, ⟨hne, hdigits⟩, rfl⟩,
          rfl⟩

theorem mem_point_iff {s : Text} :
    s ∈ (optional (char '.' * star digit)).matches' ↔ Fraction s := by
  simp only [mem_optional_iff, matches'_mul, Language.mem_mul, matches'_char, digit,
    mem_star_oneOf_iff, mem_digits_iff]
  constructor
  · rintro (rfl | ⟨_, rfl, digits, hdigits, rfl⟩)
    · exact .absent
    · exact .point hdigits
  · intro h
    cases h with
    | absent => exact .inl rfl
    | @point digits hdigits => exact .inr ⟨['.'], rfl, digits, hdigits, rfl⟩

theorem mem_numeral_iff {s : Text} :
    s ∈ numeral.matches' ↔
      ∃ whole point power, IsNumber whole point power [] ∧ s = whole ++ (point ++ power) := by
  simp only [numeral, matches'_add, Language.mem_add, matches'_mul, Language.mem_mul,
    mem_power_iff, mem_repeated_oneOf_iff, digit, mem_digits_iff, matches'_char]
  constructor
  · rintro (⟨whole, ⟨hne, hwhole⟩, _, ⟨point, hpoint, power, hpower, rfl⟩, rfl⟩ |
      ⟨_, rfl, _, ⟨digits, ⟨hne, hdigits⟩, power, hpower, rfl⟩, rfl⟩)
    · exact ⟨whole, point, power, ⟨hwhole, mem_point_iff.mp hpoint, hpower, .inl hne,
        Text.stopsBefore_nil _, fun _ _ => Text.stopsBefore_nil _, fun _ => rfl⟩, rfl⟩
    · obtain ⟨d, digits, rfl⟩ := List.exists_cons_of_ne_nil hne
      exact ⟨[], '.' :: d :: digits, power, ⟨by simp, .point hdigits, hpower, .inr ⟨d, digits, rfl⟩,
        Text.stopsBefore_nil _, fun _ _ => Text.stopsBefore_nil _, fun _ => rfl⟩, rfl⟩
  · rintro ⟨whole, point, power, h, rfl⟩
    by_cases hne : whole = []
    · subst hne
      obtain ⟨d, digits, rfl⟩ := h.start.resolve_left (by simp)
      cases h.fraction with
      | point hdigits =>
          exact .inr ⟨['.'], rfl, _, ⟨d :: digits, ⟨by simp, hdigits⟩, power, h.exponent, rfl⟩, rfl⟩
    · exact .inl ⟨whole, ⟨hne, h.whole_isDigit⟩, _,
        ⟨point, mem_point_iff.mpr h.fraction, power, h.exponent, rfl⟩, rfl⟩

theorem mem_range_iff {s : Text} :
    s ∈ range.matches' ↔
      ∃ left right, isBound left ∧ isBound right ∧ s = left ++ ':' :: right := by
  simp only [range, matches'_mul, Language.mem_mul, matches'_char, ← isBound_iff_mem]
  constructor
  · rintro ⟨left, hleft, _, ⟨_, rfl, right, hright, rfl⟩, rfl⟩
    exact ⟨left, right, hleft, hright, rfl⟩
  · rintro ⟨left, right, hleft, hright, rfl⟩
    exact ⟨left, hleft, ':' :: right, ⟨[':'], rfl, right, hright, rfl⟩, rfl⟩

theorem mem_language_of_single? {c : Char} {kind : Token.Kind} (h : single? c = some kind) :
    [c] ∈ language kind := by
  rcases of_single?_eq_some h with ⟨rfl, rfl⟩ | ⟨rfl, rfl⟩ | ⟨rfl, rfl⟩ | ⟨hc, rfl⟩
  · rfl
  · rfl
  · rfl
  · exact List.mem_append_left _ (List.mem_map_of_mem hc)

theorem mem_language_of_reads {kind : Token.Kind} {text rest : Text} (h : Reads kind text rest) :
    text ∈ language kind := by
  cases h with
  | blank hne hall _ => exact mem_runOf_iff.mpr ⟨hne, hall⟩
  | string hcloses _ => exact mem_quoted_iff.mpr ⟨_, hcloses, rfl⟩
  | number hparts => exact mem_numeral_iff.mpr ⟨_, _, _, hparts.alone, rfl⟩
  | errorLiteral he hsame => exact ⟨_, he, hsame⟩
  | function hname => exact mem_word_iff.mpr hname
  | range hleft hright _ => exact mem_range_iff.mpr ⟨_, _, hleft, hright, rfl⟩
  | cell hcell _ _ => exact isCell_iff_mem.mp hcell
  | boolean hboolean _ _ => exact mem_truthValues_iff.mpr hboolean
  | name hword hcell hboolean _ _ =>
      refine .inl ⟨mem_word_iff.mpr hword, ?_⟩
      rintro (hmem | hmem)
      · simp [isCell_iff_mem.mpr hmem] at hcell
      · simp [mem_truthValues_iff.mp hmem] at hboolean
  | sheetRange hhead hleft hright _ =>
      exact Language.append_mem_mul (mem_sheetHead_iff.mpr ⟨_, hhead⟩)
        (mem_range_iff.mpr ⟨_, _, hleft, hright, rfl⟩)
  | sheetCell hhead hcell _ _ =>
      exact Language.append_mem_mul (mem_sheetHead_iff.mpr ⟨_, hhead⟩) (isCell_iff_mem.mp hcell)
  | sheetName hhead hall hcell _ _ =>
      refine .inr (Language.append_mem_mul (mem_sheetHead_iff.mpr ⟨_, hhead⟩) ?_)
      refine ⟨mem_star_oneIn_iff.mpr hall, fun hmem => ?_⟩
      simp [isCell_iff_mem.mpr hmem] at hcell
  | symbol hsingle => exact mem_language_of_single? hsingle
  | @comparison c _ hc _ =>
      have hall : ∀ c, c = '<' ∨ c = '>' → [c] ∈ operators := by simp [operators]
      exact hall c hc
  | @doubleComparison c d _ hc hd =>
      have hequals : ∀ c, c = '<' ∨ c = '>' → [c, '='] ∈ operators := by simp [operators]
      have hdiffer : ['<', '>'] ∈ operators := by simp [operators]
      rcases hd with rfl | ⟨rfl, rfl⟩
      · exact hequals c hc
      · exact hdiffer
  | quotedRun hcloses _ => exact .inr (mem_quoted_iff.mpr ⟨_, hcloses, rfl⟩)
  | numberSign _ => exact .inl ⟨'#', rfl, rfl⟩
  | @stray c _ _ => exact .inl ⟨c, rfl, rfl⟩

end Pattern

end ColumnFormula
