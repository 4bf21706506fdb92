import ColumnFormula.Proofs.BoundForm
import ColumnFormula.Token.Lexeme.Lemmas

/-!
The form of each kind of token, and what may follow it. `Reads kind text rest` says that `text` is a
token of a kind when `rest` follows; it is the longest one, so a part of the condition is about how
`rest` starts. Main statement: `first` takes off just the token that `Reads` describes.
-/

namespace ColumnFormula.Lexeme

open Text

/-- A character that a word may start with, and then characters of words. -/
def isWord : Text → Bool
  | [] => false
  | c :: rest => isWordStart c && rest.all isWordChar

/-- A quoted run without the quote in front: it ends at the first quote that is not doubled. -/
inductive Closes (q : Char) : Text → Prop
  | quote : Closes q [q]
  | doubled {run : Text} (closes : Closes q run) : Closes q (q :: q :: run)
  | other {c : Char} {run : Text} (ne : c ≠ q) (closes : Closes q run) : Closes q (c :: run)

/-- A sheet name with its exclamation mark, as written: in quotes, or as a word. -/
inductive SheetHead : (sheet head : Text) → Prop
  | quoted {run : Text} (closed : Closes '\'' run) :
      SheetHead (unquote '\'' run) ('\'' :: run ++ ['!'])
  | plain {name : Text} (word : isWord name) : SheetHead name (name ++ ['!'])

/-- A point and the digits behind it, or nothing. -/
inductive Fraction : Text → Prop
  | absent : Fraction []
  | point {digits : Text} (all : ∀ d ∈ digits, d.isDigit) : Fraction ('.' :: digits)

/-- The letter of an exponent, perhaps a sign, and digits; or nothing. -/
inductive Exponent : Text → Prop
  | absent : Exponent []
  | unsigned {e : Char} {digits : Text} (letter : e = 'e' ∨ e = 'E') (ne_nil : digits ≠ [])
      (all : ∀ d ∈ digits, d.isDigit) : Exponent (e :: digits)
  | signed {e sign : Char} {digits : Text} (letter : e = 'e' ∨ e = 'E') (isSign : isSign sign)
      (ne_nil : digits ≠ []) (all : ∀ d ∈ digits, d.isDigit) : Exponent (e :: sign :: digits)

/-- The parts of a numeral, and what may follow them. -/
structure IsNumber (whole point power rest : Text) : Prop where
  whole_isDigit : ∀ d ∈ whole, d.isDigit
  fraction : Fraction point
  exponent : Exponent power
  /-- A numeral without digits before its point has one behind it. -/
  start : whole ≠ [] ∨ ∃ d digits, point = '.' :: d :: digits
  noDigit : StopsBefore Char.isDigit rest
  noPoint : point = [] → power = [] → StopsBefore (· == '.') rest
  noExponent : power = [] → Lexeme.exponent rest = ([], rest)

/-- What ends a word that is followed by neither a sheet's mark nor arguments. -/
def endsBare (c : Char) : Bool := isWordChar c || c == '!' || c == '('

/-- A character by itself, which starts no other token before the text `rest`. -/
structure IsStray (c : Char) (rest : Text) : Prop where
  isBlank : Text.isBlank c = false
  ne_quote : c ≠ '"' ∧ c ≠ '\''
  single? : single? c = none
  ne_sign : c ≠ '#' ∧ c ≠ '<' ∧ c ≠ '>'
  startsNumber : startsNumber c rest = false
  isWordStart : isWordStart c = false

/-- The text is a token of the kind when the rest follows it. -/
inductive Reads : (kind : Token.Kind) → (text rest : Text) → Prop
  | blank {run rest : Text} (ne_nil : run ≠ []) (all : ∀ c ∈ run, isBlank c)
      (stop : StopsBefore isBlank rest) : Reads .blank run rest
  | string {run rest : Text} (closes : Closes '"' run) (stop : StopsBefore (· == '"') rest) :
      Reads .string ('"' :: run) rest
  | number {whole point power rest : Text} (parts : IsNumber whole point power rest) :
      Reads .number (whole ++ (point ++ power)) rest
  | errorLiteral {e text rest : Text} (mem : e ∈ errorLiterals)
      (same : sameIgnoringCase e text) : Reads .errorLiteral text rest
  | function {name rest : Text} (isWord : isWord name) : Reads .function name ('(' :: rest)
  | range {left right rest : Text} (first : isBound left) (last : isBound right)
      (stop : StopsBefore isWordChar rest) : Reads (.range none) (left ++ ':' :: right) rest
  | cell {word rest : Text} (isCell : isCell word) (stop : StopsBefore endsBare rest)
      (noTail : rangeTail? word rest = none) : Reads (.cell none) word rest
  | boolean {word rest : Text} (isBoolean : isBoolean word) (stop : StopsBefore endsBare rest)
      (noTail : rangeTail? word rest = none) : Reads .boolean word rest
  | name {word rest : Text} (isWord : isWord word) (noCell : isCell word = false)
      (noBoolean : isBoolean word = false) (stop : StopsBefore endsBare rest)
      (noTail : rangeTail? word rest = none) : Reads .name word rest
  | sheetRange {sheet head left right rest : Text} (isHead : SheetHead sheet head)
      (first : isBound left) (last : isBound right) (stop : StopsBefore isWordChar rest) :
      Reads (.range (some sheet)) (head ++ (left ++ ':' :: right)) rest
  | sheetCell {sheet head word rest : Text} (isHead : SheetHead sheet head)
      (isCell : isCell word) (stop : StopsBefore isWordChar rest)
      (noTail : rangeTail? word rest = none) : Reads (.cell (some sheet)) (head ++ word) rest
  | sheetName {sheet head word rest : Text} (isHead : SheetHead sheet head)
      (all : ∀ c ∈ word, isWordChar c) (noCell : isCell word = false)
      (stop : StopsBefore isWordChar rest) (noTail : rangeTail? word rest = none) :
      Reads .name (head ++ word) rest
  | symbol {c : Char} {kind : Token.Kind} {rest : Text} (single : single? c = some kind) :
      Reads kind [c] rest
  | comparison {c : Char} {rest : Text} (sign : c = '<' ∨ c = '>')
      (stop : StopsBefore (fun d => d == '=' || c == '<' && d == '>') rest) :
      Reads .operator [c] rest
  | doubleComparison {c d : Char} {rest : Text} (sign : c = '<' ∨ c = '>')
      (second : d = '=' ∨ c = '<' ∧ d = '>') : Reads .operator [c, d] rest
  | quotedRun {run rest : Text} (closes : Closes '\'' run)
      (stop : StopsBefore (fun c => c == '\'' || c == '!') rest) : Reads .other ('\'' :: run) rest
  | numberSign {rest : Text}
      (noLiteral : ∀ e ∈ errorLiterals, sameIgnoringCase e (('#' :: rest).take e.length) = false) :
      Reads .other ['#'] rest
  | stray {c : Char} {rest : Text} (isStray : IsStray c rest) : Reads .other [c] rest

end ColumnFormula.Lexeme
