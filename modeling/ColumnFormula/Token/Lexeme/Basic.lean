import ColumnFormula.Reference
import ColumnFormula.Text.Alphabetic
import ColumnFormula.Text.Numeric
import ColumnFormula.Token.Basic

/-!
The token at the front of a text. `Lexeme.first` takes it off and leaves the rest; which token it is
depends on its first character and, for a word, on what follows the word.
-/

namespace ColumnFormula

/-- A token at the front of a text, and what follows it. -/
structure Lexeme where
  kind : Token.Kind
  text : Text
  rest : Text
deriving DecidableEq

/-- A quoted run that a text does not close. -/
inductive Lexeme.Unclosed
  | string
  | sheetName
deriving DecidableEq

namespace Lexeme

/-- A character that a word may start with. -/
def isWordStart (c : Char) : Bool := Text.isAlphabetic c || c == '_' || c == '$'

/-- A character that a word may go on with. -/
def isWordChar (c : Char) : Bool :=
  Text.isAlphabetic c || Text.isNumeric c || c == '_' || c == '$' || c == '.'

/-- A quoted run up to the quote that closes it, and what follows. A quote written twice stands in
the run and does not close it. -/
def closeQuote (q : Char) : Text → Option (Text × Text)
  | [] => none
  | c :: rest =>
    if c = q then
      match rest with
      | d :: rest' =>
        if d = q then (closeQuote q rest').map fun r => (c :: d :: r.1, r.2)
        else some ([c], rest)
      | [] => some ([c], [])
    else (closeQuote q rest).map fun r => (c :: r.1, r.2)

/-- The contents of a quoted run: without the quote at its end, and each doubled quote once. -/
def unquote (q : Char) : Text → Text
  | [] => []
  | c :: rest =>
    if c = q then
      match rest with
      | _ :: rest' => c :: unquote q rest'
      | [] => []
    else c :: unquote q rest

def isSign (c : Char) : Bool := c == '+' || c == '-'

/-- An exponent, which must have digits, and what follows. -/
def exponent (s : Text) : Text × Text :=
  match s with
  | e :: rest =>
    if e = 'e' ∨ e = 'E' then
      match rest with
      | d :: rest' =>
        if d.isDigit then (e :: rest.takeWhile Char.isDigit, rest.dropWhile Char.isDigit)
        else if isSign d ∧ (rest'.head?.any Char.isDigit) then
          (e :: d :: rest'.takeWhile Char.isDigit, rest'.dropWhile Char.isDigit)
        else ([], s)
      | [] => ([], s)
    else ([], s)
  | [] => ([], [])

/-- A point with the digits behind it, and what follows. -/
def fraction (s : Text) : Text × Text :=
  match s with
  | '.' :: rest => ('.' :: rest.takeWhile Char.isDigit, rest.dropWhile Char.isDigit)
  | _ => ([], s)

/-- A numeric literal. -/
def number (s : Text) : Lexeme :=
  let whole := s.takeWhile Char.isDigit
  let (point, afterPoint) := fraction (s.dropWhile Char.isDigit)
  let (power, rest) := exponent afterPoint
  ⟨.number, whole ++ point ++ power, rest⟩

/-- Whether a word has the shape of a bound: letters, then digits, with at most one dollar sign in
front of each. The digits may be missing unless a row is needed, but not behind their dollar sign.
-/
def hasShape (needRow : Bool) (word : Text) : Bool :=
  let afterMark := if word.head? = some '$' then word.tail else word
  let behindLetters := afterMark.dropWhile Char.isUpper
  let rowMark := behindLetters.head? = some '$'
  let afterRowMark := if rowMark then behindLetters.tail else behindLetters
  let behindDigits := afterRowMark.dropWhile Char.isDigit
  let hasRow := behindDigits.length < afterRowMark.length
  if behindLetters.length = afterMark.length then false
  else if behindDigits ≠ [] ∨ (rowMark ∧ !hasRow) then false
  else hasRow || !needRow

/-- Whether a word is a bound of a range. -/
def isBound (word : Text) : Bool := hasShape false word

/-- Whether a word is a cell by itself: a bound with a row. -/
def isCell (word : Text) : Bool := hasShape true word

/-- The colon and second bound of a range whose first bound is `word`, and what follows. -/
def rangeTail? (word rest : Text) : Option (Text × Text) :=
  match rest with
  | ':' :: more =>
    let right := more.takeWhile isWordChar
    if isBound word && isBound right then some (':' :: right, more.dropWhile isWordChar) else none
  | _ => none

/-- What stands behind a sheet and its exclamation mark, which are `head`. -/
def qualified (sheet head s : Text) : Lexeme :=
  let word := s.takeWhile isWordChar
  let rest := s.dropWhile isWordChar
  match rangeTail? word rest with
  | some (tail, rest') => ⟨.range (some sheet), head ++ word ++ tail, rest'⟩
  | none => ⟨if isCell word then .cell (some sheet) else .name, head ++ word, rest⟩

def isBoolean (word : Text) : Bool :=
  Text.sameIgnoringCase word "TRUE".toList || Text.sameIgnoringCase word "FALSE".toList

/-- A word that stands by itself, with what follows it: a range, a cell, a truth value or a name. -/
def bare (word rest : Text) : Lexeme :=
  match rangeTail? word rest with
  | some (tail, rest') => ⟨.range none, word ++ tail, rest'⟩
  | none =>
    ⟨if isCell word then .cell none else if isBoolean word then .boolean else .name, word, rest⟩

/-- A word, told apart by what follows it. -/
def word (s : Text) : Lexeme :=
  let word := s.takeWhile isWordChar
  match s.dropWhile isWordChar with
  | '!' :: more => qualified word (word ++ ['!']) more
  | '(' :: more => ⟨.function, word, '(' :: more⟩
  | rest => bare word rest

def errorLiterals : List Text :=
  ["#GETTING_DATA", "#DIV/0!", "#VALUE!", "#SPILL!", "#NAME?", "#NULL!", "#CALC!", "#REF!", "#NUM!",
    "#N/A"].map String.toList

/-- An error value in any case of its letters, or the number sign alone. -/
def errorLiteral (s : Text) : Lexeme :=
  match errorLiterals.find? fun e => Text.sameIgnoringCase e (s.take e.length) with
  | some e => ⟨.errorLiteral, s.take e.length, s.drop e.length⟩
  | none => ⟨.other, s.take 1, s.drop 1⟩

/-- A sheet name in quotes with what it qualifies; a quoted run alone if no exclamation mark
follows. -/
def quotedSheet (run rest : Text) : Lexeme :=
  match rest with
  | '!' :: more => qualified (unquote '\'' run) ('\'' :: run ++ ['!']) more
  | _ => ⟨.other, '\'' :: run, rest⟩

/-- The tokens of one character that no other character can extend. -/
def single? (c : Char) : Option Token.Kind :=
  if c = '(' then some .openParen
  else if c = ')' then some .closeParen
  else if c = ',' then some .comma
  else if "+-*/^&=%".toList.contains c then some .operator
  else none

/-- A comparison, the longer operator first. -/
def comparison (c : Char) (rest : Text) : Lexeme :=
  match rest with
  | d :: rest' =>
    if d = '=' ∨ (c = '<' ∧ d = '>') then ⟨.operator, [c, d], rest'⟩ else ⟨.operator, [c], rest⟩
  | [] => ⟨.operator, [c], []⟩

/-- Whether a numeric literal starts here: at a digit, or at a point before one. -/
def startsNumber (c : Char) (rest : Text) : Bool :=
  c.isDigit || (c == '.' && rest.head?.any Char.isDigit)

/-- The token at the front of the text `c :: rest` when `c` is neither blank nor a quote. -/
def unquoted (c : Char) (rest : Text) : Lexeme :=
  match single? c with
  | some kind => ⟨kind, [c], rest⟩
  | none =>
    if c = '#' then errorLiteral (c :: rest)
    else if c = '<' ∨ c = '>' then comparison c rest
    else if startsNumber c rest then number (c :: rest)
    else if isWordStart c then word (c :: rest)
    else ⟨.other, [c], rest⟩

/-- The token at the front of the text `c :: rest`. -/
def first (c : Char) (rest : Text) : Except Unclosed Lexeme :=
  if Text.isBlank c then
    .ok ⟨.blank, c :: rest.takeWhile Text.isBlank, rest.dropWhile Text.isBlank⟩
  else if c = '"' then
    match closeQuote '"' rest with
    | some (run, rest') => .ok ⟨.string, c :: run, rest'⟩
    | none => .error .string
  else if c = '\'' then
    match closeQuote '\'' rest with
    | some (run, rest') => .ok (quotedSheet run rest')
    | none => .error .sheetName
  else .ok (unquoted c rest)

end Lexeme

end ColumnFormula
