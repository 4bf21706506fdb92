import ColumnFormula.Text.Blank

namespace ColumnFormula

/-- What a token is. -/
inductive Token.Kind
  /-- A run of blanks. -/
  | blank
  /-- A text in double quotes. -/
  | string
  | number
  /-- `TRUE` or `FALSE`, in any case. -/
  | boolean
  /-- An error value such as `#REF!`. -/
  | errorLiteral
  /-- A name with an opening parenthesis right after it. -/
  | function
  /-- Any other name. -/
  | name
  /-- A cell, with the sheet if one is given. -/
  | cell (sheet : Option Text)
  /-- A range, with the sheet if one is given. -/
  | range (sheet : Option Text)
  | operator
  | openParen
  | closeParen
  | comma
  /-- Anything else: a brace, a semicolon, a colon that joins no bounds. -/
  | other
deriving DecidableEq

/-- A token and the text it covers. -/
structure Token where
  kind : Token.Kind
  text : Text
  /-- How many characters stand before it. -/
  position : Nat := 0
deriving DecidableEq

namespace Token

def isBlank (t : Token) : Bool := t.kind == .blank

/-- The part of a text behind its last exclamation mark; all of it if there is none. -/
def behindLastMark (s : Text) : Text := (s.reverse.takeWhile (· != '!')).reverse

/-- The reference of a token without its sheet: `A2` of `Sheet2!A2`. -/
def referenceText (t : Token) : Text :=
  match t.kind with
  | .cell (some _) | .range (some _) => behindLastMark t.text
  | _ => t.text

def render (tokens : List Token) : Text := tokens.flatMap Token.text

end Token

end ColumnFormula
