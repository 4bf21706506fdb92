import ColumnFormula.Token.Lexer

namespace ColumnFormula.Token

/-- The operators that get spaces when they are binary. -/
def spacedOperators : List Text :=
  ["+", "-", "*", "/", "&", ">", "<", ">=", "<=", "=", "<>"].map String.toList

/-- Whether an operator behind this token is binary. A percent sign ends an operand too, and so does
the bracket or brace that closes one. -/
def endsOperand (t : Token) : Bool :=
  match t.kind with
  | .number | .string | .boolean | .errorLiteral | .name | .cell _ | .range _ | .closeParen => true
  | .operator => t.text == ['%']
  | .other => t.text == [']'] || t.text == ['}']
  | .blank | .function | .openParen | .comma => false

/-- Whether the token is an operator that gets spaces behind an operand. -/
def isSpaced (t : Token) : Bool := t.kind == .operator && spacedOperators.contains t.text

/-- The text of tokens with spaces around their binary operators. `blankBefore` tells whether the
token in front is a blank, `operand` whether the last one that is not a blank ends an operand. -/
def spacedText (blankBefore operand : Bool) : List Token → Text
  | [] => []
  | t :: rest =>
    let text :=
      if t.isSpaced && operand then
        (if blankBefore then [] else [' ']) ++ t.text
          ++ (if rest.head?.all isBlank then [] else [' '])
      else t.text
    text ++ spacedText t.isBlank (if t.isBlank then operand else t.endsOperand) rest

/-- The text of a formula's tokens with spaces around the binary operators. -/
def spaced (tokens : List Token) : Text := spacedText false false tokens

/-- A formula with spaces around its binary operators; the formula itself when it has no tokens
because of an open quote. -/
def spaceOperators (formula : Text) : Text :=
  match tokenize formula with
  | .ok tokens => spaced tokens
  | .error _ => formula

end ColumnFormula.Token
