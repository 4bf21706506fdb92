import ColumnFormula.Token.Lexeme.Lemmas

namespace ColumnFormula

/-- Why and where a formula cannot be cut into tokens: at the quote that opens the run. -/
structure LexError where
  cause : Lexeme.Unclosed
  position : Nat
deriving DecidableEq

/-- The text of a lexical error. -/
def LexError.message (e : LexError) : Text :=
  let cause :=
    match e.cause with
    | .string => "Unterminated string literal".toList
    | .sheetName => "Unterminated quoted sheet name".toList
  ["Tokenize error at position ".toList, Text.ofNat e.position, ": ".toList, cause].flatten

namespace Token

/-- The tokens of a text that stands behind `position` characters. -/
def scan (position : Nat) (s : Text) : Except LexError (List Token) :=
  match s with
  | [] => .ok []
  | c :: rest =>
    match _hl : Lexeme.first c rest with
    | .error cause => .error ⟨cause, position⟩
    | .ok l => do
      let tokens ← scan (position + l.text.length) l.rest
      return ⟨l.kind, l.text, position⟩ :: tokens
termination_by s.length
decreasing_by exact Lexeme.first_rest_length_lt _hl

/-- The tokens of a formula, without a leading equals sign of its own. -/
def tokenize (formula : Text) : Except LexError (List Token) := scan 0 formula

end Token

end ColumnFormula
