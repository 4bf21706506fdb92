import ColumnFormula.Yaml.Scalar
import ColumnFormula.Yaml.Token

/-!
Cutting YAML text into tokens. Whether a token starts a key shows only at the colon behind it, so
the lexer remembers where the last key may have started. Tags, anchors, block scalars and
directives are not read.
-/

namespace ColumnFormula.Yaml

/-- A place where a key may have started. -/
structure KeyStart where
  /-- How many tokens stand before it. -/
  index : Nat
  line : Nat
  column : Nat
  /-- Whether nothing but a key may start there: an entry of the mapping around it is due. -/
  isRequired : Bool

/-- Whether a place comes too late for the colon behind a key, which stands on the line where the
key starts and at most 1024 characters behind that. -/
def KeyStart.isStale (k : KeyStart) (c : Cursor) : Bool :=
  k.line < c.line || k.column + 1024 < c.column

/-- What has been read of a text, and what comes next. -/
structure Lexer where
  cursor : Cursor
  tokens : Array Token := #[]
  /-- The columns of the open block collections, the innermost first. -/
  indents : List Nat := []
  /-- Where a key may have started inside the innermost brackets. -/
  key : Option KeyStart := none
  /-- Where keys may have started around each open bracket, the innermost first. -/
  outerKeys : List (Option KeyStart) := []
  /-- Whether a key may start with the next token. -/
  mayStartKey : Bool := true

namespace Lexer

/-- Whether a bracket is open, so that indentation does not count. -/
def isFlow (l : Lexer) : Bool := !l.outerKeys.isEmpty

/-- Reads a token of `width` characters. -/
def take (l : Lexer) (token : Token) (width : Nat) : Lexer :=
  { l with cursor := l.cursor.forward width, tokens := l.tokens.push token }

/-- Ends the innermost block collections, up to one in a column that may stay open. -/
def closeBlocks (l : Lexer) (staysOpen : Nat → Bool) : Lexer :=
  if l.isFlow then l
  else
    let indents := l.indents.dropWhile (!staysOpen ·)
    let closed := l.indents.length - indents.length
    { l with indents, tokens := l.tokens ++ Array.replicate closed Token.blockEnd }

/-- Starts a block collection behind the first `index` tokens, unless one is open in that column. -/
def openBlock (l : Lexer) (start : Token) (index column : Nat) : Lexer :=
  if !l.isFlow && l.indents.head?.all (· < column) then
    { l with indents := column :: l.indents, tokens := l.tokens.insertIdxIfInBounds index start }
  else l

/-- Starts a block collection here, if it is not open. It starts where a key may start. -/
def openBlockHere? (l : Lexer) (start : Token) : Option Lexer :=
  if l.isFlow then some l
  else if l.mayStartKey then some (l.openBlock start l.tokens.size l.cursor.column)
  else none

/-- Gives up the last key that may have started; a required one has to get its colon. -/
def dropKey? (l : Lexer) : Option Lexer :=
  if l.key.any (·.isRequired) then none else some { l with key := none }

/-- Gives up the keys, on all levels, for which a colon would come too late. -/
def dropStaleKeys? (l : Lexer) : Option Lexer :=
  let isStale := fun k : KeyStart => k.isStale l.cursor
  if (l.key :: l.outerKeys).any (·.any fun k => k.isRequired && isStale k) then none
  else
    some { l with
      key := l.key.filter (!isStale ·)
      outerKeys := l.outerKeys.map (·.filter (!isStale ·)) }

/-- Remembers this place, if a key may start here. In the column of a block collection one is due.
-/
def startKey? (l : Lexer) : Option Lexer :=
  if l.mayStartKey then do
    let isRequired := !l.isFlow && l.indents.head? == some l.cursor.column
    let key := ⟨l.tokens.size, l.cursor.line, l.cursor.column, isRequired⟩
    return { ← l.dropKey? with key := some key }
  else some l

def mark? (l : Lexer) (mark : Token) : Option Lexer := do
  let l ← (l.closeBlocks fun _ => false).dropKey?
  return { l.take mark 3 with mayStartKey := false }

def openBracket? (l : Lexer) (bracket : Token) : Option Lexer := do
  let l ← l.startKey?
  return { l.take bracket 1 with
    key := none, outerKeys := l.key :: l.outerKeys, mayStartKey := true }

def closeBracket? (l : Lexer) (bracket : Token) : Option Lexer := do
  let l := (← l.dropKey?).take bracket 1
  match l.outerKeys with
  | [] => return { l with mayStartKey := false }
  | key :: outerKeys => return { l with key, outerKeys, mayStartKey := false }

def comma? (l : Lexer) : Option Lexer := do
  return { (← l.dropKey?).take .comma 1 with mayStartKey := true }

def item? (l : Lexer) : Option Lexer := do
  let l ← (← l.openBlockHere? .blockList).dropKey?
  return { l.take .item 1 with mayStartKey := true }

def key? (l : Lexer) : Option Lexer := do
  let l ← (← l.openBlockHere? .blockMapping).dropKey?
  return { l.take .key 1 with mayStartKey := !l.isFlow }

/-- Reads the colon before a value. If a key may have started, it did. -/
def value? (l : Lexer) : Option Lexer :=
  match l.key with
  | some k =>
    let l := { l with tokens := l.tokens.insertIdxIfInBounds k.index .key, key := none }
    some { (l.openBlock .blockMapping k.index k.column).take .value 1 with mayStartKey := false }
  | none => do
    let l ← l.openBlockHere? .blockMapping
    return { l.take .value 1 with mayStartKey := !l.isFlow }

def quoted? (l : Lexer) (quote : Char) : Option Lexer := do
  let l ← l.startKey?
  let (text, cursor) ← quotedScalar? quote l.cursor
  return { l with cursor, tokens := l.tokens.push (.scalar true text), mayStartKey := false }

/-- Reads a plain scalar. Its further lines are indented by more than the block around it. A key may
start behind it on another line. -/
def plain? (l : Lexer) : Option Lexer := do
  let l ← l.startKey?
  let indent := l.indents.head?.elim 0 (· + 1)
  let (text, cursor, mayStartKey) ← plainScalar? l.isFlow indent l.cursor
  return { l with cursor, tokens := l.tokens.push (.scalar false text), mayStartKey }

/-- Reads the token that starts here, with the character `c` and then `rest`. A dash, question
mark or colon that starts no plain scalar is a token of its own. -/
def read? (l : Lexer) (c : Char) (rest : Text) : Option Lexer :=
  if l.cursor.atMark then l.mark? (if c = '-' then .documentStart else .documentEnd)
  else
    match c with
    | '[' => l.openBracket? .flowList
    | ']' => l.closeBracket? .flowListEnd
    | '\x7b' => l.openBracket? .flowMapping
    | '\x7d' => l.closeBracket? .flowMappingEnd
    | ',' => l.comma?
    | '\'' => l.quoted? '\''
    | '"' => l.quoted? '"'
    | _ =>
      if startsPlain l.isFlow (c :: rest) then l.plain?
      else if c = '-' then l.item?
      else if c = '?' then l.key?
      else if c = ':' then l.value?
      else none

/-- Goes to the next token: block collections that it is not indented by are over. -/
def skip? (l : Lexer) : Option Lexer := do
  let (cursor, mayStartKey) := l.cursor.skip l.isFlow l.mayStartKey
  let l ← { l with cursor, mayStartKey }.dropStaleKeys?
  return l.closeBlocks (· ≤ cursor.column)

/-- Reads tokens up to the end of the text. -/
def readAll? : Nat → Lexer → Option (List Token)
  | 0, _ => none
  | fuel + 1, l => do
    let l ← l.skip?
    match l.cursor.rest with
    | [] => return (← (l.closeBlocks fun _ => false).dropKey?).tokens.toList
    | c :: rest => readAll? fuel (← l.read? c rest)

end Lexer

/-- Whether a YAML text may hold a character. -/
def isAllowed (c : Char) : Bool :=
  let n := c.toNat
  n == 0x09 || n == 0x0A || n == 0x0D || (0x20 ≤ n && n ≤ 0x7E) || n == 0x85
    || (0xA0 ≤ n && n != 0xFFFE && n != 0xFFFF)

/-- The text with every line end written as a line feed; the separators of lines and paragraphs
are line ends that stay as they are. -/
def withLineFeeds : Text → Text
  | [] => []
  | '\r' :: '\n' :: rest => '\n' :: withLineFeeds rest
  | c :: rest => (if c = '\r' ∨ c = '\x85' then '\n' else c) :: withLineFeeds rest

/-- The tokens of a text. -/
def tokens? (s : Text) : Option (List Token) :=
  if s.all isAllowed then Lexer.readAll? (s.length + 1) { cursor := { rest := withLineFeeds s } }
  else none

end ColumnFormula.Yaml
