import ColumnFormula.Yaml.Basic

namespace ColumnFormula.Yaml

/-- A place in a text. -/
structure Cursor where
  line : Nat := 0
  column : Nat := 0
  rest : Text

namespace Cursor

def next (c : Cursor) : Cursor :=
  match c.rest with
  | [] => c
  | d :: rest => if isBreak d then ⟨c.line + 1, 0, rest⟩ else ⟨c.line, c.column + 1, rest⟩

/-- The place behind the first `n` characters. -/
def forward (c : Cursor) : Nat → Cursor
  | 0 => c
  | n + 1 => c.next.forward n

/-- Whether a separating character, or the end of the text, comes first. -/
def isSeparated (s : Text) : Bool := s.head?.all isSpaceOrBreak

/-- Whether a text starts with a mark between documents. -/
def startsMark (mark : String) (s : Text) : Bool :=
  mark.toList.isPrefixOf s && isSeparated (s.drop mark.length)

/-- Whether a mark between documents stands here; it takes the first columns of a line. -/
def atMark (c : Cursor) : Bool :=
  c.column == 0 && (startsMark "---" c.rest || startsMark "..." c.rest)

/-- The place behind spaces, line ends and comments, and behind a byte order mark in the first
column of a line; and whether a key may start there. Tabs are skipped only inside brackets
(`flow`) or where no key may start. Outside brackets, a key may start behind a line end. -/
def skipText (flow mayStartKey comment : Bool) (line column : Nat) (s : Text) : Cursor × Bool :=
  match s with
  | [] => (⟨line, column, []⟩, mayStartKey)
  | c :: rest =>
    if isBreak c then skipText flow (mayStartKey || !flow) false (line + 1) 0 rest
    else if comment || c == '#' then skipText flow mayStartKey true line (column + 1) rest
    else if c == ' ' || (c == '\t' && (flow || !mayStartKey)) || (c == '\ufeff' && column == 0) then
      skipText flow mayStartKey false line (column + 1) rest
    else (⟨line, column, c :: rest⟩, mayStartKey)

/-- The place where the next token starts, and whether a key may start there. -/
def skip (flow mayStartKey : Bool) (c : Cursor) : Cursor × Bool :=
  skipText flow mayStartKey false c.line c.column c.rest

end Cursor

end ColumnFormula.Yaml
