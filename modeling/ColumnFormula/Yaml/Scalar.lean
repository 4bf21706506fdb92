import ColumnFormula.Yaml.Cursor

namespace ColumnFormula.Yaml

/-- The blanks and line ends between two characters of a scalar. -/
inductive Gap
  /-- Blanks on one line. -/
  | blanks (text : Text)
  /-- Line ends; the first one is missing if a backslash escapes it. -/
  | lines (first : Option Char) (more : Text)

namespace Gap

def isEmpty : Gap → Bool
  | blanks [] => true
  | _ => false

/-- Whether the scalar goes on in another line. -/
def isFolded : Gap → Bool
  | blanks _ => false
  | lines _ _ => true

/-- A gap with one more blank or line end. Blanks around line ends are dropped. -/
def push (g : Gap) (c : Char) : Gap :=
  match g with
  | blanks s => if isBreak c then lines (some c) [] else blanks (s ++ [c])
  | lines first more => if isBreak c then lines first (more ++ [c]) else g

/-- What a gap stands for: a single line feed is a space, and the first of several is dropped. -/
def text : Gap → Text
  | blanks s => s
  | lines none more => more
  | lines (some c) more => if c ≠ '\n' then c :: more else if more = [] then [' '] else more

end Gap

/-- A character that ends a plain scalar inside brackets. -/
def isFlowIndicator (c : Char) : Bool := ",[]\x7b\x7d".toList.contains c

/-- Whether a plain scalar may start with this text. -/
def startsPlain (flow : Bool) (s : Text) : Bool :=
  match s with
  | [] => false
  | c :: rest =>
    if c = '-' then !Cursor.isSeparated rest
    else if c = '?' ∨ c = ':' then !flow && !Cursor.isSeparated rest
    else !isIndicator c && !isSpaceOrBreak c

/-- Whether what stands behind a gap is no part of the plain scalar before it: a comment, a mark
between documents, or a line that is indented by less than `indent`, which is free inside
brackets. -/
def Gap.endsPlain (g : Gap) (flow : Bool) (indent : Nat) (c : Cursor) : Bool :=
  (!g.isEmpty && c.rest.head? == some '#')
    || (g.isFolded && (c.atMark || (!flow && c.column < indent)))

/-- The rest of a plain scalar behind a gap, the place of the next token, and whether that is on
another line than the scalar's end. A tab is no indentation, and inside brackets no bracket or comma
follows a colon. -/
def plainFrom? (flow : Bool) (indent : Nat) (gap : Gap) (line column : Nat) (s : Text) :
    Option (Text × Cursor × Bool) :=
  match s with
  | [] => some ([], ⟨line, column, []⟩, gap.isFolded)
  | c :: rest =>
    if isBreak c then plainFrom? flow indent (gap.push c) (line + 1) 0 rest
    else if c = ' ' ∨ c = '\t' then
      if c = '\t' ∧ gap.isFolded ∧ column < indent then none
      else plainFrom? flow indent (gap.push c) line (column + 1) rest
    else if gap.endsPlain flow indent ⟨line, column, s⟩ then
      some ([], ⟨line, column, s⟩, gap.isFolded)
    else if flow ∧ c = ':' ∧ rest.head?.any fun d => isFlowIndicator d || d == '?' then none
    else if (c = ':' ∧ Cursor.isSeparated rest) ∨ (flow ∧ isFlowIndicator c) then
      some ([], ⟨line, column, s⟩, gap.isFolded)
    else
      (plainFrom? flow indent (.blanks []) line (column + 1) rest).map fun (text, last) =>
        (gap.text ++ c :: text, last)

/-- The plain scalar that starts here, the place of the next token, and whether that is on another
line than the scalar's end. -/
def plainScalar? (flow : Bool) (indent : Nat) (c : Cursor) : Option (Text × Cursor × Bool) :=
  plainFrom? flow indent (.blanks []) c.line c.column c.rest

/-- The character that a letter behind a backslash stands for. -/
def escaped? (c : Char) : Option Char :=
  match c with
  | '0' => some '\x00'
  | 'a' => some '\x07'
  | 'b' => some '\x08'
  | 't' => some '\t'
  | '\t' => some '\t'
  | 'n' => some '\n'
  | 'v' => some '\x0b'
  | 'f' => some '\x0c'
  | 'r' => some '\r'
  | 'e' => some '\x1b'
  | ' ' => some ' '
  | '"' => some '"'
  | '/' => some '/'
  | '\\' => some '\\'
  | 'N' => some '\x85'
  | '_' => some '\xa0'
  | 'L' => some '\u2028'
  | 'P' => some '\u2029'
  | _ => none

/-- How many digits an escape by number has. -/
def escapeWidth? (c : Char) : Option Nat :=
  match c with
  | 'x' => some 2
  | 'u' => some 4
  | 'U' => some 8
  | _ => none

/-- The character with a number, if there is one. -/
def charOf? (n : Nat) : Option Char := if n.isValidChar then some (Char.ofNat n) else none

/-- The character that the text behind a backslash stands for, and how many characters name it. -/
def escape? (s : Text) : Option (Char × Nat) :=
  match s with
  | [] => none
  | c :: rest =>
    match escapeWidth? c with
    | some width => do
      let digits := rest.take width
      let n ← if digits.length = width then natural? 16 digits else none
      return (← charOf? n, width + 1)
    | none => (escaped? c).map (·, 1)

/-- What a quoted scalar goes on with. -/
inductive QuotedPart
  /-- The quote that closes it. -/
  | closing
  /-- A line end behind a backslash. -/
  | escapedBreak
  /-- A character, written with `width` characters. -/
  | char (c : Char) (width : Nat)

/-- The part of a quoted scalar that starts with `c`, which is no blank, and goes on with `rest`. In
single quotes, a quote is written twice. -/
def QuotedPart.first? (quote c : Char) (rest : Text) : Option QuotedPart :=
  if c = quote then
    some (if c = '\'' ∧ rest.head? = some '\'' then char c 2 else closing)
  else if quote = '"' ∧ c = '\\' then
    if rest.head?.any isBreak then some escapedBreak
    else (escape? rest).map fun (d, width) => char d (width + 1)
  else some (char c 1)

/-- The rest of a quoted scalar behind a gap, and the place behind the closing quote. It holds no
line that starts with a mark between documents. -/
def quotedFrom? (quote : Char) (fuel : Nat) (gap : Gap) (c : Cursor) : Option (Text × Cursor) :=
  match fuel, c.rest with
  | 0, _ => none
  | _ + 1, [] => none
  | fuel + 1, d :: rest =>
    if isSpaceOrBreak d then quotedFrom? quote fuel (gap.push d) c.next
    else if c.atMark then none
    else do
      match ← QuotedPart.first? quote d rest with
      | .closing => return (gap.text, c.next)
      | .escapedBreak =>
        let (text, last) ← quotedFrom? quote fuel (.lines none []) (c.forward 2)
        return (gap.text ++ text, last)
      | .char d width =>
        let (text, last) ← quotedFrom? quote fuel (.blanks []) (c.forward width)
        return (gap.text ++ d :: text, last)

/-- The quoted scalar that starts here with this quote, and the place behind it. -/
def quotedScalar? (quote : Char) (c : Cursor) : Option (Text × Cursor) :=
  quotedFrom? quote c.rest.length (.blanks []) c.next

end ColumnFormula.Yaml
