import ColumnFormula.Yaml.Basic

namespace ColumnFormula.Yaml

/-- Whether a text has a mark that means something else in a plain scalar. -/
def hasIndicator (s : Text) : Bool :=
  (s.head?.any isIndicator)
    || (match s with
      | [c] => c == '-' || c == '?'
      | c :: d :: _ => (c == '-' || c == '?') && isSpaceOrBreak d
      | [] => false)
    || s.getLast? == some ':'
    || hasPair (· == ':') isSpaceOrBreak s || hasPair isSpaceOrBreak (· == '#') s
    || ["---", "..."].any fun mark => mark.toList.isPrefixOf s

/-- Whether only double quotes can hold a text: it has a character that needs an escape, or a space
before a line break. -/
def needsEscapes (s : Text) : Bool := s.any (!isPrintable ·) || hasPair (· == ' ') isBreak s

/-- Whether a space stands behind a line break. -/
def hasBreakSpace (s : Text) : Bool := hasPair isBreak (· == ' ') s

/-- Whether the text can be a plain scalar, whatever that would read as. -/
def fitsPlain (s : Text) : Bool :=
  let outer := fun c => c == ' ' || isBreak c
  !s.head?.any outer && !s.getLast?.any outer && !s.any isBreak && !needsEscapes s
    && !hasIndicator s

/-- How a scalar is written. -/
inductive Style
  | plain
  | singleQuoted
  | doubleQuoted
  | literal
deriving DecidableEq

/-- The style of a text: lines as a literal block, other text plain where that reads back as text,
and in quotes otherwise. -/
def style (s : Text) : Style :=
  if s.contains '\n' then
    if s.getLast? == some ' ' || needsEscapes s then .doubleQuoted else .literal
  else if !readsAsOther s && fitsPlain s then .plain
  else if needsEscapes s || hasBreakSpace s then .doubleQuoted
  else .singleQuoted

/-- The lowest hexadecimal digits of a number, in upper case. -/
def hexDigits (count n : Nat) : Text :=
  (List.range count).reverse.map fun k => (Nat.digitChar (n / Nat.pow 16 k % 16)).toUpper

/-- A character inside double quotes. -/
def escape (c : Char) : Text :=
  if c == '"' || c == '\\' then ['\\', c]
  else if isPrintable c && !isBreak c then [c]
  else
    match c.toNat with
    | 0x00 => "\\0".toList
    | 0x07 => "\\a".toList
    | 0x08 => "\\b".toList
    | 0x09 => "\\t".toList
    | 0x0A => "\\n".toList
    | 0x0B => "\\v".toList
    | 0x0C => "\\f".toList
    | 0x0D => "\\r".toList
    | 0x1B => "\\e".toList
    | 0x85 => "\\N".toList
    | 0x2028 => "\\L".toList
    | 0x2029 => "\\P".toList
    | n =>
      if n ≤ 0xFF then "\\x".toList ++ hexDigits 2 n
      else if n ≤ 0xFFFF then "\\u".toList ++ hexDigits 4 n
      else "\\U".toList ++ hexDigits 8 n

/-- Text in which every line but the first starts with spaces, and empty lines have none. `start`
tells whether a line has just been started. -/
def indented (spaces : Nat) (start : Bool) : Text → Text
  | [] => []
  | c :: rest =>
    if isBreak c then c :: indented spaces true rest
    else (if start then List.replicate spaces ' ' else []) ++ c :: indented spaces false rest

def singleQuoted (spaces : Nat) (s : Text) : Text :=
  let doubled := s.flatMap fun c => if c = '\'' then ['\'', '\''] else [c]
  let closing := if s.getLast?.any isBreak then List.replicate spaces ' ' else []
  '\'' :: indented spaces false doubled ++ closing ++ ['\'']

/-- The marks of a literal block: the indentation if the text does not show it, and what becomes of
the line ends at the end. -/
def literalMarks (s : Text) : Text :=
  let shown := if s.head?.any fun c => c == ' ' || isBreak c then ['2'] else []
  let chomp :=
    match s.reverse with
    | [] => ['-']
    | [c] => if isBreak c then ['+'] else ['-']
    | c :: d :: _ => if isBreak c then (if isBreak d then ['+'] else []) else ['-']
  '|' :: shown ++ chomp

/-- A literal block, whose lines are indented by a number of spaces. -/
def literal (spaces : Nat) (s : Text) : Text :=
  literalMarks s ++ '\n' :: indented spaces true s
    ++ (if s.getLast?.any isBreak then [] else ['\n'])

/-- A text as a scalar with the line end behind it. Further lines of the scalar are indented by a
number of spaces. -/
def scalarLine (spaces : Nat) (s : Text) : Text :=
  match style s with
  | .plain => s ++ ['\n']
  | .singleQuoted => singleQuoted spaces s ++ ['\n']
  | .doubleQuoted => '"' :: s.flatMap escape ++ "\"\n".toList
  | .literal => literal spaces s

end ColumnFormula.Yaml
