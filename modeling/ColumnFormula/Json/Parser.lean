import ColumnFormula.Json.Basic

namespace ColumnFormula.Json

/-- The text behind the blanks that JSON allows between its parts. -/
def skipSpace (s : Text) : Text :=
  s.dropWhile fun c => c == ' ' || c == '\n' || c == '\t' || c == '\r'

def hexDigit? (c : Char) : Option Nat :=
  if c.isDigit then some (c.toNat - 48)
  else if 'a' ≤ c ∧ c ≤ 'f' then some (c.toNat - 87)
  else if 'A' ≤ c ∧ c ≤ 'F' then some (c.toNat - 55)
  else none

def hex? (digits : Text) : Option Nat :=
  digits.foldlM (fun n c => (hexDigit? c).map (16 * n + ·)) 0

/-- The character behind a backslash, where one letter names it. -/
def namedEscape? (c : Char) : Option Char :=
  match c with
  | '"' => some '"'
  | '\\' => some '\\'
  | '/' => some '/'
  | 'b' => some '\x08'
  | 'f' => some '\x0c'
  | 'n' => some '\n'
  | 'r' => some '\r'
  | 't' => some '\t'
  | _ => none

/-- The code units of a string behind its opening quote, and what follows its closing one. Escapes
by number are 16-bit units, which may be surrogates. -/
def units? : Text → Option (List Nat × Text)
  | [] => none
  | '"' :: rest => some ([], rest)
  | '\\' :: 'u' :: a :: b :: c :: d :: rest => do
    let unit ← hex? [a, b, c, d]
    let (units, rest) ← units? rest
    return (unit :: units, rest)
  | '\\' :: c :: rest => do
    let named ← namedEscape? c
    let (units, rest) ← units? rest
    return (named.toNat :: units, rest)
  | c :: rest =>
    if c.toNat < 0x20 then none
    else (units? rest).map fun (units, rest) => (c.toNat :: units, rest)

def isHighSurrogate (n : Nat) : Bool := 0xD800 ≤ n && n < 0xDC00

def isLowSurrogate (n : Nat) : Bool := 0xDC00 ≤ n && n < 0xE000

/-- The text of code units, each surrogate pair one character; `none` if a surrogate stands alone.
-/
def ofUnits? : List Nat → Option Text
  | [] => some []
  | [n] => if isHighSurrogate n || isLowSurrogate n then none else some [Char.ofNat n]
  | n :: low :: rest =>
    if isHighSurrogate n then
      if isLowSurrogate low then
        (ofUnits? rest).map (Char.ofNat (0x10000 + (n - 0xD800) * 0x400 + (low - 0xDC00)) :: ·)
      else none
    else if isLowSurrogate n then none
    else (ofUnits? (low :: rest)).map (Char.ofNat n :: ·)

def digits? (s : Text) : Option (Text × Text) :=
  match s.takeWhile Char.isDigit with
  | [] => none
  | digits => some (digits, s.dropWhile Char.isDigit)

def fraction? (s : Text) : Option (Option Text × Text) :=
  match s with
  | '.' :: rest => (digits? rest).map fun (digits, rest) => (some digits, rest)
  | _ => some (none, s)

def exponent? (s : Text) : Option (Option Int × Text) :=
  match s with
  | e :: rest =>
    if e = 'e' ∨ e = 'E' then
      let (negative, rest) :=
        match rest with
        | '-' :: rest => (true, rest)
        | '+' :: rest => (false, rest)
        | _ => (false, rest)
      (digits? rest).map fun (digits, rest) =>
        let value : Int := Text.toNat digits
        (some (if negative then -value else value), rest)
    else some (none, s)
  | [] => some (none, [])

/-- A numeral: no zero stands before other digits, and digits stand on both sides of a point. -/
def numeral? (s : Text) : Option (Numeral × Text) := do
  let (negative, s) :=
    match s with
    | '-' :: rest => (true, rest)
    | _ => (false, s)
  let (whole, s) ← digits? s
  if whole.head? = some '0' ∧ whole.length ≠ 1 then none
  else
    let (fraction, s) ← fraction? s
    let (exponent, s) ← exponent? s
    return (⟨negative, whole, fraction, exponent⟩, s)

mutual

/-- The value at the front of a text. Every call reads a character or ends, so the fuel given by
`parse?` is never used up. -/
def value? : Nat → Text → Option (Json × Text)
  | 0, _ => none
  | fuel + 1, s =>
    match skipSpace s with
    | 'n' :: 'u' :: 'l' :: 'l' :: rest => some (null, rest)
    | 't' :: 'r' :: 'u' :: 'e' :: rest => some (bool true, rest)
    | 'f' :: 'a' :: 'l' :: 's' :: 'e' :: rest => some (bool false, rest)
    | '"' :: rest => (units? rest).map fun (units, rest) => (string (ofUnits? units), rest)
    | '[' :: rest =>
      match skipSpace rest with
      | ']' :: rest => some (array [], rest)
      | rest => (items? fuel rest).map fun (items, rest) => (array items, rest)
    | '\x7b' :: rest =>
      match skipSpace rest with
      | '\x7d' :: rest => some (object [], rest)
      | rest => (members? fuel rest).map fun (members, rest) => (object members, rest)
    | rest => (numeral? rest).map fun (n, rest) => (number n, rest)

/-- The items of an array up to its closing bracket. -/
def items? : Nat → Text → Option (List Json × Text)
  | 0, _ => none
  | fuel + 1, s => do
    let (item, rest) ← value? fuel s
    match skipSpace rest with
    | ']' :: rest => return ([item], rest)
    | ',' :: rest =>
      let (items, rest) ← items? fuel rest
      return (item :: items, rest)
    | _ => none

/-- The members of an object up to its closing brace. -/
def members? : Nat → Text → Option (List (Option Text × Json) × Text)
  | 0, _ => none
  | fuel + 1, s =>
    match skipSpace s with
    | '"' :: rest => do
      let (units, rest) ← units? rest
      match skipSpace rest with
      | ':' :: rest =>
        let (value, rest) ← value? fuel rest
        let member := (ofUnits? units, value)
        match skipSpace rest with
        | '\x7d' :: rest => return ([member], rest)
        | ',' :: rest =>
          let (members, rest) ← members? fuel rest
          return (member :: members, rest)
        | _ => none
      | _ => none
    | _ => none

end

/-- The value that a whole text spells. -/
def parse? (s : Text) : Option Json := do
  let (value, rest) ← value? (2 * s.length + 2) s
  if skipSpace rest = [] then some value else none

end ColumnFormula.Json
