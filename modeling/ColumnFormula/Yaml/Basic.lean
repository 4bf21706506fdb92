import ColumnFormula.Number.Numeral

namespace ColumnFormula

/-- A YAML value. What a plain scalar reads as is left open; a missing value is an empty one. -/
inductive Yaml
  | plain (text : Text)
  | quoted (text : Text)
  | list (items : List Yaml)
  | mapping (entries : List (Yaml × Yaml))

namespace Yaml

def isNull (s : Text) : Bool := ["", "null", "Null", "NULL", "~"].any (·.toList == s)

def bool? (s : Text) : Option Bool :=
  if ["true", "True", "TRUE"].any (·.toList == s) then some true
  else if ["false", "False", "FALSE"].any (·.toList == s) then some false
  else none

/-- The value of a digit in bases up to 16. -/
def digit? (c : Char) : Option Nat :=
  if c.isDigit then some (c.toNat - 48)
  else if 'a' ≤ c ∧ c ≤ 'f' then some (c.toNat - 87)
  else if 'A' ≤ c ∧ c ≤ 'F' then some (c.toNat - 55)
  else none

/-- The number that digits of a base spell; there must be one. -/
def natural? (base : Nat) (s : Text) : Option Nat :=
  if s = [] then none
  else
    s.foldlM
      (fun n c => (digit? c).bind fun d => if d < base then some (base * n + d) else none) 0

/-- The base that the front of a numeral names, and the digits behind it. -/
def baseOf? (s : Text) : Option (Nat × Text) :=
  match s with
  | '0' :: 'x' :: rest => some (16, rest)
  | '0' :: 'o' :: rest => some (8, rest)
  | '0' :: 'b' :: rest => some (2, rest)
  | _ => none

/-- A text without the sign in front. -/
def withoutSign (s : Text) : Text :=
  match s with
  | '-' :: rest => rest
  | '+' :: rest => rest
  | _ => s

/-- Digits behind a zero are no number. -/
def hasLeadingZero (s : Text) : Bool :=
  match withoutSign s with
  | '0' :: rest => !rest.isEmpty && rest.all Char.isDigit
  | _ => false

/-- A magnitude in the base that its front names, or in base ten. -/
def magnitude? (s : Text) : Option Nat :=
  match (baseOf? s).bind fun (base, digits) => natural? base digits with
  | some n => some n
  | none => if hasLeadingZero s then none else natural? 10 s

/-- The whole number that a plain scalar reads as. -/
def int? (s : Text) : Option Int :=
  match s with
  | '-' :: rest => (magnitude? rest).map fun n => -(n : Int)
  | '+' :: rest => (magnitude? rest).map Int.ofNat
  | _ => (magnitude? s).map Int.ofNat

/-- Whether a plain scalar reads as a whole number; one of more than 128 bits does not. -/
def isInteger (s : Text) : Bool :=
  match int? s with
  | some i => -(Nat.pow 2 127 : Int) ≤ i && i < (Nat.pow 2 128 : Int)
  | none => false

/-- Whether a plain scalar reads as a number with a fraction or an exponent, an infinity or
`.nan`. -/
def isFloat (s : Text) : Bool :=
  let unsigned :=
    match s with
    | '+' :: rest => rest
    | _ => s
  let spelled := [".inf", ".Inf", ".INF"].any (·.toList == unsigned)
    || ["-.inf", "-.Inf", "-.INF", ".nan", ".NaN", ".NAN"].any (·.toList == s)
  let signTwice := unsigned.length ≠ s.length && (unsigned.head?.any fun c => c == '+' || c == '-')
  !signTwice && (spelled || (Number.parse? unsigned).any Number.isFinite)

/-- Whether a plain scalar would not read as text, or not surely. -/
def readsAsOther (s : Text) : Bool :=
  isNull s || (bool? s).isSome || isInteger s || hasLeadingZero s || isFloat s

def isBreak (c : Char) : Bool :=
  c == '\n' || c == '\r' || c == '\x85' || c == '\u2028' || c == '\u2029'

/-- A space, tab or line break. -/
def isSpaceOrBreak (c : Char) : Bool := c == ' ' || c == '\t' || isBreak c

/-- A character that stands for itself in every style. -/
def isPrintable (c : Char) : Bool :=
  let n := c.toNat
  n == 0x0A || (0x20 ≤ n && n ≤ 0x7E) || (0xA0 ≤ n && n != 0xFEFF && n != 0xFFFE && n != 0xFFFF)

/-- A character that no plain scalar starts with. -/
def isIndicator (c : Char) : Bool := "#,[]\x7b\x7d&*!|>'\"%@\x60".toList.contains c

/-- Whether two characters with these properties stand side by side. -/
def hasPair (p q : Char → Bool) : Text → Bool
  | [] => false
  | [_] => false
  | c :: d :: rest => (p c && q d) || hasPair p q (d :: rest)

end Yaml

end ColumnFormula
