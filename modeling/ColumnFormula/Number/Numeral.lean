import ColumnFormula.Number.Basic
import ColumnFormula.Text.Basic

/-!
Reading decimal numerals as numbers, in two ways: the exact one rounds the decimal once; the scaled
one, which documents use, keeps only the digits that fit in 64 bits and scales them by powers of ten
that are rounded themselves.
-/

namespace ColumnFormula

/-- A decimal numeral in its parts. -/
structure Numeral where
  negative : Bool := false
  /-- The digits before the point. -/
  whole : Text
  /-- The digits behind the point; `none` without a point. -/
  fraction : Option Text := none
  exponent : Option Int := none
deriving DecidableEq

namespace Numeral

/-- A run of digits as an exponent, behind its sign if it has one, up to the end of the text. -/
def exponentOf? (s : Text) : Option Int :=
  let (negative, digits) :=
    match s with
    | '-' :: rest => (true, rest)
    | '+' :: rest => (false, rest)
    | _ => (false, s)
  if digits ≠ [] ∧ digits.all Char.isDigit then
    some (if negative then -(Text.toNat digits : Int) else Text.toNat digits)
  else none

/-- The text as a point with digits, which may be none, and then an exponent. -/
def afterWhole? (negative : Bool) (whole s : Text) : Option Numeral :=
  let (fraction, rest) :=
    match s with
    | '.' :: rest => (some (rest.takeWhile Char.isDigit), rest.dropWhile Char.isDigit)
    | _ => (none, s)
  match rest with
  | [] => some ⟨negative, whole, fraction, none⟩
  | c :: rest' =>
    if c = 'e' ∨ c = 'E' then
      (exponentOf? rest').map fun e => ⟨negative, whole, fraction, some e⟩
    else none

/-- The text as a numeral without a sign. Digits may be missing on one side of a point. -/
def unsigned? (negative : Bool) (s : Text) : Option Numeral := do
  let n ← afterWhole? negative (s.takeWhile Char.isDigit) (s.dropWhile Char.isDigit)
  if n.whole = [] ∧ n.fraction.getD [] = [] then none else some n

/-- All digits, as one number. -/
def significand (n : Numeral) : Nat := Text.toNat (n.whole ++ n.fraction.getD [])

def isWhole (n : Numeral) : Bool := n.fraction.isNone && n.exponent.isNone

/-- The number nearest to the decimal. -/
def toNumber (n : Numeral) : Number :=
  .ofDecimal n.negative n.significand (n.exponent.getD 0 - (n.fraction.getD []).length)

/-- Appends digits to a number as long as it stays below 2^64; then how many digits are left. -/
def appendDigits (n : Nat) : Text → Nat × Nat
  | [] => (n, 0)
  | d :: rest =>
    let next := 10 * n + (d.toNat - 48)
    if next < Nat.pow 2 64 then appendDigits next rest else (n, rest.length + 1)

/-- The number `x · 10 ^ e`, scaled by powers of at most `10 ^ 308`; `none` when it is too great. -/
def scale? (x : Number) (e : Int) : Option Number :=
  if x.isZero then some x
  else if 308 < e then none
  else if 0 ≤ e then
    let r := x.timesPowerOfTen e.toNat
    if r.isFinite then some r else none
  else if -308 ≤ e then some (x.overPowerOfTen (-e).toNat)
  else if -616 ≤ e then some ((x.overPowerOfTen 308).overPowerOfTen (-308 - e).toNat)
  else some (.finite false 0 Number.leastExponent)

/-- The number that a document's numeral stands for; `none` when it is too great. Digits that do not
fit in 64 bits count by their place only, if they stand before the point. -/
def scaledNumber? (n : Numeral) : Option Number := do
  let fraction := n.fraction.getD []
  let (whole, dropped) := appendDigits 0 n.whole
  let (significand, ignored) := appendDigits whole fraction
  let exponent := n.exponent.getD 0 + dropped - (fraction.length - ignored : Nat)
  let x ← scale? (.ofRatio false significand 1) exponent
  return if n.negative then x.negate else x

end Numeral

namespace Number

/-- Whether a text is a word, in any case of its letters. -/
def isNamed (word : String) (s : Text) : Bool := Text.sameIgnoringCase word.toList s

/-- The number that a text spells: a numeral, an infinity, or `nan`. -/
def parse? (s : Text) : Option Number :=
  let (negative, rest) :=
    match s with
    | '-' :: rest => (true, rest)
    | '+' :: rest => (false, rest)
    | _ => (false, s)
  if isNamed "inf" rest || isNamed "infinity" rest then some (.infinity negative)
  else if isNamed "nan" rest then some .nan
  else (Numeral.unsigned? negative rest).map Numeral.toNumber

end Number

end ColumnFormula
