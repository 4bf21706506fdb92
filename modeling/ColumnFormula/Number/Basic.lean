/-!
Binary floating-point numbers of 64 bits, as data: a sign, a significand below 2^53 and an exponent
of two. Every operation rounds an exact ratio of natural numbers once, to the nearest number, a tie
to the even significand.
-/

namespace ColumnFormula

/-- A power of a natural number, which is 1 for a negative exponent. -/
def natPower (base : Nat) (exponent : Int) : Nat := base.pow exponent.toNat

/-- A binary64 number. Two finite numbers are equal when sign, significand and exponent are, so the
two zeros differ. -/
inductive Number
  | nan
  | infinity (negative : Bool)
  /-- The value `significand · 2 ^ exponent`, negated if `negative`. -/
  | finite (negative : Bool) (significand : Nat) (exponent : Int)
deriving DecidableEq

namespace Number

/-- Every significand is below this bound, 2 ^ 53. -/
def significandBound : Nat := 9007199254740992

/-- The least significand with all 53 bits, 2 ^ 52. -/
def leastFull : Nat := 4503599627370496

/-- The exponent of the smallest positive number. -/
def leastExponent : Int := -1074

/-- The exponent of the greatest finite number. -/
def greatestExponent : Int := 971

/-- The quotient of two natural numbers, rounded to the nearest one, a tie to the even one. -/
def roundQuotient (num den : Nat) : Nat :=
  let below := num / den
  let twice := 2 * (num % den)
  if twice < den then below
  else if den < twice then below + 1
  else below + below % 2

/-- A significand with its exponent, or an infinity when the exponent is too great. -/
def bounded (negative : Bool) (significand : Nat) (exponent : Int) : Number :=
  if greatestExponent < exponent then infinity negative else finite negative significand exponent

/-- The quotient `num / (den · 2 ^ e)` as numerator and denominator. -/
def scaled (num den : Nat) (e : Int) : Nat × Nat :=
  (num * natPower 2 (-e), den * natPower 2 e)

/-- The exponent at which a positive ratio has a significand of 53 bits, or the least exponent. -/
def exponentFor (num den : Nat) : Int :=
  let low := max ((num.log2 : Int) - den.log2 - 53) leastExponent
  let (n, d) := scaled num den low
  if significandBound ≤ n / d then low + 1 else low

/-- The number nearest to the ratio `num / den`, negated if `negative`. -/
def ofRatio (negative : Bool) (num den : Nat) : Number :=
  if num = 0 then finite negative 0 leastExponent
  else
    let e := exponentFor num den
    let (n, d) := scaled num den e
    let m := roundQuotient n d
    if m = significandBound then bounded negative leastFull (e + 1) else bounded negative m e

/-- The number nearest to an integer. -/
def ofInt (i : Int) : Number := ofRatio (i < 0) i.natAbs 1

/-- A decimal of this many places to the left is greater, and one of this many to the right smaller,
than every positive finite number. -/
def decimalReach : Int := 400

/-- The number nearest to `significand · 10 ^ exponent`, negated if `negative`. -/
def ofDecimal (negative : Bool) (significand : Nat) (exponent : Int) : Number :=
  if significand = 0 then ofRatio negative 0 1
  else if decimalReach < exponent then infinity negative
  else if exponent + (Nat.toDigits 10 significand).length < -decimalReach then
    ofRatio negative 0 1
  else ofRatio negative (significand * natPower 10 exponent) (natPower 10 (-exponent))

def isZero : Number → Bool
  | finite _ m _ => m == 0
  | _ => false

def isFinite : Number → Bool
  | finite .. => true
  | _ => false

def negate : Number → Number
  | nan => nan
  | infinity negative => infinity !negative
  | finite negative m e => finite (!negative) m e

/-- The product of a finite number with `10 ^ k`, where the power is itself rounded to a number
first. -/
def timesPowerOfTen (x : Number) (k : Nat) : Number :=
  match x, ofRatio false (Nat.pow 10 k) 1 with
  | finite negative m e, finite _ p f =>
    ofRatio negative (m * p * natPower 2 (e + f)) (natPower 2 (-(e + f)))
  | _, _ => x

/-- The quotient of a finite number by `10 ^ k`, where the power is itself rounded to a number
first. -/
def overPowerOfTen (x : Number) (k : Nat) : Number :=
  match x, ofRatio false (Nat.pow 10 k) 1 with
  | finite negative m e, finite _ p f =>
    ofRatio negative (m * natPower 2 (e - f)) (p * natPower 2 (f - e))
  | _, _ => x

end Number

end ColumnFormula
