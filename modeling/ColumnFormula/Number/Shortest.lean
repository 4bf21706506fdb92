import ColumnFormula.Number.Basic

namespace ColumnFormula

/-- The decimal `digits · 10 ^ exponent`. -/
structure Decimal where
  digits : Nat
  exponent : Int
deriving DecidableEq

/-- What becomes of two nearest decimals that are equally near. -/
inductive Tie
  | upward
  | toEven
deriving DecidableEq

namespace Decimal

/-- The decimal without zeros at the end of its digits. -/
def stripZeros (d : Decimal) : Decimal :=
  if d.digits ≠ 0 ∧ d.digits % 10 = 0 then stripZeros ⟨d.digits / 10, d.exponent + 1⟩ else d
termination_by d.digits
decreasing_by exact Nat.div_lt_self (by omega) (by omega)

/-- The order of `a · 10 ^ i` and `b · 2 ^ j`. -/
def compareBinary (a : Nat) (i : Int) (b : Nat) (j : Int) : Ordering :=
  compare (a * natPower 10 i * natPower 2 (-j)) (b * natPower 2 j * natPower 10 (-i))

/-- Whether the decimal lies among the reals that round to `m · 2 ^ e`. These reach half-way to the
neighbour on either side, ends included when `m` is even; the neighbour below a power of two is only
half as far away as the one above. -/
def readsBack (m : Nat) (e : Int) (d : Decimal) : Bool :=
  let low := if m = Number.leastFull ∧ Number.leastExponent < e then 4 * m - 1 else 4 * m - 2
  let high := 4 * m + 2
  let ends := m % 2 == 0
  let atLow := compareBinary d.digits d.exponent low (e - 2)
  let atHigh := compareBinary d.digits d.exponent high (e - 2)
  (atLow == .gt || (ends && atLow == .eq)) && (atHigh == .lt || (ends && atHigh == .eq))

/-- The greatest multiple of `10 ^ i` that is at most `m · 2 ^ e`, as a multiple. -/
def floorOnGrid (m : Nat) (e i : Int) : Nat :=
  m * natPower 2 e * natPower 10 (-i) / (natPower 10 i * natPower 2 (-e))

/-- Of the two multiples of `10 ^ i` around `m · 2 ^ e`, the one that reads back; of two that do,
the nearer. -/
def onGrid? (tie : Tie) (m : Nat) (e i : Int) : Option Decimal :=
  let below := floorOnGrid m e i
  let down : Decimal := ⟨below, i⟩
  let up : Decimal := ⟨below + 1, i⟩
  match readsBack m e down, readsBack m e up with
  | true, true =>
    match compareBinary (2 * below + 1) i (2 * m) e with
    | .gt => some down
    | .lt => some up
    | .eq => some (if tie = .toEven ∧ below % 2 = 0 then down else up)
  | true, false => some down
  | false, true => some up
  | false, false => none

/-- An exponent of ten whose power is greater than `m · 2 ^ e`. -/
def ceilingExponent (m : Nat) (e : Int) : Int :=
  ((m.log2 : Int) + 1 + e) * 30103 / 100000 + 2

/-- The decimal that equals `m · 2 ^ e`. -/
def exact (m : Nat) (e : Int) : Decimal :=
  ⟨m * natPower 2 e * natPower 5 (-e), min e 0⟩

/-- The shortest decimal that reads back as `m · 2 ^ e`, where `m` is positive. The grids are tried
from coarse to fine; twenty of them reach seventeen digits, and these always suffice. -/
def shortest (tie : Tie) (m : Nat) (e : Int) : Decimal :=
  let start := ceilingExponent m e
  let found := (List.range 20).findSome? fun (k : Nat) => onGrid? tie m e (start - k)
  stripZeros (found.getD (exact m e))

end Decimal

end ColumnFormula
