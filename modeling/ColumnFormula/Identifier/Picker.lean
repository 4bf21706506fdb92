import ColumnFormula.Identifier.Reserved
import ColumnFormula.Identifier.Sanitize
import ColumnFormula.Text.Blank
import ColumnFormula.Text.UpperCase

namespace ColumnFormula.Identifier

/-- Why an identifier is not free. -/
inductive Clash
  | reserved
  | used
deriving DecidableEq

/-- The change of an identifier that was not free. -/
structure Renaming where
  clash : Clash
  /-- The identifier that was not free. -/
  base : Text
  /-- The text it was made from. -/
  raw : Text
  /-- The identifier handed out in its place. -/
  identifier : Text
deriving DecidableEq

def Renaming.message (r : Renaming) : Text :=
  let reason :=
    match r.clash with
    | .reserved => "is a reserved name".toList
    | .used => "is already used".toList
  ["'".toList, r.base, "' ".toList, reason, "; '".toList, Text.trim r.raw, "' renamed to '".toList,
    r.identifier, "'".toList].flatten

/-- An identifier handed out, and how it was renamed if it was. -/
structure Picked where
  identifier : Text
  change : Option Renaming := none
deriving DecidableEq

/-- What is known of the identifiers handed out so far. Reserved and taken names are kept in upper
case. -/
structure Picker where
  reserved : List Text := []
  fallback : Text := defaultFallback
  taken : List Text := []

namespace Picker

/-- A picker that keeps further words reserved. -/
def withReserved (words : List Text) (p : Picker) : Picker :=
  { p with reserved := p.reserved ++ words.map Text.upperCase }

/-- Whether a name is reserved here, for every destination or among the further words. -/
def isReservedHere (p : Picker) (s : Text) : Bool :=
  isReserved s || p.reserved.contains (Text.upperCase s)

/-- Whether a name may still be handed out. -/
def isFree (p : Picker) (s : Text) : Bool :=
  !p.isReservedHere s && !p.taken.contains (Text.upperCase s)

/-- What a number is appended to: an underscore keeps it apart from a digit at the end. -/
def stem (base : Text) : Text :=
  match base.getLast? with
  | some c => if c.isDigit then base ++ ['_'] else base
  | none => base

/-- A number behind a stem has 32 bits. -/
def numberBound : Nat := 4294967296

/-- The number at which counting up ends: the first that makes the stem free. -/
def countUp? (p : Picker) (s : Text) (k : Nat) : Option Nat :=
  if p.isFree (s ++ Text.ofNat k) then some k
  else if k + 1 < numberBound then p.countUp? s (k + 1) else none
termination_by numberBound - k
decreasing_by exact Nat.sub_succ_lt_self _ _ (Nat.lt_of_succ_lt ‹k + 1 < numberBound›)

/-- The greatest number that has to be tried. One of so many candidates is free, as each name that
is taken or reserved can rule out only one. -/
def lastSuffix (p : Picker) : Nat := p.taken.length + p.reserved.length + 2

/-- The least number from 2 on that makes a stem free, however great it is. -/
def suffix (p : Picker) (s : Text) : Nat :=
  ((List.range' 2 (p.lastSuffix - 1)).find? fun k => p.isFree (s ++ Text.ofNat k)).getD p.lastSuffix

/-- The number behind a stem. It is found by counting up from 2; only where that does not end, it is
found by trying the candidates. -/
def number (p : Picker) (s : Text) : Nat := (p.countUp? s 2).getD (p.suffix s)

def take (p : Picker) (identifier : Text) : Picker :=
  { p with taken := Text.upperCase identifier :: p.taken }

/-- Hands out a name, or the first free name with a number. -/
def claim (p : Picker) (base raw : Text) : Picked × Picker :=
  if p.isFree base then (⟨base, none⟩, p.take base)
  else
    let clash := if p.isReservedHere base then Clash.reserved else Clash.used
    let identifier := stem base ++ Text.ofNat (p.number (stem base))
    (⟨identifier, some ⟨clash, base, raw, identifier⟩⟩, p.take identifier)

/-- Hands out an identifier for a raw text. -/
def pick (p : Picker) (raw : Text) : Picked × Picker := p.claim (sanitize p.fallback raw) raw

/-- Hands out an identifier for a raw table name. -/
def pickTable (p : Picker) (raw : Text) : Picked × Picker := p.claim (sanitizeTable raw) raw

def pickAll (p : Picker) : List Text → List Picked
  | [] => []
  | raw :: rest =>
    let (picked, next) := p.pick raw
    picked :: next.pickAll rest

def pickAllTables (p : Picker) : List Text → List Picked
  | [] => []
  | raw :: rest =>
    let (picked, next) := p.pickTable raw
    picked :: next.pickAllTables rest

end Picker

end ColumnFormula.Identifier
