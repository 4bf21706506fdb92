namespace ColumnFormula.Text

/-- Closed ranges of code points, ascending and apart. -/
abbrev CodeRanges := List (Nat × Nat)

/-- Whether a character lies in one of the ranges. -/
def CodeRanges.holds (ranges : CodeRanges) (c : Char) : Bool :=
  ranges.any fun r => r.1 ≤ c.toNat && c.toNat ≤ r.2

/-- The order that makes a list of ranges a table: each is a range, and starts past the one
before. -/
def CodeRanges.ascending : CodeRanges → Bool
  | [] => true
  | [r] => r.1 ≤ r.2
  | r :: s :: rest => r.1 ≤ r.2 && r.2 < s.1 && ascending (s :: rest)

end ColumnFormula.Text
