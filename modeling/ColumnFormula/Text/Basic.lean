namespace ColumnFormula

/-- Text, character by character. -/
abbrev Text := List Char

namespace Text

/-- The text with its ASCII letters in upper case. -/
def asciiUpper (s : Text) : Text := s.map Char.toUpper

/-- Equality up to the case of ASCII letters. -/
def sameIgnoringCase (s t : Text) : Bool := asciiUpper s == asciiUpper t

/-- The text without the characters of a class at its two ends. -/
def trimBoth (p : Char → Bool) (s : Text) : Text :=
  ((s.dropWhile p).reverse.dropWhile p).reverse

def ofNat (n : Nat) : Text := Nat.toDigits 10 n

/-- The number that a run of decimal digits spells; other characters count by their code. -/
def toNat (digits : Text) : Nat :=
  digits.foldl (fun n d => 10 * n + (d.toNat - 48)) 0

/-- The text between the occurrences of a separator, which are left out. -/
def splitAtEach (separator : Char) : Text → List Text
  | [] => [[]]
  | c :: rest =>
    match splitAtEach separator rest with
    | [] => [[]]
    | piece :: pieces => if c = separator then [] :: piece :: pieces else (c :: piece) :: pieces

end Text

end ColumnFormula
