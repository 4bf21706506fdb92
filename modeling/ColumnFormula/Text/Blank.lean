import ColumnFormula.Text.Basic
import ColumnFormula.Text.CodeRanges

namespace ColumnFormula.Text

/-- The ranges of the property White_Space. -/
def blankRanges : CodeRanges :=
  [(0x09, 0x0D), (0x20, 0x20), (0x85, 0x85), (0xA0, 0xA0), (0x1680, 0x1680), (0x2000, 0x200A),
    (0x2028, 0x2029), (0x202F, 0x202F), (0x205F, 0x205F), (0x3000, 0x3000)]

def isBlank (c : Char) : Bool := blankRanges.holds c

def trim (s : Text) : Text := trimBoth isBlank s

/-- A text is blank when it holds nothing but blanks. -/
def isAllBlank (s : Text) : Bool := s.all isBlank

end ColumnFormula.Text
