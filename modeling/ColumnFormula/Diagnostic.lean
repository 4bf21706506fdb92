import ColumnFormula.Text.Basic

namespace ColumnFormula

/-- A remark about one token of a formula. -/
inductive Diagnostic
  | unknownSheet (sheet reference : Text)
  | cellOfOtherSheet (reference : Text)
  | invalidReference (reference : Text)
  | severalColumns (range : Text)
  | unknownColumn (column reference : Text)
  | rowBoundsDropped (range replacement : Text)
  | headerRow (reference : Text)
  | fixedRow (reference replacement : Text)
  | otherRow (reference : Text) (row formulaRow : Nat)
  | unsupportedFunction (function : Text)
  | unknownName (name : Text)
  | errorLiteral (text : Text)
deriving DecidableEq

def Diagnostic.message : Diagnostic → Text
  | unknownSheet sheet reference =>
    ["Unknown sheet '".toList, sheet, "' in reference '".toList, reference,
      "'; kept unchanged".toList].flatten
  | cellOfOtherSheet reference =>
    ["Cross-sheet cell reference '".toList, reference,
      "' cannot be converted; kept unchanged".toList].flatten
  | invalidReference reference => ["Invalid reference '".toList, reference, "'".toList].flatten
  | severalColumns range =>
    ["Multi-column range '".toList, range,
      "' cannot be expressed as a column reference; kept unchanged".toList].flatten
  | unknownColumn column reference =>
    ["Unknown column '".toList, column, "' in reference '".toList, reference, "'".toList].flatten
  | rowBoundsDropped range replacement =>
    ["Absolute range '".toList, range, "' converted to whole column '".toList, replacement,
      "'; its row bounds are dropped".toList].flatten
  | headerRow reference =>
    ["Absolute reference '".toList, reference,
      "' points into the header rows; kept unchanged".toList].flatten
  | fixedRow reference replacement =>
    ["Absolute row reference '".toList, reference, "' converted to fixed-row access '".toList,
      replacement, "'; it will not follow row reordering".toList].flatten
  | otherRow reference row formulaRow =>
    ["Reference '".toList, reference, "' points at row ".toList, Text.ofNat row,
      " from a formula in row ".toList, Text.ofNat formulaRow,
      "; converted to the current row's value".toList].flatten
  | unsupportedFunction function =>
    ["Unsupported function '".toList, function, "' kept unchanged".toList].flatten
  | unknownName name =>
    ["Unrecognized name '".toList, name,
      "' kept unchanged (named ranges are not supported)".toList].flatten
  | errorLiteral text => ["Error literal '".toList, text, "' kept unchanged".toList].flatten

end ColumnFormula
