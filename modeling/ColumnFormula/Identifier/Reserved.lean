import ColumnFormula.Text.Basic

namespace ColumnFormula.Identifier

/-- Keywords of the formula language, which tells cases apart. -/
def keywords : List Text :=
  ["False", "None", "True", "and", "as", "assert", "async", "await", "break", "class", "continue",
    "def", "del", "elif", "else", "except", "finally", "for", "from", "global", "if", "import",
    "in", "is", "lambda", "nonlocal", "not", "or", "pass", "raise", "return", "try", "while",
    "with", "yield"].map String.toList

/-- Columns that every table has, in any case of their letters. -/
def builtinColumns : List Text := ["id", "manualSort"].map String.toList

/-- Whether an identifier is a keyword or the name of a built-in column. -/
def isReserved (s : Text) : Bool :=
  keywords.contains s || builtinColumns.any (Text.sameIgnoringCase s)

end ColumnFormula.Identifier
