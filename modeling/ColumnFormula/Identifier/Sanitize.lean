import ColumnFormula.Text.Basic

namespace ColumnFormula.Identifier

def isWordChar (c : Char) : Bool := c.isAlphanum || c == '_'

/-- Whether a text is an identifier. -/
def isValid : Text → Bool
  | [] => false
  | c :: rest => isWordChar c && !c.isDigit && rest.all isWordChar

/-- The text with every character that no identifier holds replaced by an underscore. -/
def mask (raw : Text) : Text := raw.map fun c => if isWordChar c then c else '_'

/-- The text with each run of underscores shortened to one. -/
def collapse : Text → Text
  | [] => []
  | c :: rest =>
    if c = '_' ∧ rest.head? = some '_' then collapse rest else c :: collapse rest

/-- The text with an underscore in front when it starts with a digit. -/
def guardDigit (s : Text) : Text :=
  match s with
  | [] => []
  | c :: _ => if c.isDigit then '_' :: s else s

/-- The words of a raw text joined by underscores. The digit is guarded after trimming, which would
take the added underscore away again. -/
def ofWords (raw : Text) : Text :=
  guardDigit (Text.trimBoth (· == '_') (collapse (mask raw)))

/-- The identifier for text without a word, when no other is asked for. -/
def defaultFallback : Text := "Column".toList

/-- The fallback without the characters that no identifier holds, or the default if none are left.
-/
def ofFallback (fallback : Text) : Text :=
  match guardDigit (fallback.filter isWordChar) with
  | [] => defaultFallback
  | s => s

/-- The identifier for a raw text, or for the fallback when the text has no word in it. -/
def sanitize (fallback raw : Text) : Text :=
  match ofWords raw with
  | [] => ofFallback fallback
  | s => s

/-- The text with its first letter in upper case. -/
def capitalize : Text → Text
  | [] => []
  | c :: rest => c.toUpper :: rest

/-- The identifier for a raw table name, which starts with a capital. -/
def sanitizeTable (raw : Text) : Text := capitalize (sanitize "Table".toList raw)

end ColumnFormula.Identifier
