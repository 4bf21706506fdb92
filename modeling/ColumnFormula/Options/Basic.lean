import ColumnFormula.Text.Blank

namespace ColumnFormula

/-- What a caller may choose about a conversion. -/
structure Options where
  /-- The table that references to whole columns name. -/
  tableName : Text := "Table1".toList
  /-- The rows from the top of a sheet's used range down to its first row of data. -/
  headerRows : Nat := 1
  /-- The identifier for a header without a word in it. -/
  fallbackColumnName : Text := "Column".toList
  /-- Identifiers to keep reserved besides the built-in ones. -/
  reservedWords : List Text := []
  /-- Whether a function that is not supported is warned about. -/
  warnUnknownFunctions : Bool := true
deriving DecidableEq

namespace Options

/-- Why options are not acceptable. -/
inductive Fault
  | noHeaderRow
  | blankTableName
deriving DecidableEq

def Fault.message : Fault → Text
  | noHeaderRow => "header_rows must be at least 1 (the header row itself)".toList
  | blankTableName => "table_name must not be empty".toList

/-- The first fault of the options, if they have one. -/
def fault? (o : Options) : Option Fault :=
  if o.headerRows = 0 then some .noHeaderRow
  else if Text.isAllBlank o.tableName then some .blankTableName
  else none

def withTableName (tableName : Text) (o : Options) : Options := { o with tableName }

end Options

end ColumnFormula
