import ColumnFormula.Text.UpperCase

namespace ColumnFormula.Function

def supported : List Text :=
  ["SUM", "AVERAGE", "AVERAGEA", "MAX", "MAXA", "MIN", "MINA", "COUNT", "COUNTA", "PRODUCT",
    "MEDIAN", "STDEV", "STDEVA", "STDEVP", "STDEVPA", "VAR", "VARA", "VARP", "VARPA",
    "SUMIF", "SUMIFS", "COUNTIF", "COUNTIFS", "AVERAGEIF", "AVERAGEIFS",
    "IF", "IFS", "AND", "OR", "NOT", "XOR", "TRUE", "FALSE", "IFERROR", "IFNA", "ISBLANK",
    "ISERROR", "ISNUMBER", "ISTEXT",
    "ABS", "ROUND", "ROUNDUP", "ROUNDDOWN", "INT", "TRUNC", "SQRT", "POWER", "EXP", "LN", "LOG",
    "LOG10", "PI", "MOD", "CEILING", "FLOOR", "SIGN", "EVEN", "ODD",
    "CONCAT", "CONCATENATE", "LEFT", "RIGHT", "MID", "LEN", "UPPER", "LOWER", "PROPER", "TRIM",
    "SUBSTITUTE", "REPLACE", "REPT", "FIND", "SEARCH", "TEXT", "VALUE", "EXACT",
    "TODAY", "NOW", "DATE", "DATEVALUE", "YEAR", "MONTH", "DAY", "HOUR", "MINUTE", "SECOND",
    "WEEKDAY", "EDATE", "EOMONTH"].map String.toList

def isSupported (name : Text) : Bool := supported.contains (Text.upperCase name)

/-- What stored formulas put before the names of newer functions, the longer mark first. -/
def futureMarks : List Text := ["_xlfn._xlws.", "_xlfn.", "_xlws."].map String.toList

/-- The name without a mark in front of it. -/
def withoutMark (name : Text) : Text :=
  match futureMarks.find? fun mark => Text.sameIgnoringCase mark (name.take mark.length) with
  | some mark => name.drop mark.length
  | none => name

end ColumnFormula.Function
