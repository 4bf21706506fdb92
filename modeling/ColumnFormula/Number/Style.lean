import ColumnFormula.Number.Shortest
import ColumnFormula.Text.Basic

namespace ColumnFormula

namespace Number

/-- The decisions of one written form. -/
structure Style where
  /-- Which of two equally near shortest decimals is written. -/
  tie : Tie
  /-- Whether a number whose leading digit counts `10 ^ k` is written without an exponent. -/
  positional : Int → Bool
  /-- Whether a whole number ends in `.0`. -/
  wholePoint : Bool
  /-- Whether a positive exponent has a sign. -/
  exponentPlus : Bool
  nan : Text
  infinity : Text
  negativeInfinity : Text

/-- The digits with the point after the first `k + 1` of them, zeros filled in on either side. -/
def Style.layOut (style : Style) (digits : Text) (k : Int) : Text :=
  if k < 0 then
    "0.".toList ++ List.replicate (-k - 1).toNat '0' ++ digits
  else
    let whole := k.toNat + 1
    if digits.length ≤ whole then
      digits ++ List.replicate (whole - digits.length) '0'
        ++ (if style.wholePoint then ".0".toList else [])
    else digits.take whole ++ '.' :: digits.drop whole

/-- The digits with the point after the first one, followed by the exponent. -/
def Style.layOutWithExponent (style : Style) (digits : Text) (k : Int) : Text :=
  digits.take 1 ++ (if digits.length ≤ 1 then [] else '.' :: digits.drop 1)
    ++ 'e' :: (if k < 0 then ['-'] else if style.exponentPlus then ['+'] else [])
    ++ Text.ofNat k.natAbs

/-- The decimal `digits · 10 ^ exponent`, laid out. -/
def Style.writeDecimal (style : Style) (d : Decimal) : Text :=
  let digits := Text.ofNat d.digits
  let k := d.exponent + digits.length - 1
  if style.positional k then style.layOut digits k else style.layOutWithExponent digits k

/-- The number, written in a style. -/
def Style.write (style : Style) : Number → Text
  | .nan => style.nan
  | .infinity negative => if negative then style.negativeInfinity else style.infinity
  | .finite negative m e =>
    (if negative then ['-'] else [])
      ++ (if m = 0 then style.layOut ['0'] 0
          else style.writeDecimal (Decimal.shortest style.tie m e))

/-- Numbers as the text of a cell: never an exponent, and no point in a whole number. -/
def cellStyle : Style where
  tie := .upward
  positional _ := true
  wholePoint := false
  exponentPlus := false
  nan := "NaN".toList
  infinity := "inf".toList
  negativeInfinity := "-inf".toList

/-- Numbers in a JSON document, which has none that are not finite. -/
def jsonStyle : Style where
  tie := .toEven
  positional k := -5 ≤ k && k < 16
  wholePoint := true
  exponentPlus := true
  nan := "null".toList
  infinity := "null".toList
  negativeInfinity := "null".toList

/-- Numbers in a YAML document. -/
def yamlStyle : Style where
  tie := .toEven
  positional k := -5 ≤ k && k < 16
  wholePoint := true
  exponentPlus := false
  nan := ".nan".toList
  infinity := ".inf".toList
  negativeInfinity := "-.inf".toList

end Number

end ColumnFormula
