import ColumnFormula.Conversion
import ColumnFormula.Diagnostic
import ColumnFormula.Function
import ColumnFormula.Registry
import ColumnFormula.Token.Spacing

/-!
From cell formulas to column formulas. Each token is replaced on its own:

* `A2` becomes `$Product`, the value in the row at hand;
* `A$2` becomes `Product[0]`, a fixed row counted from the first row of data;
* `A2:A10` and `A:A` become `Table1.Product`, the whole column.

A reference that has no such form stays as it is, with a remark.
-/

namespace ColumnFormula

/-- Where a sheet stands among others: its name, and the sheets of the workbook. -/
structure Place where
  sheet : Text
  workbook : Registry

/-- What the formulas of one sheet are converted with. -/
structure Converter where
  mapping : Mapping
  /-- The row that index 0 of a fixed row stands for. -/
  firstDataRow : Nat
  warnUnknownFunctions : Bool := true
  /-- Unknown for a formula that belongs to no workbook. -/
  place : Option Place := none

/-- A token's new text, and the remarks about it. -/
structure Replacement where
  text : Text
  diagnostics : List Diagnostic := []
deriving DecidableEq

/-- The sheet that a reference is to. -/
inductive Target
  | own
  | other (mapping : Mapping)
  | unknown
deriving DecidableEq

namespace Converter

/-- The converter of a sheet that starts in row 1, with no other sheets around. -/
def ofOptions (mapping : Mapping) (options : Options) : Converter where
  mapping
  firstDataRow := min (options.headerRows + 1) Bound.greatestRow
  warnUnknownFunctions := options.warnUnknownFunctions

def withPlace (sheet : Text) (workbook : Registry) (t : Converter) : Converter :=
  { t with place := some ⟨sheet, workbook⟩ }

def withFirstDataRow (row : Nat) (t : Converter) : Converter :=
  { t with firstDataRow := max row 1 }

/-- The sheet that a name stands for. The sheet's own name counts in any case of its ASCII letters;
no name is the own sheet. -/
def target (t : Converter) (sheet : Option Text) : Target :=
  match sheet, t.place with
  | none, _ => .own
  | some _, none => .unknown
  | some name, some place =>
    if Text.sameIgnoringCase place.sheet name then .own
    else
      match place.workbook.get? name with
      | some mapping => .other mapping
      | none => .unknown

/-- A token left as it is, with a remark. -/
def keep (token : Token) (d : Diagnostic) : Replacement := ⟨token.text, [d]⟩

/-- The replacement of a range, looked up in the columns of its sheet. -/
def rangeIn (m : Mapping) (token : Token) : Replacement :=
  match Reference.parse? token.referenceText with
  | none => keep token (.invalidReference token.referenceText)
  | some r =>
    if r.isSingleColumn then
      match m.get? r.first.column with
      | none => keep token (.unknownColumn r.first.column token.text)
      | some identifier =>
        let whole := m.table ++ '.' :: identifier
        if r.first.row.isSome && r.rowsAbsolute then
          ⟨whole, [.rowBoundsDropped token.text whole]⟩
        else ⟨whole, []⟩
    else keep token (.severalColumns token.text)

/-- The replacement of a range. -/
def range (t : Converter) (sheet : Option Text) (token : Token) : Replacement :=
  match t.target sheet with
  | .own => rangeIn t.mapping token
  | .other m => rangeIn m token
  | .unknown => keep token (.unknownSheet (sheet.getD []) token.text)

/-- The replacement of a cell of the own sheet, in a formula that stands in `row`. -/
def ownCell (t : Converter) (row : Option Nat) (token : Token) : Replacement :=
  match Reference.parse? token.referenceText with
  | none => keep token (.invalidReference token.referenceText)
  | some r =>
    match t.mapping.get? r.first.column with
    | none => keep token (.unknownColumn r.first.column token.text)
    | some identifier =>
      let cellRow := r.first.row.getD 0
      if r.first.rowAbsolute then
        if cellRow < t.firstDataRow then keep token (.headerRow token.text)
        else
          let fixed := identifier ++ '[' :: Text.ofNat (cellRow - t.firstDataRow) ++ [']']
          ⟨fixed, [.fixedRow token.text fixed]⟩
      else
        let elsewhere := (row.filter (· ≠ cellRow)).toList
        ⟨'$' :: identifier, elsewhere.map fun own => .otherRow token.text cellRow own⟩

/-- The replacement of a cell. -/
def cell (t : Converter) (row : Option Nat) (sheet : Option Text) (token : Token) : Replacement :=
  match t.target sheet with
  | .own => t.ownCell row token
  | .other _ => keep token (.cellOfOtherSheet token.text)
  | .unknown => keep token (.unknownSheet (sheet.getD []) token.text)

/-- The replacement of a function name. -/
def function (t : Converter) (token : Token) : Replacement :=
  let name := Function.withoutMark token.text
  if t.warnUnknownFunctions && !Function.isSupported name then
    ⟨name, [.unsupportedFunction name]⟩
  else ⟨name, []⟩

/-- The replacement of a token in a formula that stands in `row`, if that is known. -/
def replace (t : Converter) (row : Option Nat) (token : Token) : Replacement :=
  match token.kind with
  | .range sheet => t.range sheet token
  | .cell sheet => t.cell row sheet token
  | .function => t.function token
  | .name => keep token (.unknownName token.text)
  | .errorLiteral => keep token (.errorLiteral token.text)
  | _ => ⟨token.text, []⟩

def isRange (token : Token) : Bool :=
  match token.kind with
  | .range _ => true
  | _ => false

/-- The tokens of a formula with their new texts. -/
def replaceAll (t : Converter) (row : Option Nat) (tokens : List Token) : List Token :=
  tokens.map fun token => { token with text := (t.replace row token).text }

/-- The remarks about the tokens of a formula: those about ranges, then the others. -/
def diagnose (t : Converter) (row : Option Nat) (tokens : List Token) : List Diagnostic :=
  (tokens.filter isRange ++ tokens.filter (!isRange ·)).flatMap
    fun token => (t.replace row token).diagnostics

/-- A formula without an equals sign in front. -/
def body : Text → Text
  | '=' :: rest => rest
  | formula => formula

/-- Converts a formula that stands in `row`, if that is known. Only an open quote makes it fail,
and no warning is given twice. -/
def convert (t : Converter) (formula : Text) (row : Option Nat := none) : Conversion :=
  if Text.isAllBlank (body formula) then .succeeded formula [] []
  else
    match Token.tokenize (body formula) with
    | .error e => .failed formula ("Conversion failed: ".toList ++ e.message)
    | .ok tokens =>
      .succeeded formula (Token.spaced (t.replaceAll row tokens))
        ((t.diagnose row tokens).map Diagnostic.message).eraseDups

end Converter

end ColumnFormula
