import ColumnFormula.Proofs.ColumnMapping
import ColumnFormula.Proofs.QuotedSheets
import ColumnFormula.Proofs.ReferencePatterns

namespace ColumnFormula

open Lexeme

namespace Bound

def Written.ofColumn (column : Nat) : Written := ⟨false, Column.letters column, false, []⟩

theorem Written.ofColumn_wellFormed (column : Nat) : (ofColumn column).WellFormed where
  letters_ne_nil := Column.letters_ne_nil column
  letters_isUpper := Column.letters_isUpper column
  digits_isDigit := by simp [ofColumn]
  digits_ne_nil := by simp [ofColumn]

theorem Written.ofColumn_text (column : Nat) : (ofColumn column).text = Column.letters column := by
  simp [Written.text, ofColumn, markText]

theorem isBound_letters (column : Nat) : isBound (Column.letters column) :=
  isBound_iff.mpr ⟨_, Written.ofColumn_wellFormed column, Written.ofColumn_text column⟩

theorem parse?_letters {column : Nat} (h : column + 1 < Column.indexBound) :
    parse? (Column.letters column) = some { column := Column.letters column } := by
  have hindex : Column.index? (Column.letters column) = some column :=
    Column.index?_eq_some_iff.mpr ⟨rfl, h⟩
  have hparse := parse?_text (Written.ofColumn_wellFormed column) hindex rfl
  rwa [Written.ofColumn_text] at hparse

theorem parse?_letters_eq_none {column : Nat} (h : Column.indexBound ≤ column + 1) :
    parse? (Column.letters column) = none := by
  have hindex : Column.index? (Column.letters column) = none := by
    rw [Column.index?, Column.rank_letters, if_neg]
    rintro ⟨-, -, hlt⟩
    exact Nat.not_lt.mpr h hlt
  rw [← Written.ofColumn_text, parse?, split?_text (Written.ofColumn_wellFormed column)]
  simp [Written.ofColumn, hindex]

end Bound

/-- The reference to a whole column, from the column to itself. -/
def Column.whole (column : Nat) : Text := Column.letters column ++ ':' :: Column.letters column

theorem Reference.parse?_whole {column : Nat} (h : column + 1 < Column.indexBound) :
    parse? (Column.whole column) =
      some (.range { column := Column.letters column } { column := Column.letters column }) :=
  (parse?_range_eq_some_iff (Bound.isBound_letters column) (Bound.isBound_letters column)).mpr
    ⟨_, _, Bound.parse?_letters h, Bound.parse?_letters h, rfl, rfl⟩

theorem Reference.parse?_whole_eq_none {column : Nat} (h : Column.indexBound ≤ column + 1) :
    parse? (Column.whole column) = none := by
  rw [Option.eq_none_iff_forall_ne_some]
  intro r hr
  obtain ⟨first, last, hfirst, -⟩ := (parse?_range_eq_some_iff (Bound.isBound_letters column)
    (Bound.isBound_letters column)).mp hr
  rw [Bound.parse?_letters_eq_none h] at hfirst
  contradiction

namespace Token

theorem tokenize_of_isBound {left right : Text} (hleft : isBound left) (hright : isBound right) :
    tokenize (left ++ ':' :: right) = .ok [⟨.range none, left ++ ':' :: right, 0⟩] := by
  rw [tokenize_eq_ok_iff]
  refine ⟨List.append_nil _, ⟨?_, trivial⟩, rfl⟩
  exact .range hleft hright (Text.stopsBefore_nil _)

/-- The text is one token of a kind, and the token's reference is the given one. -/
def StandsFor (kind : Kind) (text reference : Text) : Prop :=
  tokenize text = .ok [⟨kind, text, 0⟩] ∧ referenceText ⟨kind, text, 0⟩ = reference

theorem standsFor_of_tokenize {kind : Kind} {reference : Text}
    (h : tokenize reference = .ok [⟨kind, reference, 0⟩])
    (hkind : IsUnqualified ⟨kind, reference, 0⟩) (name : Text) :
    StandsFor (withSheet name kind) (quotedHead name ++ reference) reference := by
  obtain ⟨-, ⟨hreads, -⟩, -⟩ := tokenize_eq_ok_iff.mp h
  refine ⟨tokenize_qualify h hkind name, (referenceText_qualify hreads hkind name).trans ?_⟩
  rcases hkind with rfl | rfl <;> rfl

theorem standsFor_cell {reference : Text} (h : isCell reference) (name : Text) :
    StandsFor (.cell (some name)) (quotedHead name ++ reference) reference :=
  standsFor_of_tokenize (tokenize_of_isCell h) (.inl rfl) name

theorem standsFor_range {left right : Text} (hleft : isBound left) (hright : isBound right)
    (name : Text) :
    StandsFor (.range (some name)) (quotedHead name ++ (left ++ ':' :: right))
      (left ++ ':' :: right) :=
  standsFor_of_tokenize (tokenize_of_isBound hleft hright) (.inr rfl) name

end Token

namespace Converter

theorem rangeIn_whole {m : Mapping} {i : Nat} {identifier : Text} {token : Token}
    (hreference : token.referenceText = Column.whole (m.firstColumn + i))
    (hidentifier : m.identifiers[i]? = some identifier) :
    rangeIn m token =
      if m.firstColumn + i + 1 < Column.indexBound then ⟨m.table ++ '.' :: identifier, []⟩
      else keep token (.invalidReference (Column.whole (m.firstColumn + i))) := by
  split
  · rename_i hbound
    have hknown := Mapping.get?_letters hbound hidentifier
    simp [rangeIn, hreference, Reference.parse?_whole hbound, Reference.isSingleColumn,
      Reference.first, hknown]
  · rename_i hbound
    simp [rangeIn, hreference, Reference.parse?_whole_eq_none (Nat.not_lt.mp hbound)]

theorem convert_whole {t : Converter} {m : Mapping} {name identifier : Text} {i : Nat}
    (hresolves : t.ResolvesTo (some name) m) (hidentifier : m.identifiers[i]? = some identifier)
    (row : Option Nat) :
    let column := Column.whole (m.firstColumn + i)
    let formula := quotedHead name ++ column
    t.convert formula row =
      if m.firstColumn + i + 1 < Column.indexBound then
        .succeeded formula (m.table ++ '.' :: identifier) []
      else .succeeded formula formula [(Diagnostic.invalidReference column).message] := by
  intro column formula
  have hletters := Bound.isBound_letters (m.firstColumn + i)
  have hstands : Token.StandsFor (.range (some name)) formula column :=
    Token.standsFor_range hletters hletters name
  rw [t.convert_of_token hstands.1 (.inr ⟨_, rfl⟩) row, replace_rangeIn rfl hresolves row,
    rangeIn_whole hstands.2 hidentifier]
  split <;> rfl

/-- The name in quotes reaches a sheet. In front of a reference it is part of the reference's token,
and the whole columns of the first sheet with the name are converted to the columns of the sheet's
table. A column whose letters are too long to be read stays. -/
structure Reaches (name : Text) : Prop where
  cell : ∀ reference ∈ Pattern.cell.matches',
    Token.StandsFor (.cell (some name)) (quotedHead name ++ reference) reference
  range : ∀ left ∈ Pattern.bound.matches', ∀ right ∈ Pattern.bound.matches',
    Token.StandsFor (.range (some name)) (quotedHead name ++ (left ++ ':' :: right))
      (left ++ ':' :: right)
  column : ∀ (t : Converter) (place : Place) (j i : Nat) (sheet identifier : Text) (m : Mapping)
    (row : Option Nat), t.place = some place → Text.sameIgnoringCase place.sheet name = false →
    place.workbook.sheets[j]? = some (sheet, m) → Text.upperCase sheet = Text.upperCase name →
    (∀ k < j, ∀ earlier, place.workbook.sheets[k]? = some earlier →
      Text.upperCase earlier.1 ≠ Text.upperCase name) →
    m.identifiers[i]? = some identifier →
    let column := Column.whole (m.firstColumn + i)
    let formula := quotedHead name ++ column
    t.convert formula row =
      if m.firstColumn + i + 1 < Column.indexBound then
        .succeeded formula (m.table ++ '.' :: identifier) []
      else .succeeded formula formula [(Diagnostic.invalidReference column).message]

/-- Every sheet can be reached, whatever characters its name has. -/
theorem reaches_quotedHead (name : Text) : Reaches name where
  cell _ h := Token.standsFor_cell (Pattern.isCell_iff_mem.mpr h) name
  range _ hleft _ hright :=
    Token.standsFor_range (Pattern.isBound_iff_mem.mpr hleft)
      (Pattern.isBound_iff_mem.mpr hright) name
  column t place j i sheet identifier m row hplace hother hsheet hsame hfirst hidentifier := by
    have hfound : place.workbook.get? name = some m :=
      Registry.get?_eq_some_iff.mpr ⟨j, sheet, hsheet, hsame, hfirst⟩
    exact convert_whole (.other hplace hother hfound) hidentifier row

theorem reaches_quotedHead_marks :
    let orders := Mapping.ofHeadersAt ["Total".toList] 0 { tableName := "Orders".toList }
    let prices :=
      Mapping.ofHeadersAt ["Item".toList, "Price".toList] 1 { tableName := "Prices".toList }
    let place : Place := ⟨"Orders".toList,
      ⟨[("Orders".toList, orders), ("IT'S!'".toList, prices), ("it's!'".toList, orders)]⟩⟩
    let t : Converter := { mapping := orders, firstDataRow := 2, place := some place }
    let formula := "'it''s!'''!C:C".toList
    quotedHead "it's!'".toList ++ Column.whole 2 = formula ∧
      t.convert formula = .succeeded formula "Prices.Price".toList [] := by
  intro orders prices place t formula
  have hformula : quotedHead "it's!'".toList ++ Column.whole 2 = formula := by decide +kernel
  have hfirst : ∀ k < 1, ∀ earlier, place.workbook.sheets[k]? = some earlier →
      Text.upperCase earlier.1 ≠ Text.upperCase "it's!'".toList := by
    intro k hk earlier hearlier
    obtain rfl := Nat.lt_one_iff.mp hk
    obtain rfl := Option.some.inj hearlier
    decide +kernel
  have hconvert := (reaches_quotedHead "it's!'".toList).column t place 1 1 "IT'S!'".toList
    "Price".toList prices none rfl (by decide +kernel) rfl (by decide +kernel) hfirst
    (by decide +kernel)
  refine ⟨hformula, ?_⟩
  rw [← hformula]
  exact hconvert

/-- The second column of a sheet whose first has the greatest index that can be read: its reference
stays. -/
theorem convert_lastColumn :
    let orders := Mapping.ofHeadersAt ["Total".toList] 0 { tableName := "Orders".toList }
    let prices := Mapping.ofHeadersAt ["Item".toList, "Price".toList] 18446744073709551614
      { tableName := "Prices".toList }
    let workbook : Registry := ⟨[("Prices".toList, prices), ("Orders".toList, orders)]⟩
    let t : Converter :=
      { mapping := orders, firstDataRow := 2, place := some ⟨"Orders".toList, workbook⟩ }
    let formula := "'Prices'!GKGWBYLWRXTLPP:GKGWBYLWRXTLPP".toList
    Text.sameIgnoringCase "Orders".toList "Prices".toList = false ∧
      workbook.get? "Prices".toList = some prices ∧
      prices.identifiers[1]? = some "Price".toList ∧
      quotedHead "Prices".toList ++ Column.whole (prices.firstColumn + 1) = formula ∧
      t.convert formula = .succeeded formula formula
        ["Invalid reference 'GKGWBYLWRXTLPP:GKGWBYLWRXTLPP'".toList] := by
  decide +kernel

end Converter

end ColumnFormula
