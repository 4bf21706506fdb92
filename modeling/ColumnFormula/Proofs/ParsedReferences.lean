import ColumnFormula.Proofs.ReferencePatterns
import ColumnFormula.Proofs.TokenReplacement

namespace ColumnFormula

open Lexeme (Reads isBound isCell)

namespace Bound

def lettersOf (word : Text) : Text := word.filter Char.isUpper

def digitsOf (word : Text) : Text := word.filter Char.isDigit

/-- The text of a bound has a column that has no index, or a row number that no row has. -/
def IsOutside (word : Text) : Prop :=
  Column.index? (lettersOf word) = none ∨ digitsOf word ≠ [] ∧
    (Text.toNat (digitsOf word) = 0 ∨ greatestRow < Text.toNat (digitsOf word))

theorem filter_markText {p : Char → Bool} (h : p '$' = false) (mark : Bool) :
    (markText mark).filter p = [] := by
  rw [List.filter_eq_nil_iff]
  intro c hc
  rw [eq_of_mem_markText hc, h]
  exact Bool.false_ne_true

theorem lettersOf_text {w : Written} (h : w.WellFormed) : lettersOf w.text = w.letters := by
  have hletters : w.letters.filter Char.isUpper = w.letters :=
    List.filter_eq_self.mpr h.letters_isUpper
  have hdigits : w.digits.filter Char.isUpper = [] :=
    List.filter_eq_nil_iff.mpr fun c hc => by simp [not_isUpper_of_isDigit (h.digits_isDigit c hc)]
  simp [lettersOf, Written.text, filter_markText (p := Char.isUpper) rfl, hletters, hdigits]

theorem digitsOf_text {w : Written} (h : w.WellFormed) : digitsOf w.text = w.digits := by
  have hletters : w.letters.filter Char.isDigit = [] :=
    List.filter_eq_nil_iff.mpr fun c hc => by simp [not_isDigit_of_isUpper (h.letters_isUpper c hc)]
  have hdigits : w.digits.filter Char.isDigit = w.digits :=
    List.filter_eq_self.mpr h.digits_isDigit
  simp [digitsOf, Written.text, filter_markText (p := Char.isDigit) rfl, hletters, hdigits]

theorem rowOfDigits?_eq_none_iff {digits : Text} :
    rowOfDigits? digits = none ↔
      digits ≠ [] ∧ (Text.toNat digits = 0 ∨ greatestRow < Text.toNat digits) := by
  rw [rowOfDigits?]
  split
  · rename_i hdigits
    simp [hdigits]
  · rename_i hdigits
    dsimp only
    split
    · rename_i hrow
      simp only [reduceCtorEq, false_iff]
      omega
    · rename_i hrow
      simp only [true_iff]
      exact ⟨hdigits, by omega⟩

/-- A bound cannot be read just when a number in it is out of bounds. -/
theorem parse?_eq_none_iff {word : Text} (h : isBound word) :
    parse? word = none ↔ IsOutside word := by
  obtain ⟨w, hform, rfl⟩ := Lexeme.isBound_iff.mp h
  rw [IsOutside, lettersOf_text hform, digitsOf_text hform, ← rowOfDigits?_eq_none_iff, parse?,
    split?_text hform]
  cases hindex : Column.index? w.letters with
  | none => simp [hindex]
  | some index => cases hrow : rowOfDigits? w.digits <;> simp [hindex, hrow]

theorem row_isSome_iff {word : Text} {b : Bound} (h : parse? word = some b) :
    b.row.isSome = true ↔ digitsOf word ≠ [] := by
  obtain ⟨w, _, hw, -, hrow, -⟩ := of_parse?_eq_some h
  obtain ⟨rfl, hform⟩ := split?_eq_some_iff.mp hw
  rw [digitsOf_text hform, (of_rowOfDigits?_eq_some hrow).1]
  by_cases hdigits : w.digits = [] <;> simp [hdigits]

end Bound

namespace Reference

open ColumnFormula.Bound (IsOutside digitsOf)

theorem parse?_eq_none_iff {word : Text} (h : isBound word) :
    parse? word = none ↔ IsOutside word := by
  rw [parse?_of_isBound h, Option.map_eq_none_iff, Bound.parse?_eq_none_iff h]

theorem parse?_range_eq_none_iff {left right : Text} (hleft : isBound left)
    (hright : isBound right) :
    parse? (left ++ ':' :: right) = none ↔
      IsOutside left ∨ IsOutside right ∨ ¬(digitsOf left = [] ↔ digitsOf right = []) := by
  rw [← Bound.parse?_eq_none_iff hleft, ← Bound.parse?_eq_none_iff hright,
    Option.eq_none_iff_forall_ne_some]
  simp only [ne_eq, parse?_range_eq_some_iff hleft hright]
  cases hfirst : Bound.parse? left with
  | none => simp
  | some first =>
      cases hlast : Bound.parse? right with
      | none => simp
      | some last =>
          have hsame : first.row.isSome = last.row.isSome ↔
              (digitsOf left = [] ↔ digitsOf right = []) := by
            rw [Bool.eq_iff_iff, Bound.row_isSome_iff hfirst, Bound.row_isSome_iff hlast,
              not_iff_not]
          rw [← hsame]
          simp

end Reference

namespace Converter

/-- The replacement of a cell of the own sheet, with a row for a reference that has none. -/
def ownCellOr (missing : Nat) (t : Converter) (row : Option Nat) (token : Token) : Replacement :=
  match Reference.parse? token.referenceText with
  | none => keep token (.invalidReference token.referenceText)
  | some r =>
    match t.mapping.get? r.first.column with
    | none => keep token (.unknownColumn r.first.column token.text)
    | some identifier =>
      let cellRow := r.first.row.getD missing
      if r.first.rowAbsolute then
        if cellRow < t.firstDataRow then keep token (.headerRow token.text)
        else
          let fixed := identifier ++ '[' :: Text.ofNat (cellRow - t.firstDataRow) ++ [']']
          ⟨fixed, [.fixedRow token.text fixed]⟩
      else
        let elsewhere := (row.filter (· ≠ cellRow)).toList
        ⟨'$' :: identifier, elsewhere.map fun own => .otherRow token.text cellRow own⟩

theorem ownCellOr_zero (t : Converter) (row : Option Nat) (token : Token) :
    t.ownCellOr 0 row token = t.ownCell row token := rfl

theorem ownCellOr_congr {t : Converter} {token : Token}
    (h : ∀ r, Reference.parse? token.referenceText = some r → r.first.row.isSome)
    (missing missing' : Nat) (row : Option Nat) :
    t.ownCellOr missing row token = t.ownCellOr missing' row token := by
  cases hparse : Reference.parse? token.referenceText with
  | none => simp only [ownCellOr, hparse]
  | some r =>
      obtain ⟨cellRow, hrow⟩ := Option.isSome_iff_exists.mp (h r hparse)
      simp only [ownCellOr, hparse, hrow, Option.getD_some]

end Converter

namespace Token

open ColumnFormula.Bound (IsOutside digitsOf)

/-- The text of the reference has the form of the token's kind. It is read but for what is out of
bounds, and a cell then has a row, so that no converter asks for another. -/
structure IsRead (t : Token) : Prop where
  cell : ∀ sheet, t.kind = .cell sheet → t.referenceText ∈ Pattern.cell.matches' ∧
    (Reference.parse? t.referenceText = none ↔ IsOutside t.referenceText) ∧
    (∀ r, Reference.parse? t.referenceText = some r → ∃ b row, r = .single b ∧ b.row = some row) ∧
    ∀ (converter : Converter) (row : Option Nat) (missing : Nat),
      converter.ownCellOr missing row t = converter.ownCell row t
  range : ∀ sheet, t.kind = .range sheet → ∃ left right,
    t.referenceText = left ++ ':' :: right ∧ left ∈ Pattern.bound.matches' ∧
    right ∈ Pattern.bound.matches' ∧
    (Reference.parse? t.referenceText = none ↔
      IsOutside left ∨ IsOutside right ∨ ¬(digitsOf left = [] ↔ digitsOf right = [])) ∧
    ∀ r, Reference.parse? t.referenceText = some r → ∃ first last, r = .range first last

theorem isRead_of_reads {t : Token} {rest : Text} (h : Reads t.kind t.text rest) : t.IsRead := by
  constructor
  case cell =>
    intro sheet hkind
    have hcell := isCell_referenceText h hkind
    have hrow : ∀ r, Reference.parse? t.referenceText = some r →
        ∃ b row, r = .single b ∧ b.row = some row :=
      fun r hparse => Reference.single_of_parse? hcell hparse
    refine ⟨Pattern.isCell_iff_mem.mp hcell,
      Reference.parse?_eq_none_iff (Lexeme.isBound_of_isCell hcell), hrow, ?_⟩
    intro converter row missing
    rw [← Converter.ownCellOr_zero]
    refine Converter.ownCellOr_congr ?_ missing 0 row
    intro r hparse
    obtain ⟨b, cellRow, rfl, hcellRow⟩ := hrow r hparse
    exact Option.isSome_of_eq_some hcellRow
  case range =>
    intro sheet hkind
    obtain ⟨left, right, hleft, hright, htext⟩ := isBound_referenceText h hkind
    rw [htext]
    refine ⟨left, right, rfl, Pattern.isBound_iff_mem.mp hleft, Pattern.isBound_iff_mem.mp hright,
      Reference.parse?_range_eq_none_iff hleft hright, ?_⟩
    intro r hparse
    obtain ⟨first, last, -, -, -, rfl⟩ :=
      (Reference.parse?_range_eq_some_iff hleft hright).mp hparse
    exact ⟨first, last, rfl⟩

/-- The words taken for bounds are those that the expression for reading them describes, but for a
mark at the end; and the references of a formula are read. -/
theorem tokenize_isRead {formula : Text} {tokens : List Token} (h : tokenize formula = .ok tokens) :
    (∀ word, isBound word ↔ word ∈ Pattern.loose.matches' ∧ word.getLast? ≠ some '$') ∧
      ∀ t ∈ tokens, t.IsRead := by
  refine ⟨fun word => Pattern.isBound_iff_mem_loose, fun t ht => ?_⟩
  obtain ⟨-, hlexed, -⟩ := tokenize_eq_ok_iff.mp h
  obtain ⟨rest, hreads⟩ := hlexed.reads t ht
  exact isRead_of_reads hreads

theorem tokenize_isRead_outside :
    let cell : Token := ⟨.cell (some "a!b".toList), "'a!b'!A0".toList, 0⟩
    let range : Token := ⟨.range none, "$B$7:C".toList, 9⟩
    let tokens : List Token := [cell, ⟨.operator, "+".toList, 8⟩, range]
    tokenize "'a!b'!A0+$B$7:C".toList = .ok tokens ∧
      (∀ word, isBound word ↔ word ∈ Pattern.loose.matches' ∧ word.getLast? ≠ some '$') ∧
      cell.IsRead ∧ Reference.parse? cell.referenceText = none ∧
      range.IsRead ∧ Reference.parse? range.referenceText = none := by
  intro cell range tokens
  have h : tokenize "'a!b'!A0+$B$7:C".toList = .ok tokens := by decide +kernel
  obtain ⟨hbounds, hread⟩ := tokenize_isRead h
  exact ⟨h, hbounds, hread cell (by simp [tokens]), by decide +kernel,
    hread range (by simp [tokens]),
    by decide +kernel⟩

end Token

end ColumnFormula
