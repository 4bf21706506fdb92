import ColumnFormula.Proofs.Numerals
import ColumnFormula.Proofs.TokenReplacement

namespace ColumnFormula

open Lexeme (isCell)

namespace Bound

theorem parse?_text {w : Written} {index : Nat} {row : Option Nat} (h : w.WellFormed)
    (hindex : Column.index? w.letters = some index) (hrow : rowOfDigits? w.digits = some row) :
    parse? w.text = some ⟨w.letters, row, w.columnMark, w.rowMark⟩ := by
  simp [parse?, split?_text h, hindex, hrow]

def Written.ofCell (columnMark : Bool) (column : Nat) (rowMark : Bool) (row : Nat) : Written :=
  ⟨columnMark, Column.letters column, rowMark, Text.ofNat row⟩

theorem Written.ofCell_wellFormed (columnMark : Bool) (column : Nat) (rowMark : Bool) (row : Nat) :
    (ofCell columnMark column rowMark row).WellFormed where
  letters_ne_nil := Column.letters_ne_nil column
  letters_isUpper := Column.letters_isUpper column
  digits_isDigit := fun _ hc => Text.isDigit_of_mem_ofNat hc
  digits_ne_nil := fun _ => Text.ofNat_ne_nil row

theorem Written.ofCell_text (columnMark : Bool) (column row : Nat) :
    (ofCell columnMark column true row).text =
      markText columnMark ++ Column.letters column ++ '$' :: Text.ofNat row :=
  (List.append_assoc ..).symm

theorem isCell_ofCell (columnMark : Bool) (column : Nat) (rowMark : Bool) (row : Nat) :
    isCell (Written.ofCell columnMark column rowMark row).text :=
  Lexeme.isCell_iff.mpr ⟨_, Written.ofCell_wellFormed .., rfl, Text.ofNat_ne_nil row⟩

theorem parse?_ofCell {columnMark rowMark : Bool} {column row : Nat}
    (hcolumn : column + 1 < Column.indexBound) (hpos : 1 ≤ row) (hle : row ≤ greatestRow) :
    Reference.parse? (Written.ofCell columnMark column rowMark row).text =
      some (.single ⟨Column.letters column, some row, columnMark, rowMark⟩) := by
  have hbound := Lexeme.isBound_of_isCell (isCell_ofCell columnMark column rowMark row)
  have hcolon := Lexeme.not_mem_of_isBound (c := ':') hbound rfl
  have hindex : Column.index? (Column.letters column) = some column :=
    Column.index?_eq_some_iff.mpr ⟨rfl, hcolumn⟩
  rw [Reference.parse?, Text.splitAtEach_of_not_mem hcolon]
  exact congrArg (Option.map Reference.single)
    (parse?_text (Written.ofCell_wellFormed ..) hindex (rowOfDigits?_ofNat hpos hle))

end Bound

theorem Token.tokenize_of_isCell {word : Text} (h : isCell word) :
    tokenize word = .ok [⟨.cell none, word, 0⟩] := by
  rw [tokenize_eq_ok_iff]
  refine ⟨List.append_nil word, ⟨?_, trivial⟩, rfl⟩
  exact .cell h (Text.stopsBefore_nil _) rfl

namespace Converter

theorem body_of_ne {c : Char} {s : Text} (h : c ≠ '=') : body (c :: s) = c :: s := by
  rw [body]
  rintro rest heq
  exact h (List.cons.inj heq).1

theorem body_of_tokenize {formula : Text} {token : Token} {tokens : List Token}
    (h : Token.tokenize formula = .ok (token :: tokens)) (hkind : token.kind ≠ .operator) :
    body formula = formula := by
  cases formula with
  | nil => rfl
  | cons c s =>
      apply body_of_ne
      rintro rfl
      obtain ⟨l, tail, hfirst, -, heq⟩ := Token.first_eq_ok_of_scan h
      have hsign : Lexeme.single? '=' = some .operator := by decide
      rw [Lexeme.first_single hsign] at hfirst
      obtain rfl := (Except.ok.inj hfirst).symm
      rw [(List.cons.inj heq).1] at hkind
      contradiction

theorem isAllBlank_of_tokenize {s : Text} {token : Token} {tokens : List Token}
    (h : Token.tokenize s = .ok (token :: tokens)) (hkind : token.kind ≠ .blank) :
    Text.isAllBlank s = false := by
  obtain ⟨hrender, hlexed, -⟩ := Token.tokenize_eq_ok_iff.mp h
  have hstop := (hlexed.1.stopsBefore_isBlank_iff (Token.render tokens)).mpr hkind
  rw [← Token.render_cons, hrender] at hstop
  cases s with
  | nil => simp [hlexed.1.text_ne_nil] at hrender
  | cons c s => simp [Text.isAllBlank, Text.stopsBefore_cons.mp hstop]

theorem convert_of_token (t : Converter) {formula : Text} {token : Token}
    (htokens : Token.tokenize formula = .ok [token]) (href : token.IsReference)
    (row : Option Nat) :
    t.convert formula row =
      .succeeded formula (t.replace row token).text
        ((t.replace row token).diagnostics.map Diagnostic.message).eraseDups := by
  have hkinds : token.kind ≠ .operator ∧ token.kind ≠ .blank := by
    rcases href with ⟨sheet, hkind⟩ | ⟨sheet, hkind⟩ <;> simp [hkind]
  have hbody := body_of_tokenize htokens hkinds.1
  have hblank := isAllBlank_of_tokenize htokens hkinds.2
  rw [← hbody] at hblank htokens
  rw [convert_of_tokenize hblank htokens]
  rcases href with ⟨sheet, hkind⟩ | ⟨sheet, hkind⟩
  all_goals
    simp [replaceAll, diagnose, isRange, Token.spaced, Token.spacedText, Token.isSpaced, hkind]

theorem convert_of_isCell (t : Converter) {word : Text} (h : isCell word) (row : Option Nat) :
    t.convert word row =
      .succeeded word (t.replace row ⟨.cell none, word, 0⟩).text
        ((t.replace row ⟨.cell none, word, 0⟩).diagnostics.map Diagnostic.message).eraseDups :=
  t.convert_of_token (Token.tokenize_of_isCell h) (.inl ⟨none, rfl⟩) row

end Converter

end ColumnFormula
