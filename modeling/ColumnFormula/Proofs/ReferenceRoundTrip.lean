import ColumnFormula.Proofs.ParsedReferences
import ColumnFormula.Proofs.SingleReference

namespace ColumnFormula

namespace Text

/-- The text without zeros that no digit stands in front of; `behindDigit` tells whether one does
at the start. -/
def dropZeros (behindDigit : Bool) : Text → Text
  | [] => []
  | c :: rest =>
    if c = '0' ∧ behindDigit = false then dropZeros false rest
    else c :: dropZeros c.isDigit rest

/-- The text without the leading zeros of its numbers. -/
def withoutLeadingZeros (s : Text) : Text := dropZeros false s

theorem dropZeros_of_stopsBefore {s : Text} (h : StopsBefore Char.isDigit s) (behindDigit : Bool) :
    dropZeros behindDigit s = withoutLeadingZeros s := by
  cases s with
  | nil => rfl
  | cons c s =>
      have hc : c ≠ '0' := by
        rintro rfl
        simp at h
      simp [withoutLeadingZeros, dropZeros, hc]

theorem withoutLeadingZeros_append {front : Text} (h : ∀ c ∈ front, c.isDigit = false) (s : Text) :
    withoutLeadingZeros (front ++ s) = front ++ withoutLeadingZeros s := by
  induction front with
  | nil => rfl
  | cons c front ih =>
      obtain ⟨hc, hfront⟩ := List.forall_mem_cons.mp h
      have hzero : c ≠ '0' := by
        rintro rfl
        contradiction
      rw [List.cons_append, withoutLeadingZeros, dropZeros, if_neg (by simp [hzero]), hc]
      exact congrArg (c :: ·) (ih hfront)

theorem dropZeros_digits {digits s : Text} (h : ∀ c ∈ digits, c.isDigit)
    (hstop : StopsBefore Char.isDigit s) :
    dropZeros true (digits ++ s) = digits ++ withoutLeadingZeros s := by
  induction digits with
  | nil => exact dropZeros_of_stopsBefore hstop true
  | cons c digits ih =>
      obtain ⟨hc, hdigits⟩ := List.forall_mem_cons.mp h
      rw [List.cons_append, dropZeros, if_neg (by simp), hc, ih hdigits]
      rfl

theorem withoutLeadingZeros_digits {digits s : Text} (h : ∀ c ∈ digits, c.isDigit)
    (hstop : StopsBefore Char.isDigit s) :
    withoutLeadingZeros (digits ++ s) = digits.dropWhile (· == '0') ++ withoutLeadingZeros s := by
  induction digits with
  | nil => rfl
  | cons c digits ih =>
      obtain ⟨hc, hdigits⟩ := List.forall_mem_cons.mp h
      by_cases hzero : c = '0'
      · subst hzero
        exact ih hdigits
      · rw [List.cons_append, withoutLeadingZeros, dropZeros, if_neg (by simp [hzero]), hc,
          dropZeros_digits hdigits hstop, List.dropWhile_cons_of_neg (by simpa using hzero)]
        rfl

theorem toNat_append (s : Text) (c : Char) : toNat (s ++ [c]) = 10 * toNat s + (c.toNat - 48) := by
  simp [toNat]

theorem digitChar_eq {c : Char} (h : c.isDigit) : Nat.digitChar (c.toNat - 48) = c := by
  rw [isDigit_iff] at h
  apply Char.toNat_inj.mp
  rw [Nat.toNat_digitChar_of_lt_ten (by omega)]
  omega

theorem dropWhile_zero {digits : Text} (h : ∀ c ∈ digits, c.isDigit) :
    digits.dropWhile (· == '0') = if toNat digits = 0 then [] else ofNat (toNat digits) := by
  -- By the last digit: the number in front of it tells whether there are only zeros.
  induction digits using List.reverseRecOn with
  | nil => rfl
  | append_singleton front c ih =>
      have hc : c.isDigit := h c (by simp)
      have hcode := isDigit_iff.mp hc
      rw [List.dropWhile_append, ih fun d hd => h d (by simp [hd]), toNat_append]
      by_cases hfront : toNat front = 0
      · have hdigit : Text.ofNat (c.toNat - 48) = [c] := by
          rw [ofNat, Nat.toDigits_of_lt_base (by omega), digitChar_eq hc]
        by_cases hzero : c = '0'
        · simp [hfront, hzero]
        · have hne : c.toNat ≠ '0'.toNat := fun heq => hzero (Char.toNat_inj.mp heq)
          have hpos : c.toNat - 48 ≠ 0 := by
            simp at hne
            omega
          simp [hfront, hzero, hpos, hdigit]
      · have hdiv : (10 * toNat front + (c.toNat - 48)) / 10 = toNat front := by omega
        have hmod : (10 * toNat front + (c.toNat - 48)) % 10 = c.toNat - 48 := by omega
        have hlast : ofNat (10 * toNat front + (c.toNat - 48)) = ofNat (toNat front) ++ [c] := by
          rw [ofNat, Nat.toDigits_of_base_le (by decide) (by omega), hdiv, hmod, digitChar_eq hc]
          rfl
        simp [hfront, hlast, ofNat_ne_nil]

theorem of_splitAtEach_eq_cons {separator : Char} {s piece : Text} {pieces : List Text}
    (h : splitAtEach separator s = piece :: pieces) :
    s = piece ∧ pieces = [] ∨
      ∃ rest, s = piece ++ separator :: rest ∧ splitAtEach separator rest = pieces := by
  induction s generalizing piece with
  | nil =>
      obtain ⟨rfl, rfl⟩ := List.cons.inj h
      exact .inl ⟨rfl, rfl⟩
  | cons c s ih =>
      obtain ⟨front, back, hsplit⟩ := List.exists_cons_of_ne_nil (splitAtEach_ne_nil separator s)
      simp only [splitAtEach, hsplit] at h
      split at h
      · rename_i hc
        obtain ⟨rfl, rfl⟩ := List.cons.inj h
        exact .inr ⟨s, congrArg (· :: s) hc, hsplit⟩
      · obtain ⟨rfl, rfl⟩ := List.cons.inj h
        rcases ih hsplit with ⟨rfl, hback⟩ | ⟨rest, rfl, hrest⟩
        · exact .inl ⟨rfl, hback⟩
        · exact .inr ⟨rest, rfl, hrest⟩

end Text

namespace Bound

open Lexeme (isBound)

/-- The word has the form of a bound. Its letters have an index, and its digits, if there are any,
spell a row. -/
structure IsReadable (word : Text) : Prop where
  form : word ∈ Pattern.bound.matches'
  column : (Column.index? (lettersOf word)).isSome
  row : digitsOf word ≠ [] →
    1 ≤ Text.toNat (digitsOf word) ∧ Text.toNat (digitsOf word) ≤ greatestRow

/-- The bound has a column with an index, a row that there is, and no mark of a row it does not
have. -/
structure IsValid (b : Bound) : Prop where
  column : (Column.index? b.column).isSome
  row : ∀ row, b.row = some row → 1 ≤ row ∧ row ≤ greatestRow
  rowAbsolute : b.rowAbsolute → b.row.isSome

theorem isReadable_iff {word : Text} : IsReadable word ↔ isBound word ∧ ¬ IsOutside word := by
  have hrow : ∀ n, ¬(n = 0 ∨ greatestRow < n) ↔ 1 ≤ n ∧ n ≤ greatestRow := by omega
  rw [Pattern.isBound_iff_mem, IsOutside, not_or, not_and, hrow, ← ne_eq,
    ← Option.isSome_iff_ne_none]
  constructor
  · rintro ⟨hform, hcolumn, hrow⟩
    exact ⟨hform, hcolumn, hrow⟩
  · rintro ⟨hform, hcolumn, hrow⟩
    exact ⟨hform, hcolumn, hrow⟩

theorem isBound_of_parse? {word : Text} {b : Bound} (h : parse? word = some b) : isBound word := by
  obtain ⟨w, _, hw, -⟩ := of_parse?_eq_some h
  obtain ⟨htext, hform⟩ := split?_eq_some_iff.mp hw
  exact Lexeme.isBound_iff.mpr ⟨w, hform, htext⟩

theorem parse?_isSome_iff {word : Text} : (parse? word).isSome ↔ IsReadable word := by
  rw [isReadable_iff]
  constructor
  · intro h
    obtain ⟨b, hb⟩ := Option.isSome_iff_exists.mp h
    have hbound := isBound_of_parse? hb
    refine ⟨hbound, fun houtside => ?_⟩
    rw [(parse?_eq_none_iff hbound).mpr houtside] at hb
    contradiction
  · rintro ⟨hbound, hinside⟩
    rw [← parse?_eq_none_iff hbound] at hinside
    exact Option.isSome_iff_ne_none.mpr hinside

theorem isValid_of_parse? {word : Text} {b : Bound} (h : parse? word = some b) : b.IsValid := by
  obtain ⟨w, index, hw, hindex, hrow, hb⟩ := of_parse?_eq_some h
  obtain ⟨rfl, hform⟩ := split?_eq_some_iff.mp hw
  have hspelled := (of_rowOfDigits?_eq_some hrow).1
  have hinside : ¬ rowOfDigits? w.digits = none := by simp [hrow]
  rw [rowOfDigits?_eq_none_iff] at hinside
  rw [hb]
  refine ⟨Option.isSome_of_eq_some hindex, ?_, ?_⟩
  · intro row hsome
    dsimp only at hsome
    rw [hsome] at hspelled
    split at hspelled
    · contradiction
    · rename_i hdigits
      obtain rfl := Option.some.inj hspelled
      have hrange : ¬(Text.toNat w.digits = 0 ∨ greatestRow < Text.toNat w.digits) :=
        fun hout => hinside ⟨hdigits, hout⟩
      omega
  · intro hmark
    dsimp only at hmark ⊢
    rw [hspelled, if_neg (hform.digits_ne_nil hmark)]
    rfl

def Written.ofBound (b : Bound) : Written :=
  ⟨b.columnAbsolute, b.column, b.rowAbsolute, (b.row.map Text.ofNat).getD []⟩

theorem Written.ofBound_wellFormed {b : Bound} (h : b.IsValid) : (ofBound b).WellFormed := by
  obtain ⟨index, hindex⟩ := Option.isSome_iff_exists.mp h.column
  obtain ⟨hletters, -⟩ := Column.index?_eq_some_iff.mp hindex
  constructor
  case letters_ne_nil =>
    rw [ofBound, hletters]
    exact Column.letters_ne_nil index
  case letters_isUpper =>
    rw [ofBound, hletters]
    exact Column.letters_isUpper index
  case digits_isDigit =>
    intro c hc
    cases hrow : b.row with
    | none => simp [ofBound, hrow] at hc
    | some row =>
        rw [ofBound, hrow] at hc
        exact Text.isDigit_of_mem_ofNat hc
  case digits_ne_nil =>
    intro hmark
    obtain ⟨row, hrow⟩ := Option.isSome_iff_exists.mp (h.rowAbsolute hmark)
    rw [ofBound, hrow]
    exact Text.ofNat_ne_nil row

theorem render_eq {b : Bound} (h : b.IsValid) : b.render = (Written.ofBound b).text := by
  cases hrow : b.row with
  | none =>
      have hmark : b.rowAbsolute = false := by
        rw [Bool.eq_false_iff]
        intro hmark
        have := h.rowAbsolute hmark
        simp [hrow] at this
      simp [render, Written.text, Written.ofBound, markText, hrow, hmark]
  | some row => simp [render, Written.text, Written.ofBound, markText, hrow]

theorem parse?_render {b : Bound} (h : b.IsValid) : parse? b.render = some b := by
  obtain ⟨index, hindex⟩ := Option.isSome_iff_exists.mp h.column
  have hrow : rowOfDigits? (Written.ofBound b).digits = some b.row := by
    cases hrow : b.row with
    | none => simp [Written.ofBound, hrow, rowOfDigits?]
    | some row =>
        obtain ⟨hpos, hle⟩ := h.row row hrow
        simp only [Written.ofBound, hrow]
        exact rowOfDigits?_ofNat hpos hle
  rw [render_eq h, parse?_text (Written.ofBound_wellFormed h) hindex hrow]
  rfl

def Written.front (w : Written) : Text := markText w.columnMark ++ (w.letters ++ markText w.rowMark)

theorem Written.text_eq_front_append (w : Written) : w.text = w.front ++ w.digits := by
  simp [text, front]

theorem Written.WellFormed.front_noDigit {w : Written} (h : w.WellFormed) :
    ∀ c ∈ w.front, c.isDigit = false := by
  intro c hc
  simp only [Written.front, List.mem_append] at hc
  rcases hc with hc | hc | hc
  · rw [eq_of_mem_markText hc]
    rfl
  · exact not_isDigit_of_isUpper (h.letters_isUpper c hc)
  · rw [eq_of_mem_markText hc]
    rfl

theorem Written.WellFormed.withoutLeadingZeros_append {w : Written} (h : w.WellFormed) {s : Text}
    (hstop : Text.StopsBefore Char.isDigit s) :
    Text.withoutLeadingZeros (w.text ++ s) =
      w.front ++ w.digits.dropWhile (· == '0') ++ Text.withoutLeadingZeros s := by
  rw [w.text_eq_front_append, List.append_assoc, Text.withoutLeadingZeros_append h.front_noDigit,
    Text.withoutLeadingZeros_digits h.digits_isDigit hstop, ← List.append_assoc]

theorem digits_of_rowOfDigits? {digits : Text} {row : Option Nat}
    (hdigits : ∀ c ∈ digits, c.isDigit) (h : rowOfDigits? digits = some row) :
    (row.map Text.ofNat).getD [] = digits.dropWhile (· == '0') := by
  obtain ⟨hspelled, hpos⟩ := of_rowOfDigits?_eq_some h
  rw [Text.dropWhile_zero hdigits]
  by_cases hnil : digits = []
  · rw [hspelled, if_pos hnil, hnil]
    rfl
  · rw [if_neg hnil] at hspelled
    have hrow := hpos _ hspelled
    rw [hspelled, if_neg (by omega)]
    rfl

theorem withoutLeadingZeros_append {word s : Text} {b : Bound} (h : parse? word = some b)
    (hstop : Text.StopsBefore Char.isDigit s) :
    Text.withoutLeadingZeros (word ++ s) = b.render ++ Text.withoutLeadingZeros s := by
  rw [render_eq (isValid_of_parse? h)]
  obtain ⟨w, index, hw, -, hrow, hb⟩ := of_parse?_eq_some h
  obtain ⟨rfl, hform⟩ := split?_eq_some_iff.mp hw
  have hfront : (Written.ofBound b).front = w.front := by
    rw [hb]
    rfl
  have hdigits : (Written.ofBound b).digits = w.digits.dropWhile (· == '0') :=
    digits_of_rowOfDigits? hform.digits_isDigit hrow
  rw [hform.withoutLeadingZeros_append hstop, Written.text_eq_front_append, hfront, hdigits]

theorem withoutLeadingZeros_eq {word : Text} {b : Bound} (h : parse? word = some b) :
    Text.withoutLeadingZeros word = b.render := by
  have := withoutLeadingZeros_append h (Text.stopsBefore_nil _)
  simpa [Text.withoutLeadingZeros, Text.dropZeros] using this

end Bound

namespace Reference

open ColumnFormula.Bound (digitsOf)

/-- The text is a bound that can be read, or two with a colon between them, both with a row or
neither. -/
def IsReadable (s : Text) : Prop :=
  Bound.IsReadable s ∨ ∃ left right, s = left ++ ':' :: right ∧ Bound.IsReadable left ∧
    Bound.IsReadable right ∧ (digitsOf left = [] ↔ digitsOf right = [])

/-- The bounds of the reference are valid, and both have a row or neither has. -/
def IsValid : Reference → Prop
  | single b => b.IsValid
  | range first last => first.IsValid ∧ last.IsValid ∧ first.row.isSome = last.row.isSome

theorem parse?_eq_some_iff {s : Text} {r : Reference} :
    parse? s = some r ↔
      (∃ b, Bound.parse? s = some b ∧ r = single b) ∨
      ∃ left right first last, s = left ++ ':' :: right ∧ Bound.parse? left = some first ∧
        Bound.parse? right = some last ∧ first.row.isSome = last.row.isSome ∧
        r = range first last := by
  constructor
  · intro h
    rw [parse?] at h
    split at h
    · rename_i one hsplit
      obtain ⟨b, hb, rfl⟩ := Option.map_eq_some_iff.mp h
      rcases Text.of_splitAtEach_eq_cons hsplit with ⟨rfl, -⟩ | ⟨rest, -, hrest⟩
      · exact .inl ⟨b, hb, rfl⟩
      · exact absurd hrest (Text.splitAtEach_ne_nil ':' rest)
    · rename_i left right hsplit
      obtain ⟨first, hfirst, hmore⟩ := Option.bind_eq_some_iff.mp h
      obtain ⟨last, hlast, hif⟩ := Option.bind_eq_some_iff.mp hmore
      rcases Text.of_splitAtEach_eq_cons hsplit with ⟨-, hnil⟩ | ⟨rest, rfl, hrest⟩
      · contradiction
      rcases Text.of_splitAtEach_eq_cons hrest with ⟨rfl, -⟩ | ⟨behind, -, hbehind⟩
      · split at hif
        · rename_i hrows
          exact .inr ⟨left, rest, first, last, rfl, hfirst, hlast, hrows,
            (Option.some.inj hif).symm⟩
        · contradiction
      · exact absurd hbehind (Text.splitAtEach_ne_nil ':' behind)
    · contradiction
  · rintro (⟨b, hb, rfl⟩ | ⟨left, right, first, last, rfl, hfirst, hlast, hrows, rfl⟩)
    · rw [parse?_of_isBound (Bound.isBound_of_parse? hb), hb]
      rfl
    · rw [parse?_range_eq_some_iff (Bound.isBound_of_parse? hfirst) (Bound.isBound_of_parse? hlast)]
      exact ⟨first, last, hfirst, hlast, hrows, rfl⟩

theorem parse?_isSome_iff {s : Text} : (parse? s).isSome ↔ IsReadable s := by
  rw [Option.isSome_iff_exists]
  constructor
  · rintro ⟨r, h⟩
    rcases parse?_eq_some_iff.mp h with ⟨b, hb, -⟩ |
      ⟨left, right, first, last, rfl, hfirst, hlast, hrows, -⟩
    · exact .inl (Bound.parse?_isSome_iff.mp (Option.isSome_of_eq_some hb))
    · refine .inr ⟨left, right, rfl, Bound.parse?_isSome_iff.mp (Option.isSome_of_eq_some hfirst),
        Bound.parse?_isSome_iff.mp (Option.isSome_of_eq_some hlast), ?_⟩
      rw [Bool.eq_iff_iff, Bound.row_isSome_iff hfirst, Bound.row_isSome_iff hlast] at hrows
      exact not_iff_not.mp hrows
  · rintro (h | ⟨left, right, rfl, hleft, hright, hdigits⟩)
    · obtain ⟨b, hb⟩ := Option.isSome_iff_exists.mp (Bound.parse?_isSome_iff.mpr h)
      exact ⟨_, parse?_eq_some_iff.mpr (.inl ⟨b, hb, rfl⟩)⟩
    · obtain ⟨first, hfirst⟩ := Option.isSome_iff_exists.mp (Bound.parse?_isSome_iff.mpr hleft)
      obtain ⟨last, hlast⟩ := Option.isSome_iff_exists.mp (Bound.parse?_isSome_iff.mpr hright)
      have hrows : first.row.isSome = last.row.isSome := by
        rw [Bool.eq_iff_iff, Bound.row_isSome_iff hfirst, Bound.row_isSome_iff hlast]
        exact not_congr hdigits
      exact ⟨_, parse?_eq_some_iff.mpr
        (.inr ⟨left, right, first, last, rfl, hfirst, hlast, hrows, rfl⟩)⟩

theorem isValid_of_parse? {s : Text} {r : Reference} (h : parse? s = some r) : r.IsValid := by
  rcases parse?_eq_some_iff.mp h with ⟨b, hb, rfl⟩ |
    ⟨left, right, first, last, -, hfirst, hlast, hrows, rfl⟩
  · exact Bound.isValid_of_parse? hb
  · exact ⟨Bound.isValid_of_parse? hfirst, Bound.isValid_of_parse? hlast, hrows⟩

theorem parse?_render {r : Reference} (h : r.IsValid) : parse? r.render = some r := by
  rw [parse?_eq_some_iff]
  cases r with
  | single b => exact .inl ⟨b, Bound.parse?_render h, rfl⟩
  | range first last =>
      obtain ⟨hfirst, hlast, hrows⟩ := h
      exact .inr ⟨first.render, last.render, first, last, rfl, Bound.parse?_render hfirst,
        Bound.parse?_render hlast, hrows, rfl⟩

theorem render_of_parse? {s : Text} {r : Reference} (h : parse? s = some r) :
    r.render = Text.withoutLeadingZeros s := by
  rcases parse?_eq_some_iff.mp h with ⟨b, hb, rfl⟩ |
    ⟨left, right, first, last, rfl, hfirst, hlast, -, rfl⟩
  · exact (Bound.withoutLeadingZeros_eq hb).symm
  · have hcolon : Text.StopsBefore Char.isDigit (':' :: right) := Text.stopsBefore_cons.mpr rfl
    rw [Bound.withoutLeadingZeros_append hfirst hcolon, ← List.singleton_append,
      Text.withoutLeadingZeros_append (by simp), Bound.withoutLeadingZeros_eq hlast]
    rfl

theorem isRange_iff_of_parse? {s : Text} {r : Reference} (h : parse? s = some r) :
    (∃ first last, r = range first last) ↔ ':' ∈ s := by
  rcases parse?_eq_some_iff.mp h with ⟨b, hb, rfl⟩ | ⟨left, right, first, last, rfl, -, -, -, rfl⟩
  · have hnone : ':' ∉ s := Lexeme.not_mem_of_isBound (Bound.isBound_of_parse? hb) rfl
    simp [hnone]
  · simp

/-- Just the readable texts are read. What is read is valid, has two bounds where the text has a
colon, and is written as the text without leading zeros; and every valid reference is what is read
from its own text. That no bound of a range is a range itself is in the type. -/
theorem parse?_roundTrip (s : Text) :
    ((parse? s).isSome ↔ IsReadable s) ∧
    (∀ r, parse? s = some r → r.IsValid ∧ ((∃ first last, r = range first last) ↔ ':' ∈ s) ∧
      r.render = Text.withoutLeadingZeros s ∧ parse? r.render = some r) ∧
    ∀ r : Reference, r.IsValid → parse? r.render = some r := by
  refine ⟨parse?_isSome_iff, fun r h => ?_, fun r => parse?_render⟩
  exact ⟨isValid_of_parse? h, isRange_iff_of_parse? h, render_of_parse? h,
    parse?_render (isValid_of_parse? h)⟩

theorem parse?_roundTrip_zeros :
    let s := "$AB$007:B12".toList
    let r : Reference :=
      .range ⟨"AB".toList, some 7, true, true⟩ ⟨"B".toList, some 12, false, false⟩
    parse? s = some r ∧ IsReadable s ∧ r.IsValid ∧ r.render = Text.withoutLeadingZeros s ∧
      r.render = "$AB$7:B12".toList ∧ parse? r.render = some r := by
  intro s r
  have h : parse? s = some r := by decide +kernel
  obtain ⟨hreadable, hread, -⟩ := parse?_roundTrip s
  obtain ⟨hvalid, -, hrender, hagain⟩ := hread r h
  exact ⟨h, hreadable.mp (Option.isSome_of_eq_some h), hvalid, hrender, by decide +kernel, hagain⟩

end Reference

end ColumnFormula
