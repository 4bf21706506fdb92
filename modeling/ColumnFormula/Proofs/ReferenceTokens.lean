import ColumnFormula.Proofs.Lookahead
import ColumnFormula.Proofs.TokenSequence
import ColumnFormula.Reference

namespace ColumnFormula

namespace Text

theorem splitAtEach_ne_nil (separator : Char) (s : Text) : splitAtEach separator s ≠ [] := by
  fun_cases splitAtEach separator s <;> simp_all

theorem splitAtEach_append {separator : Char} {s rest : Text} (h : separator ∉ s) :
    splitAtEach separator (s ++ separator :: rest) = s :: splitAtEach separator rest := by
  induction s with
  | nil =>
      obtain ⟨piece, pieces, hpieces⟩ :=
        List.exists_cons_of_ne_nil (splitAtEach_ne_nil separator rest)
      simp [splitAtEach, hpieces]
  | cons c s ih =>
      have hc : c ≠ separator := (List.ne_of_not_mem_cons h).symm
      have hs : separator ∉ s := List.not_mem_of_not_mem_cons h
      simp [splitAtEach, ih hs, hc]

theorem splitAtEach_of_not_mem {separator : Char} {s : Text} (h : separator ∉ s) :
    splitAtEach separator s = [s] := by
  induction s with
  | nil => rfl
  | cons c s ih =>
      have hc : c ≠ separator := (List.ne_of_not_mem_cons h).symm
      have hs : separator ∉ s := List.not_mem_of_not_mem_cons h
      simp [splitAtEach, ih hs, hc]

end Text

namespace Lexeme

theorem not_mem_of_isBound {c : Char} {word : Text} (h : isBound word) (hc : isWordChar c = false) :
    c ∉ word := by
  intro hmem
  have := isWordChar_of_isWord (isWord_of_isBound h) c hmem
  simp [hc] at this

theorem behindLastMark_append {head reference : Text} (h : '!' ∉ reference) :
    Token.behindLastMark (head ++ '!' :: reference) = reference := by
  have hall : ∀ c ∈ reference.reverse, (c != '!') = true := by
    intro c hc
    rw [bne_iff_ne]
    rintro rfl
    exact h (List.mem_reverse.mp hc)
  rw [Token.behindLastMark, List.reverse_append, List.reverse_cons, List.append_assoc,
    List.singleton_append,
    Text.takeWhile_append_of_stopsBefore hall (Text.stopsBefore_cons.mpr rfl),
    List.reverse_reverse]

theorem SheetHead.behindLastMark {sheet head reference : Text} (hhead : SheetHead sheet head)
    (h : '!' ∉ reference) : Token.behindLastMark (head ++ reference) = reference := by
  cases hhead with
  | quoted closed =>
      rw [List.append_assoc, List.singleton_append]
      exact behindLastMark_append h
  | plain word =>
      rw [List.append_assoc, List.singleton_append]
      exact behindLastMark_append h

/-- What stands in front of a reference: nothing, or its sheet. -/
inductive Head : (sheet : Option Text) → (head : Text) → Prop
  | bare : Head none []
  | sheet {sheet head : Text} (isHead : SheetHead sheet head) : Head (some sheet) head

theorem Reads.of_cell {sheet : Option Text} {text rest : Text} (h : Reads (.cell sheet) text rest) :
    ∃ head word, Head sheet head ∧ isCell word ∧ text = head ++ word ∧
      ∀ word' rest', isCell word' → EndsNear rest rest' →
        Reads (.cell sheet) (head ++ word') rest' := by
  have hother : ∀ {word word' rest'}, isCell word → rangeTail? word rest = none →
      EndsNear rest rest' → rangeTail? word' rest' = none := by
    intro word word' rest' hcell htail hnear
    rw [rangeTail?_eq_none_iff] at htail
    have htail' : rangeTail? word' rest = none :=
      rangeTail?_eq_none_iff.mpr fun more heq _ => htail more heq (isBound_of_isCell hcell)
    exact hnear.noTail word' htail'
  cases h with
  | cell hcell hstop htail =>
      refine ⟨[], text, .bare, hcell, rfl, fun word' rest' hcell' hnear => ?_⟩
      exact .cell hcell' (hnear.stop _ isEnd_endsBare hstop) (hother hcell htail hnear)
  | sheetCell hhead hcell hstop htail =>
      refine ⟨_, _, .sheet hhead, hcell, rfl, fun word' rest' hcell' hnear => ?_⟩
      exact .sheetCell hhead hcell' (hnear.stop _ isEnd_isWordChar hstop) (hother hcell htail hnear)
  | symbol hsingle => simpa using of_single?_eq_some hsingle

theorem Reads.of_range {sheet : Option Text} {text rest : Text}
    (h : Reads (.range sheet) text rest) :
    ∃ head left right, Head sheet head ∧ isBound left ∧ isBound right ∧
      text = head ++ (left ++ ':' :: right) ∧
      ∀ left' right' rest', isBound left' → isBound right' → EndsNear rest rest' →
        Reads (.range sheet) (head ++ (left' ++ ':' :: right')) rest' := by
  cases h with
  | range hleft hright hstop =>
      refine ⟨[], _, _, .bare, hleft, hright, rfl, fun _ _ rest' hleft' hright' hnear => ?_⟩
      exact .range hleft' hright' (hnear.stop _ isEnd_isWordChar hstop)
  | sheetRange hhead hleft hright hstop =>
      refine ⟨_, _, _, .sheet hhead, hleft, hright, rfl, fun _ _ rest' hleft' hright' hnear => ?_⟩
      exact .sheetRange hhead hleft' hright' (hnear.stop _ isEnd_isWordChar hstop)
  | symbol hsingle => simpa using of_single?_eq_some hsingle

end Lexeme

namespace Token

open Lexeme

theorem behindLastMark_isSuffix (s : Text) : behindLastMark s <:+ s := by
  refine ⟨(s.reverse.dropWhile (· != '!')).reverse, ?_⟩
  rw [behindLastMark, ← List.reverse_append, List.takeWhile_append_dropWhile, List.reverse_reverse]

theorem referenceText_isSuffix (t : Token) : t.referenceText <:+ t.text := by
  rw [referenceText]
  split
  · exact behindLastMark_isSuffix t.text
  · exact behindLastMark_isSuffix t.text
  · exact List.suffix_rfl

theorem referenceText_of_head {t : Token} {sheet : Option Text} {head reference : Text}
    (hkind : t.kind = .cell sheet ∨ t.kind = .range sheet) (hhead : Head sheet head)
    (htext : t.text = head ++ reference) (hmark : '!' ∉ reference) :
    t.referenceText = reference := by
  cases hhead with
  | bare => rcases hkind with hkind | hkind <;> simp [referenceText, hkind, htext]
  | sheet hhead =>
      rcases hkind with hkind | hkind
      all_goals
        simp only [referenceText, hkind, htext]
        exact hhead.behindLastMark hmark

/-- The token of a cell is a head and a cell, and another cell may stand behind the head. -/
theorem cell_exchange {t : Token} {sheet : Option Text} {rest : Text}
    (h : Reads t.kind t.text rest) (hkind : t.kind = .cell sheet) :
    ∃ head, t.text = head ++ t.referenceText ∧ isCell t.referenceText ∧
      ∀ {t' : Token} {word rest' : Text}, t'.kind = t.kind → t'.text = head ++ word → isCell word →
        EndsNear rest rest' → t'.referenceText = word ∧ Reads t'.kind t'.text rest' := by
  obtain ⟨head, word, hhead, hcell, htext, hreads⟩ := (hkind ▸ h).of_cell
  have href : ∀ {t' : Token} {word}, t'.kind = t.kind → t'.text = head ++ word → isCell word →
      t'.referenceText = word := by
    intro t' word hkind' htext' hcell'
    have hmark := not_mem_of_isBound (c := '!') (isBound_of_isCell hcell') rfl
    exact referenceText_of_head (.inl (hkind'.trans hkind)) hhead htext' hmark
  have hword := href rfl htext hcell
  refine ⟨head, by rw [hword, htext], hword ▸ hcell, ?_⟩
  intro t' word' rest' hkind' htext' hcell' hnear
  refine ⟨href hkind' htext' hcell', ?_⟩
  rw [hkind', htext', hkind]
  exact hreads word' rest' hcell' hnear

/-- The token of a range is a head and two bounds, and other bounds may stand behind the head. -/
theorem range_exchange {t : Token} {sheet : Option Text} {rest : Text}
    (h : Reads t.kind t.text rest) (hkind : t.kind = .range sheet) :
    ∃ head left right, t.text = head ++ t.referenceText ∧ t.referenceText = left ++ ':' :: right ∧
      isBound left ∧ isBound right ∧
      ∀ {t' : Token} {left' right' rest' : Text}, t'.kind = t.kind →
        t'.text = head ++ (left' ++ ':' :: right') → isBound left' → isBound right' →
        EndsNear rest rest' →
        t'.referenceText = left' ++ ':' :: right' ∧ Reads t'.kind t'.text rest' := by
  obtain ⟨head, left, right, hhead, hleft, hright, htext, hreads⟩ := (hkind ▸ h).of_range
  have href : ∀ {t' : Token} {left right}, t'.kind = t.kind →
      t'.text = head ++ (left ++ ':' :: right) → isBound left → isBound right →
      t'.referenceText = left ++ ':' :: right := by
    intro t' left right hkind' htext' hleft' hright'
    have hmark : '!' ∉ left ++ ':' :: right := by
      simp [not_mem_of_isBound (c := '!') hleft' rfl, not_mem_of_isBound (c := '!') hright' rfl]
    exact referenceText_of_head (.inr (hkind'.trans hkind)) hhead htext' hmark
  have hbounds := href rfl htext hleft hright
  refine ⟨head, left, right, by rw [hbounds, htext], hbounds, hleft, hright, ?_⟩
  intro t' left' right' rest' hkind' htext' hleft' hright' hnear
  refine ⟨href hkind' htext' hleft' hright', ?_⟩
  rw [hkind', htext', hkind]
  exact hreads left' right' rest' hleft' hright' hnear

theorem isCell_referenceText {t : Token} {sheet : Option Text} {rest : Text}
    (h : Reads t.kind t.text rest) (hkind : t.kind = .cell sheet) : isCell t.referenceText := by
  obtain ⟨-, -, hcell, -⟩ := cell_exchange h hkind
  exact hcell

theorem isBound_referenceText {t : Token} {sheet : Option Text} {rest : Text}
    (h : Reads t.kind t.text rest) (hkind : t.kind = .range sheet) :
    ∃ left right, isBound left ∧ isBound right ∧ t.referenceText = left ++ ':' :: right := by
  obtain ⟨-, left, right, -, hbounds, hleft, hright, -⟩ := range_exchange h hkind
  exact ⟨left, right, hleft, hright, hbounds⟩

end Token

theorem Bound.of_parse?_eq_some {s : Text} {b : Bound} (h : Bound.parse? s = some b) :
    ∃ w index, split? s = some w ∧ Column.index? w.letters = some index ∧
      rowOfDigits? w.digits = some b.row ∧ b = ⟨w.letters, b.row, w.columnMark, w.rowMark⟩ := by
  obtain ⟨w, hw, h⟩ := Option.bind_eq_some_iff.mp h
  obtain ⟨index, hindex, h⟩ := Option.bind_eq_some_iff.mp h
  obtain ⟨row, hrow, h⟩ := Option.bind_eq_some_iff.mp h
  obtain rfl := Option.some.inj h
  exact ⟨w, index, hw, hindex, hrow, rfl⟩

theorem Bound.of_rowOfDigits?_eq_some {digits : Text} {row : Option Nat}
    (h : rowOfDigits? digits = some row) :
    row = (if digits = [] then none else some (Text.toNat digits)) ∧ ∀ n ∈ row, 1 ≤ n := by
  unfold rowOfDigits? at h
  split at h
  · rename_i hdigits
    obtain rfl := Option.some.inj h
    exact ⟨(if_pos hdigits).symm, nofun⟩
  · rename_i hdigits
    dsimp only at h
    split at h
    · rename_i hrow
      obtain rfl := Option.some.inj h
      refine ⟨(if_neg hdigits).symm, fun n hn => ?_⟩
      obtain rfl := Option.some.inj hn
      exact hrow.1
    · contradiction

namespace Reference

theorem parse?_of_isBound {word : Text} (h : Lexeme.isBound word) :
    parse? word = (Bound.parse? word).map single := by
  rw [parse?, Text.splitAtEach_of_not_mem (Lexeme.not_mem_of_isBound h rfl)]

theorem parse?_range_eq_some_iff {left right : Text} {r : Reference} (hleft : Lexeme.isBound left)
    (hright : Lexeme.isBound right) :
    parse? (left ++ ':' :: right) = some r ↔
      ∃ first last, Bound.parse? left = some first ∧ Bound.parse? right = some last ∧
        first.row.isSome = last.row.isSome ∧ r = range first last := by
  rw [parse?, Text.splitAtEach_append (Lexeme.not_mem_of_isBound hleft rfl),
    Text.splitAtEach_of_not_mem (Lexeme.not_mem_of_isBound hright rfl)]
  constructor
  · intro h
    obtain ⟨first, hfirst, h⟩ := Option.bind_eq_some_iff.mp h
    obtain ⟨last, hlast, h⟩ := Option.bind_eq_some_iff.mp h
    split at h
    · rename_i hsome
      exact ⟨first, last, hfirst, hlast, hsome, (Option.some.inj h).symm⟩
    · contradiction
  · rintro ⟨first, last, hfirst, hlast, hsome, rfl⟩
    simp [hfirst, hlast, hsome]

theorem single_of_parse? {word : Text} {r : Reference} (hcell : Lexeme.isCell word)
    (h : parse? word = some r) : ∃ b row, r = .single b ∧ b.row = some row := by
  rw [parse?_of_isBound (Lexeme.isBound_of_isCell hcell)] at h
  obtain ⟨b, hb, rfl⟩ := Option.map_eq_some_iff.mp h
  obtain ⟨w, hform, rfl, hdigits⟩ := Lexeme.isCell_iff.mp hcell
  obtain ⟨w', _, hw, -, hrow, -⟩ := Bound.of_parse?_eq_some hb
  rw [Bound.split?_text hform] at hw
  obtain rfl := Option.some.inj hw
  have hrow' := (Bound.of_rowOfDigits?_eq_some hrow).1
  rw [if_neg hdigits] at hrow'
  exact ⟨b, _, rfl, hrow'⟩

end Reference

end ColumnFormula
