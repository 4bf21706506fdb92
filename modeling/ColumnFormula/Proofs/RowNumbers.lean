import ColumnFormula.Proofs.Renumbering
import ColumnFormula.Proofs.RewrittenTokens

namespace ColumnFormula

open Lexeme

namespace Bound

/-- The bound as written with another row, unless it has none or an absolute one. -/
def Written.renumber (f : Nat → Nat) (w : Written) : Written :=
  if w.rowMark ∨ w.digits = [] then w
  else { w with digits := Text.ofNat (f (Text.toNat w.digits)) }

/-- The bound with another row, unless it has none or an absolute one. -/
def renumber (f : Nat → Nat) (b : Bound) : Bound :=
  if b.rowAbsolute then b else { b with row := b.row.map f }

def renumberText (f : Nat → Nat) (word : Text) : Text :=
  match split? word with
  | some w => (w.renumber f).text
  | none => word

end Bound

namespace Reference

def relativeRows (r : Reference) : List Nat :=
  (r.bounds.filter (!·.rowAbsolute)).filterMap Bound.row

def renumber (f : Nat → Nat) : Reference → Reference
  | single b => single (b.renumber f)
  | range first last => range (first.renumber f) (last.renumber f)

def renumberText (f : Nat → Nat) (s : Text) : Text :=
  [':'].intercalate ((Text.splitAtEach ':' s).map (Bound.renumberText f))

/-- The function takes the rows of the reference to rows that there are. -/
def KeepsRows (f : Nat → Nat) (r : Reference) : Prop :=
  ∀ row ∈ r.relativeRows, 1 ≤ f row ∧ f row ≤ Bound.greatestRow

end Reference

/-- A reference with other rows; every other token stays. -/
def Token.renumber (f : Nat → Nat) (t : Token) : Token :=
  match t.kind with
  | .cell _ | .range _ =>
    let head := t.text.take (t.text.length - t.referenceText.length)
    { t with text := head ++ Reference.renumberText f t.referenceText }
  | _ => t

variable {f : Nat → Nat}

namespace Bound

theorem Written.renumber_eq_self {w : Written} (h : w.rowMark ∨ w.digits = []) :
    w.renumber f = w :=
  if_pos h

theorem Written.renumber_of_moves {w : Written} (h : ¬(w.rowMark ∨ w.digits = [])) :
    w.renumber f = { w with digits := Text.ofNat (f (Text.toNat w.digits)) } :=
  if_neg h

theorem Written.renumber_wellFormed {w : Written} (h : w.WellFormed) :
    (w.renumber f).WellFormed := by
  by_cases hmoves : w.rowMark ∨ w.digits = []
  · rwa [renumber_eq_self hmoves]
  · rw [renumber_of_moves hmoves]
    exact
      { h with
        digits_isDigit := fun _ hc => Text.isDigit_of_mem_ofNat hc
        digits_ne_nil := fun _ => Text.ofNat_ne_nil _ }

theorem Written.renumbered {w : Written} (h : w.WellFormed) {s s' : Text}
    (hs : Renumbered s s') : Renumbered (w.text ++ s) ((w.renumber f).text ++ s') := by
  by_cases hmoves : w.rowMark ∨ w.digits = []
  · rw [renumber_eq_self hmoves]
    exact hs.append_left w.text
  · rw [renumber_of_moves hmoves]
    obtain ⟨columnMark, letters, rowMark, digits⟩ := w
    obtain ⟨hmark, hdigits⟩ := not_or.mp hmoves
    obtain rfl : rowMark = false := Bool.eq_false_of_not_eq_true hmark
    obtain ⟨init, c, rfl⟩ := (List.eq_nil_or_concat' letters).resolve_left h.letters_ne_nil
    have hrow : Renumbered (c :: (digits ++ s))
        (c :: (Text.ofNat (f (Text.toNat digits)) ++ s')) :=
      .digits (h.letters_isUpper c (by simp)) ⟨hdigits, h.digits_isDigit⟩
        ⟨Text.ofNat_ne_nil _, fun _ hd => Text.isDigit_of_mem_ofNat hd⟩ hs
    have := hrow.append_left (markText columnMark ++ init)
    simpa [Written.text, markText] using this

theorem isRewriting_renumber (f : Nat → Nat) : IsRewriting (Written.renumber f) where
  wellFormed _ := Written.renumber_wellFormed
  columnMark w := by
    rw [Written.renumber]
    split <;> rfl
  digits_eq_nil_iff w := by
    rw [Written.renumber]
    split
    · rfl
    · rename_i hmoves
      simp [Text.ofNat_ne_nil, (not_or.mp hmoves).2]

theorem renumberText_eq_rewriteText (f : Nat → Nat) :
    renumberText f = rewriteText (Written.renumber f) := rfl

theorem renumbered_renumberText {word s s' : Text} (h : isBound word) (hs : Renumbered s s') :
    Renumbered (word ++ s) (renumberText f word ++ s') := by
  obtain ⟨w, hform, rfl⟩ := isBound_iff.mp h
  rw [renumberText_eq_rewriteText, rewriteText_text _ hform]
  exact w.renumbered hform hs

theorem parse?_renumberText {word : Text} {b : Bound} (h : parse? word = some b)
    (hrows : b.rowAbsolute = false → ∀ row ∈ b.row, 1 ≤ f row ∧ f row ≤ greatestRow) :
    parse? (renumberText f word) = some (b.renumber f) := by
  obtain ⟨w, index, hw, hindex, hrow, hb⟩ := of_parse?_eq_some h
  obtain ⟨rfl, hform⟩ := split?_eq_some_iff.mp hw
  have hmark : b.rowAbsolute = w.rowMark := by rw [hb]
  have hrow' := (of_rowOfDigits?_eq_some hrow).1
  rw [renumberText_eq_rewriteText, rewriteText_text _ hform]
  by_cases hmoves : w.rowMark ∨ w.digits = []
  · have hsame : b.renumber f = b := by
      rcases hmoves with hmoves | hmoves
      · exact if_pos (hmark.trans hmoves)
      · rw [if_pos hmoves] at hrow'
        rw [renumber]
        split
        · rfl
        · rw [hb, hrow']
          rfl
    rw [Written.renumber_eq_self hmoves, hsame, parse?_text hform hindex hrow]
    exact congrArg some hb.symm
  · obtain ⟨hrelative, hdigits⟩ := not_or.mp hmoves
    rw [if_neg hdigits] at hrow'
    rw [Bool.not_eq_true] at hrelative
    obtain ⟨hpos, hle⟩ := hrows (hmark.trans hrelative) _ hrow'
    have hform' := w.renumber_wellFormed (f := f) hform
    rw [Written.renumber_of_moves hmoves] at hform' ⊢
    rw [parse?_text hform' hindex (rowOfDigits?_ofNat hpos hle), hb, hrow']
    simp [renumber, hrelative]

theorem renumber_column (b : Bound) : (b.renumber f).column = b.column := by
  rw [renumber]
  split <;> rfl

theorem renumber_rowAbsolute (b : Bound) : (b.renumber f).rowAbsolute = b.rowAbsolute := by
  rw [renumber]
  split <;> rfl

theorem renumber_row_isSome (b : Bound) : (b.renumber f).row.isSome = b.row.isSome := by
  rw [renumber]
  split
  · rfl
  · exact Option.isSome_map

end Bound

namespace Reference

theorem renumber_eq_mapBounds (r : Reference) : r.renumber f = r.mapBounds (Bound.renumber f) := by
  cases r <;> rfl

theorem KeepsRows.of_mem {r : Reference} {b : Bound} (h : r.KeepsRows f) (hb : b ∈ r.bounds)
    (hrelative : b.rowAbsolute = false) (row : Nat) (hrow : row ∈ b.row) :
    1 ≤ f row ∧ f row ≤ Bound.greatestRow := by
  apply h
  rw [relativeRows, List.mem_filterMap]
  exact ⟨b, List.mem_filter.mpr ⟨hb, by simp [hrelative]⟩, hrow⟩

theorem pos_of_mem_relativeRows {s : Text} {r : Reference} {row : Nat} (h : parse? s = some r)
    (hrow : row ∈ r.relativeRows) : 1 ≤ row := by
  obtain ⟨b, hb, hrow⟩ := List.mem_filterMap.mp hrow
  obtain ⟨word, hword⟩ := exists_parse?_of_mem_bounds h (List.mem_filter.mp hb).1
  obtain ⟨w, _, -, -, hdigits, -⟩ := Bound.of_parse?_eq_some hword
  exact (Bound.of_rowOfDigits?_eq_some hdigits).2 row hrow

end Reference

namespace Token

theorem renumber_eq_rewrite (f : Nat → Nat) : renumber f = rewrite (Bound.Written.renumber f) := rfl

@[simp] theorem renumber_kind (t : Token) : (t.renumber f).kind = t.kind := t.rewrite_kind

theorem renumber_of_not_isReference {t : Token} (h : ¬ t.IsReference) : t.renumber f = t :=
  rewrite_of_not_isReference h

/-- The token with other rows is read where the token is, and its reference has these rows. -/
structure Renumbers (f : Nat → Nat) (t : Token) (rest rest' : Text) : Prop where
  reads : Reads (t.renumber f).kind (t.renumber f).text rest'
  renumbered : Renumbered (t.text ++ rest) ((t.renumber f).text ++ rest')
  referenceText : t.IsReference →
    (t.renumber f).referenceText = Reference.renumberText f t.referenceText

variable {t : Token} {rest rest' : Text}

theorem renumbered_text (h : Reads t.kind t.text rest) (href : t.IsReference)
    (hrest : Renumbered rest rest') :
    Renumbered (t.text ++ rest) ((t.renumber f).text ++ rest') := by
  rw [renumber_eq_rewrite]
  rcases id href with ⟨sheet, hkind⟩ | ⟨sheet, hkind⟩
  · obtain ⟨head, htext, hcell, -⟩ := cell_exchange h hkind
    have hbound := isBound_of_isCell hcell
    rw [rewrite_text href htext, htext, Reference.rewriteText_of_isBound hbound, List.append_assoc,
      List.append_assoc]
    exact (Bound.renumbered_renumberText hbound hrest).append_left head
  · obtain ⟨head, left, right, htext, hbounds, hleft, hright, -⟩ := range_exchange h hkind
    rw [rewrite_text href htext, htext, hbounds, Reference.rewriteText_range hleft hright]
    simp only [List.append_assoc, List.cons_append]
    apply Renumbered.append_left
    apply Bound.renumbered_renumberText hleft
    exact .cons ':' (Bound.renumbered_renumberText hright hrest)

theorem renumbers (h : Reads t.kind t.text rest) (hrest : Renumbered rest rest') :
    t.Renumbers f rest rest' := by
  by_cases href : t.IsReference
  · obtain ⟨hreads, hreference⟩ :=
      reads_rewrite (Bound.isRewriting_renumber f) h href hrest.endsAlike.near
    exact ⟨hreads, renumbered_text h href hrest, fun _ => hreference⟩
  · refine ⟨?_, ?_, fun href' => absurd href' href⟩
    · rw [renumber_of_not_isReference href]
      refine h.of_endsAlike hrest.endsAlike ?_ ?_
      · intro hkind
        exact hrest.stop (hkind ▸ h).blank_stop
      · intro hkind
        obtain ⟨s, hs⟩ := (hkind ▸ h).function_paren
        rw [hrest.head?_eq, hs]
        rfl
    · rw [renumber_of_not_isReference href]
      exact hrest.append_left t.text

theorem lexed_renumber {tokens : List Token} (h : Lexed tokens) :
    Lexed (tokens.map (renumber f)) ∧
      Renumbered (render tokens) (render (tokens.map (renumber f))) := by
  induction tokens with
  | nil => exact ⟨trivial, .nil⟩
  | cons t tokens ih =>
      obtain ⟨hlexed, hrenumbered⟩ := ih h.2
      have hfirst := renumbers (f := f) h.1 hrenumbered
      exact ⟨⟨hfirst.reads, hlexed⟩, hfirst.renumbered⟩

theorem parse?_referenceText_renumber {r : Reference} (h : Reads t.kind t.text rest)
    (href : t.IsReference) (hparse : Reference.parse? t.referenceText = some r)
    (hrows : r.KeepsRows f) :
    Reference.parse? (t.renumber f).referenceText = some (r.renumber f) := by
  rw [renumber_eq_rewrite, Reference.renumber_eq_mapBounds]
  refine parse?_referenceText_rewrite (Bound.isRewriting_renumber f) Bound.renumber_row_isSome h
    href
    hparse ?_
  intro b hb word hword
  exact Bound.parse?_renumberText hword (hrows.of_mem hb)

end Token

end ColumnFormula
