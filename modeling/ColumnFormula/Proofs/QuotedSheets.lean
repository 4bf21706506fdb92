import ColumnFormula.Proofs.RegistryLookup
import ColumnFormula.Proofs.SingleReference

namespace ColumnFormula

namespace Lexeme

/-- The quoted run of a text, without the quote in front. -/
def enquote (q : Char) : Text → Text
  | [] => [q]
  | c :: s => if c = q then q :: q :: enquote q s else c :: enquote q s

theorem closes_enquote (q : Char) (s : Text) : Closes q (enquote q s) := by
  induction s with
  | nil => exact .quote
  | cons c s ih =>
      rw [enquote]
      split
      · exact .doubled ih
      · rename_i hc
        exact .other hc ih

theorem unquote_enquote (q : Char) (s : Text) : unquote q (enquote q s) = s := by
  induction s with
  | nil => simp [enquote, unquote]
  | cons c s ih =>
      rw [enquote]
      split
      · rename_i hc
        simp [unquote, hc, ih]
      · rename_i hc
        rw [unquote.eq_def]
        simp [hc, ih]

/-- A sheet's name in quotes, and the exclamation mark. -/
def quotedHead (name : Text) : Text := '\'' :: enquote '\'' name ++ ['!']

theorem sheetHead_quotedHead (name : Text) : SheetHead name (quotedHead name) := by
  have h := SheetHead.quoted (closes_enquote '\'' name)
  rwa [unquote_enquote] at h

/-- The kind of a reference behind a sheet's name. -/
def withSheet (sheet : Text) : Token.Kind → Token.Kind
  | .cell _ => .cell (some sheet)
  | .range _ => .range (some sheet)
  | kind => kind

theorem Reads.withSheet {kind : Token.Kind} {text rest sheet head : Text} (h : Reads kind text rest)
    (hkind : kind = .cell none ∨ kind = .range none) (hhead : SheetHead sheet head) :
    Reads (withSheet sheet kind) (head ++ text) rest := by
  cases h with
  | cell hcell hstop htail =>
      exact .sheetCell hhead hcell (hstop.mono fun c hc => by simp [endsBare, hc]) htail
  | range hleft hright hstop => exact .sheetRange hhead hleft hright hstop
  | symbol hsingle =>
      have := of_single?_eq_some hsingle
      rcases hkind with rfl | rfl <;> simp at this
  | _ => simp at hkind

end Lexeme

open Lexeme

namespace Token

/-- A cell or a range without a sheet's name. -/
def IsUnqualified (t : Token) : Prop := t.kind = .cell none ∨ t.kind = .range none

theorem IsUnqualified.isReference {t : Token} (h : t.IsUnqualified) : t.IsReference := by
  rcases h with h | h
  · exact .inl ⟨none, h⟩
  · exact .inr ⟨none, h⟩

/-- A reference behind a sheet's name in quotes. -/
def qualify (name : Text) (t : Token) : Token :=
  ⟨withSheet name t.kind, quotedHead name ++ t.text, 0⟩

theorem qualify_cell {t : Token} (h : t.kind = .cell none) (name : Text) :
    (t.qualify name).kind = .cell (some name) := by
  simp [qualify, withSheet, h]

theorem qualify_range {t : Token} (h : t.kind = .range none) (name : Text) :
    (t.qualify name).kind = .range (some name) := by
  simp [qualify, withSheet, h]

theorem IsUnqualified.isReference_qualify {t : Token} (h : t.IsUnqualified) (name : Text) :
    (t.qualify name).IsReference := by
  rcases h with h | h
  · exact .inl ⟨_, qualify_cell h name⟩
  · exact .inr ⟨_, qualify_range h name⟩

theorem tokenize_qualify {reference : Text} {t : Token} (h : tokenize reference = .ok [t])
    (hkind : t.IsUnqualified) (name : Text) :
    tokenize (quotedHead name ++ reference) = .ok [t.qualify name] := by
  obtain ⟨hrender, ⟨hreads, -⟩, -⟩ := tokenize_eq_ok_iff.mp h
  rw [tokenize_eq_ok_iff]
  refine ⟨?_, ⟨?_, trivial⟩, rfl⟩
  · rw [← hrender, render_cons, render_cons, qualify, List.append_assoc]
  · exact hreads.withSheet hkind (sheetHead_quotedHead name)

theorem mark_not_mem_referenceText {t : Token} {rest : Text} (h : Reads t.kind t.text rest)
    (href : t.IsReference) : '!' ∉ t.referenceText := by
  rcases href with ⟨sheet, hkind⟩ | ⟨sheet, hkind⟩
  · exact not_mem_of_isBound (isBound_of_isCell (isCell_referenceText h hkind)) rfl
  · obtain ⟨left, right, hleft, hright, heq⟩ := isBound_referenceText h hkind
    rw [heq, List.mem_append, List.mem_cons]
    rintro (hmem | hmem | hmem)
    · exact not_mem_of_isBound hleft rfl hmem
    · contradiction
    · exact not_mem_of_isBound hright rfl hmem

theorem referenceText_qualify {t : Token} {rest : Text} (h : Reads t.kind t.text rest)
    (hkind : t.IsUnqualified) (name : Text) :
    (t.qualify name).referenceText = t.referenceText := by
  have hhead := Head.sheet (sheetHead_quotedHead name)
  have hmark := mark_not_mem_referenceText h hkind.isReference
  have htext : t.referenceText = t.text := by
    rcases hkind with hkind | hkind <;> simp [referenceText, hkind]
  rw [htext] at hmark ⊢
  rcases hkind with hkind | hkind
  · exact referenceText_of_head (.inl (qualify_cell hkind name)) hhead rfl hmark
  · exact referenceText_of_head (.inr (qualify_range hkind name)) hhead rfl hmark

end Token

namespace Converter

variable {t : Converter} {place : Place} {name text rest : Text} {token : Token}

theorem target_ownName (hplace : t.place = some place)
    (hown : place.workbook.get? place.sheet = some t.mapping)
    (hname : Text.upperCase name = Text.upperCase place.sheet) :
    t.target (some name) =
      if Text.sameIgnoringCase place.sheet name then .own else .other t.mapping := by
  simp [target, hplace, place.workbook.get?_congr hname, hown]

theorem resolvesTo_ownName (hplace : t.place = some place)
    (hown : place.workbook.get? place.sheet = some t.mapping)
    (hname : Text.upperCase name = Text.upperCase place.sheet) :
    t.ResolvesTo (some name) t.mapping := by
  cases hsame : Text.sameIgnoringCase place.sheet name with
  | true => exact .own ⟨place, hplace, hsame⟩
  | false =>
      rw [← place.workbook.get?_congr hname] at hown
      exact .other hplace hsame hown

theorem Rewrites.qualify_range (h : t.Rewrites token text) (hkind : token.kind = .range none)
    (hreads : Reads token.kind token.text rest) (hresolves : t.ResolvesTo (some name) t.mapping) :
    t.Rewrites (token.qualify name) text := by
  have href := Token.referenceText_qualify hreads (.inr hkind) name
  have hkind' := Token.qualify_range hkind name
  cases h with
  | currentRow hcell => simp [hkind] at hcell
  | fixedRow hcell => simp [hkind] at hcell
  | wholeColumn hrange hsheet hparses hcolumn hknown =>
      obtain rfl := Token.Kind.range.inj (hkind.symm.trans hrange)
      cases hsheet with
      | own => exact .wholeColumn hkind' hresolves (href ▸ hparses) hcolumn hknown

theorem Rewrites.qualify_cell (h : t.Rewrites token text) (hkind : token.kind = .cell none)
    (hreads : Reads token.kind token.text rest) (hown : t.IsOwn (some name)) :
    t.Rewrites (token.qualify name) text := by
  have href := Token.referenceText_qualify hreads (.inl hkind) name
  have hkind' := Token.qualify_cell hkind name
  cases h with
  | currentRow _ _ hparses hrelative hknown =>
      exact .currentRow hkind' hown (href ▸ hparses) hrelative hknown
  | fixedRow _ _ hparses habsolute hrow hdata hknown =>
      exact .fixedRow hkind' hown (href ▸ hparses) habsolute hrow hdata hknown
  | wholeColumn hrange => simp [hkind] at hrange

/-- A cell's column form starts with a dollar sign or ends with a bracket. -/
theorem Rewrites.ne_qualify (h : t.Rewrites token text) (hkind : token.kind = .cell none)
    (hreads : Reads token.kind token.text rest) : text ≠ (token.qualify name).text := by
  rintro rfl
  generalize htext : (token.qualify name).text = text at h
  change quotedHead name ++ token.text = text at htext
  cases h with
  | currentRow => simp [quotedHead] at htext
  | fixedRow =>
      obtain ⟨front, c, hfront, hc⟩ := exists_text_eq_append hreads (.inl ⟨none, hkind⟩)
      rw [hfront, ← List.append_assoc] at htext
      obtain rfl := List.singleton_inj.mp (List.append_inj' htext rfl).2
      contradiction
  | wholeColumn hrange => simp [hkind] at hrange

/-- With the own sheet's name in front, a range is converted as it is alone, and a cell is just when
the name differs in the case of ASCII letters at most. -/
theorem convert_quotedHead {reference : Text} (hplace : t.place = some place)
    (hown : place.workbook.get? place.sheet = some t.mapping)
    (hname : Text.upperCase name = Text.upperCase place.sheet)
    (htoken : Token.tokenize reference = .ok [token])
    (hkind : token.IsUnqualified)
    (hrewrites : t.Rewrites token text) (row : Option Nat) :
    let alone := t.convert reference row
    let qualified := t.convert (quotedHead name ++ reference) row
    alone.output = text ∧ qualified.success = true ∧
      (qualified.output = alone.output ↔
        Text.sameIgnoringCase place.sheet name ∨ token.kind = .range none) := by
  obtain ⟨-, ⟨hreads, -⟩, -⟩ := Token.tokenize_eq_ok_iff.mp htoken
  have htoken' := Token.tokenize_qualify htoken hkind name
  intro alone qualified
  have halone : alone.output = text := by
    rw [← replace_of_rewrites hrewrites row]
    exact congrArg Conversion.output (t.convert_of_token htoken hkind.isReference row)
  have hqualified := t.convert_of_token htoken' (hkind.isReference_qualify name) row
  have houtput : qualified.output = (t.replace row (token.qualify name)).text :=
    congrArg Conversion.output hqualified
  refine ⟨halone, congrArg Conversion.success hqualified, ?_⟩
  rw [halone, houtput]
  rcases hkind with hkind | hkind
  · cases hsame : Text.sameIgnoringCase place.sheet name with
    | true =>
        have hqualify := hrewrites.qualify_cell hkind hreads ⟨place, hplace, hsame⟩
        simp [replace_of_rewrites hqualify]
    | false =>
        have htarget := target_ownName hplace hown hname
        rw [hsame, if_neg (by simp)] at htarget
        have hkeep : (t.replace row (token.qualify name)).text = (token.qualify name).text := by
          simp [replace, Token.qualify_cell hkind, cell, htarget, keep]
        simp [hkeep, hkind, (hrewrites.ne_qualify hkind hreads).symm]
  · have hresolves := resolvesTo_ownName hplace hown hname
    simp [replace_of_rewrites (hrewrites.qualify_range hkind hreads hresolves), hkind]

theorem convert_quotedHead_range :
    let own := Mapping.ofHeadersAt ["Price".toList] 0 {}
    let place : Place := ⟨"l'été".toList, ⟨[("l'été".toList, own)]⟩⟩
    let t : Converter := { mapping := own, firstDataRow := 2, place := some place }
    let name := "L'ÉTÉ".toList
    let formula := quotedHead name ++ "A:A".toList
    Text.upperCase name = Text.upperCase place.sheet ∧ formula = "'L''ÉTÉ'!A:A".toList ∧
      (t.convert "A:A".toList).output = "Table1.Price".toList ∧
      (t.convert formula).success = true ∧
      ((t.convert formula).output = (t.convert "A:A".toList).output ↔
        Text.sameIgnoringCase place.sheet name ∨ Token.Kind.range none = .range none) := by
  intro own place t name formula
  have hname : Text.upperCase name = Text.upperCase place.sheet := by decide +kernel
  have hown : place.workbook.get? place.sheet = some own := by decide +kernel
  have htoken : Token.tokenize "A:A".toList = .ok [⟨.range none, "A:A".toList, 0⟩] := by
    decide +kernel
  let column : Bound := ⟨"A".toList, none, false, false⟩
  have hparses : Reference.parse? "A:A".toList = some (.range column column) := by decide +kernel
  have hknown : own.get? column.column = some "Price".toList := by decide +kernel
  have hresolves : t.ResolvesTo none own := .own trivial
  have hrewrites : t.Rewrites ⟨.range none, "A:A".toList, 0⟩ (own.table ++ '.' :: "Price".toList) :=
    .wholeColumn rfl hresolves hparses rfl hknown
  obtain ⟨houtput, hsuccess, hiff⟩ :=
    convert_quotedHead (t := t) rfl hown hname htoken (.inr rfl) hrewrites none
  exact ⟨hname, by decide +kernel, houtput, hsuccess, hiff⟩

/-- A cell whose sheet is called by a name with its accented letter in another case stays. -/
theorem convert_quotedHead_accent :
    let own := Mapping.ofHeadersAt ["Price".toList] 0 {}
    let workbook : Registry := ⟨[("é".toList, own)]⟩
    let t : Converter := { mapping := own, firstDataRow := 2, place := some ⟨"é".toList, workbook⟩ }
    workbook.get? "é".toList = some own ∧ Text.upperCase "É".toList = Text.upperCase "é".toList ∧
      (t.convert "A2".toList).output = "$Price".toList ∧
      quotedHead "É".toList ++ "A2".toList = "'É'!A2".toList ∧
      (t.convert "'É'!A2".toList).output = "'É'!A2".toList := by
  decide +kernel

end Converter

end ColumnFormula
