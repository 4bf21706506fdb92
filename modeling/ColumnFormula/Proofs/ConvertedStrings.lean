import ColumnFormula.Proofs.ColumnMapping
import ColumnFormula.Proofs.OperatorSpacing
import ColumnFormula.Proofs.RegistryLookup
import ColumnFormula.Proofs.StringLiterals
import ColumnFormula.Proofs.TokenReplacement

namespace ColumnFormula

open Lexeme

namespace Token

/-- What may be written for a token: its own text, or for all but strings a text without quotes,
which is empty only in the place of a function name. -/
inductive Respelled (t : Token) : Text → Prop
  | same : Respelled t t.text
  | noQuote {piece : Text} (noString : t.kind ≠ .string) (none : ∀ c ∈ piece, isQuote c = false)
      (function : piece = [] → t.kind = .function) : Respelled t piece

/-- A text that has a piece for each token, in order. -/
inductive Respells : List Token → Text → Prop
  | nil : Respells [] []
  | cons {t : Token} {tokens : List Token} {piece s : Text} (first : t.Respelled piece)
      (rest : Respells tokens s) : Respells (t :: tokens) (piece ++ s)

theorem Respells.stopsBefore {tokens : List Token} {s : Text} (h : Respells tokens s)
    (hlexed : Lexed tokens) {q : Char} (hq : isQuote q)
    (hstop : Text.StopsBefore (· == q) (render tokens)) : Text.StopsBefore (· == q) s := by
  induction h with
  | nil => exact Text.stopsBefore_nil _
  | @cons t tokens piece s hfirst _ ih =>
      obtain ⟨hreads, hrest⟩ := hlexed
      cases hfirst with
      | same =>
          have hne := hreads.text_ne_nil
          rw [render_cons, Text.stopsBefore_append_iff hne] at hstop
          exact (Text.stopsBefore_append_iff hne s).mpr hstop
      | noQuote _ hnone hfunction =>
          by_cases hnil : piece = []
          · obtain ⟨more, hmore⟩ := (hfunction hnil ▸ hreads).function_paren
            rw [hnil, List.nil_append]
            apply ih hrest
            rw [hmore, Text.stopsBefore_cons, beq_eq_false_iff_ne]
            rintro rfl
            contradiction
          · rw [Text.stopsBefore_append_iff hnil]
            apply Text.stopsBefore_of_forall
            intro c hc
            rw [beq_eq_false_iff_ne]
            rintro rfl
            simp [hnone c hc] at hq

theorem Respells.strings?_eq {tokens : List Token} {s : Text} (h : Respells tokens s)
    (hlexed : Lexed tokens) : strings? s = some (strings tokens) := by
  induction h with
  | nil => exact strings?_nil
  | @cons t tokens piece s hfirst hrest ih =>
      obtain ⟨hreads, hlexed⟩ := hlexed
      rw [strings_cons]
      cases hfirst with
      | same =>
          have hquoting : Quoting t.kind t.text s :=
            hreads.quoting.of_stops fun q hq hstop => hrest.stopsBefore hlexed hq hstop
          rw [strings?_of_quoting hquoting, ih hlexed]
          rfl
      | noQuote hkind hnone =>
          rw [strings?_append hnone, ih hlexed, if_neg hkind]

theorem respells_spacedText {tokens tokens' : List Token}
    (h : List.Forall₂ (fun t t' => t'.kind = t.kind ∧ t.Respelled t'.text) tokens tokens')
    (blankBefore operand : Bool) : Respells tokens (spacedText blankBefore operand tokens') := by
  induction h generalizing blankBefore operand with
  | nil => exact .nil
  | @cons t t' tokens tokens' hfirst _ ih =>
      obtain ⟨hkind, hspelled⟩ := hfirst
      rw [spacedText]
      refine .cons ?_ (ih _ _)
      split
      · rename_i hspaced
        rw [Bool.and_eq_true] at hspaced
        obtain ⟨hoperator, htext⟩ := operator_of_isSpaced hspaced.1
        obtain ⟨hne, hchars⟩ := spacedOperator_chars _ htext
        refine .noQuote (by simp [← hkind, hoperator]) ?_ (by simp [hne])
        intro c hc
        have hspace : ∀ {b : Bool}, c ∈ (if b then [] else [' ']) → isQuote c = false := by
          intro b hc
          cases b with
          | true => contradiction
          | false =>
              rw [List.mem_singleton.mp hc]
              rfl
        rw [List.mem_append, List.mem_append] at hc
        rcases hc with (hc | hc) | hc
        · exact hspace hc
        · exact isQuote_eq_false (p := isOperatorChar) rfl rfl (hchars c hc)
        · exact hspace hc
      · exact hspelled

end Token

/-- The mapping was made of the headers of a sheet, and its table has a valid name. -/
def Mapping.IsOfHeaders (m : Mapping) : Prop :=
  ∃ headers firstColumn options, Identifier.isValid options.tableName ∧
    m = ofHeadersAt headers firstColumn options

theorem Mapping.IsOfHeaders.table_isValid {m : Mapping} (h : m.IsOfHeaders) :
    Identifier.isValid m.table := by
  obtain ⟨headers, firstColumn, options, htable, rfl⟩ := h
  exact htable

theorem Mapping.IsOfHeaders.get?_isValid {m : Mapping} (h : m.IsOfHeaders)
    {letters identifier : Text} (hget : m.get? letters = some identifier) :
    Identifier.isValid identifier := by
  obtain ⟨headers, firstColumn, options, -, rfl⟩ := h
  obtain ⟨i, -, hidentifier⟩ := exists_of_get? hget
  exact ofHeadersAt_isValid (List.mem_of_getElem? hidentifier)

theorem Lexeme.isQuote_of_isValid {s : Text} (h : Identifier.isValid s) :
    ∀ c ∈ s, isQuote c = false :=
  fun c hc => isQuote_eq_false rfl rfl (Identifier.isWordChar_of_isValid h c hc)

namespace Converter

/-- All mappings in which columns are looked up were made of headers. -/
structure HasValidNames (t : Converter) : Prop where
  own : t.mapping.IsOfHeaders
  others : ∀ place, t.place = some place → ∀ sheet ∈ place.workbook.sheets, sheet.2.IsOfHeaders

variable {t : Converter}

theorem HasValidNames.of_resolvesTo (h : t.HasValidNames) {sheet : Option Text} {m : Mapping}
    (hresolves : t.ResolvesTo sheet m) : m.IsOfHeaders := by
  cases hresolves with
  | own => exact h.own
  | other hplace _ hget =>
      obtain ⟨own, hmem⟩ := Registry.exists_mem_of_get? hget
      exact h.others _ hplace _ hmem

theorem Rewrites.noQuote {token : Token} {text : Text} (h : t.Rewrites token text)
    (hnames : t.HasValidNames) : text ≠ [] ∧ ∀ c ∈ text, isQuote c = false := by
  cases h with
  | currentRow _ _ _ _ hknown =>
      have hidentifier := isQuote_of_isValid (hnames.own.get?_isValid hknown)
      refine ⟨by simp, fun c hc => ?_⟩
      rcases List.mem_cons.mp hc with rfl | hc
      · rfl
      · exact hidentifier c hc
  | fixedRow _ _ _ _ _ _ hknown =>
      have hidentifier := isQuote_of_isValid (hnames.own.get?_isValid hknown)
      refine ⟨by simp, fun c hc => ?_⟩
      rw [List.mem_append, List.mem_append, List.mem_cons, List.mem_singleton] at hc
      rcases hc with (hc | rfl | hc) | rfl
      · exact hidentifier c hc
      · rfl
      · exact isQuote_of_isDigit (Text.isDigit_of_mem_ofNat hc)
      · rfl
  | wholeColumn _ hresolves _ _ hknown =>
      have hheaders := hnames.of_resolvesTo hresolves
      refine ⟨by simp, fun c hc => ?_⟩
      rw [List.mem_append, List.mem_cons] at hc
      rcases hc with hc | rfl | hc
      · exact isQuote_of_isValid hheaders.table_isValid c hc
      · rfl
      · exact isQuote_of_isValid (hheaders.get?_isValid hknown) c hc

theorem function_noQuote {name name' : Text} (h : Function.LosesMark name name')
    (hname : ∀ c ∈ name, isQuote c = false) : ∀ c ∈ name', isQuote c = false := by
  intro c hc
  rcases h with rfl | ⟨mark, -, written, -, rfl⟩
  · exact hname c hc
  · exact hname c (List.mem_append_right written hc)

theorem replace_respelled (hnames : t.HasValidNames) {token : Token} {rest : Text}
    (h : Reads token.kind token.text rest) (row : Option Nat) :
    token.Respelled (t.replace row token).text := by
  by_cases href : token.IsReference
  · rcases replace_reference h href row with hrewrites | ⟨d, hkeep, -⟩
    · obtain ⟨hne, hnone⟩ := hrewrites.noQuote hnames
      refine .noQuote ?_ hnone (fun hnil => absurd hnil hne)
      rcases href with ⟨sheet, hkind⟩ | ⟨sheet, hkind⟩ <;> simp [hkind]
    · rw [hkeep]
      exact .same
  by_cases hfunction : token.kind = .function
  · have hmark := (t.replace_matches row token).function hfunction
    have hname := isQuote_of_isWord (hfunction ▸ h).function_isWord
    exact .noQuote (by simp [hfunction]) (function_noQuote hmark hname) fun _ => hfunction
  · rw [replace_other href hfunction]
    exact .same

/-- The strings of a formula are the strings of what it is converted to. -/
theorem convert_strings (hnames : t.HasValidNames) {formula : Text} {row : Option Nat}
    (hbody : Text.isAllBlank (body formula) = false)
    (hsuccess : (t.convert formula row).success = true) :
    ∃ tokens tokens', Token.tokenize (body formula) = .ok tokens ∧
      Token.tokenize (t.convert formula row).output = .ok tokens' ∧
      Token.strings tokens' = Token.strings tokens := by
  rcases of_convert_success hsuccess with ⟨hblank, -⟩ | ⟨tokens, htokens, houtput⟩
  · simp [hbody] at hblank
  obtain ⟨-, hlexed, -⟩ := Token.tokenize_eq_ok_iff.mp htokens
  have hrespelled : List.Forall₂ (fun token token' : Token =>
      token'.kind = token.kind ∧ token.Respelled token'.text) tokens (t.replaceAll row tokens) := by
    rw [replaceAll, List.forall₂_map_right_iff, List.forall₂_same]
    intro token htoken
    obtain ⟨rest, hreads⟩ := hlexed.reads token htoken
    exact ⟨rfl, replace_respelled hnames hreads row⟩
  have hstrings := (Token.respells_spacedText hrespelled false false).strings?_eq hlexed
  obtain ⟨tokens', htokens', heq⟩ := Token.strings?_eq_some_iff.mp hstrings
  exact ⟨tokens, tokens', htokens, houtput ▸ htokens', heq⟩

theorem convert_strings_quoted :
    let own := Mapping.ofHeadersAt ["Price".toList] 0 {}
    let rates := Mapping.ofHeadersAt ["Rate".toList] 0 { tableName := "Rates".toList }
    let t : Converter :=
      { mapping := own
        firstDataRow := 2
        place := some ⟨"O'x".toList, ⟨[("O'x".toList, own), ("K\"".toList, rates)]⟩⟩ }
    let formula := "=\"it's\"&_xlfn.(\"a\"\"b\")&'O''x'!A2&SUM('K\"'!A:A)&'K\"'!B2".toList
    t.HasValidNames ∧ Text.isAllBlank (body formula) = false ∧
      (t.convert formula).success = true ∧ (t.convert formula).output =
        "\"it's\" & (\"a\"\"b\") & $Price & SUM(Rates.Rate) & 'K\"'!B2".toList ∧
      ∃ tokens tokens', Token.tokenize (body formula) = .ok tokens ∧
        Token.tokenize (t.convert formula).output = .ok tokens' ∧
        Token.strings tokens' = Token.strings tokens := by
  intro own rates t formula
  have hown : own.IsOfHeaders := ⟨["Price".toList], 0, {}, by decide, rfl⟩
  have hrates : rates.IsOfHeaders :=
    ⟨["Rate".toList], 0, { tableName := "Rates".toList }, by decide, rfl⟩
  have hnames : t.HasValidNames := by
    refine ⟨hown, ?_⟩
    rintro place hplace sheet hsheet
    obtain rfl := Option.some.inj hplace
    simp only [List.mem_cons, List.not_mem_nil, or_false] at hsheet
    rcases hsheet with rfl | rfl
    · exact hown
    · exact hrates
  have hbody : Text.isAllBlank (body formula) = false := by decide +kernel
  have hsuccess : (t.convert formula).success = true := by decide +kernel
  have houtput : (t.convert formula).output =
      "\"it's\" & (\"a\"\"b\") & $Price & SUM(Rates.Rate) & 'K\"'!B2".toList := by decide +kernel
  exact ⟨hnames, hbody, hsuccess, houtput, convert_strings hnames hbody hsuccess⟩

end Converter

end ColumnFormula
