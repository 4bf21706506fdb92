import ColumnFormula.Converter
import ColumnFormula.Proofs.ReferenceTokens

/-!
What becomes of each token of a formula. `Rewrites` says which references have a column form, and
what it is; every other reference stays and is named in a warning.
-/

namespace ColumnFormula

/-- The token is a cell or a range. -/
def Token.IsReference (token : Token) : Prop :=
  (∃ sheet, token.kind = .cell sheet) ∨ ∃ sheet, token.kind = .range sheet

instance (token : Token) : Decidable token.IsReference :=
  match hkind : token.kind with
  | .cell sheet => isTrue (.inl ⟨sheet, hkind⟩)
  | .range sheet => isTrue (.inr ⟨sheet, hkind⟩)
  | .blank | .string | .number | .boolean | .errorLiteral | .function | .name | .operator
  | .openParen | .closeParen | .comma | .other => isFalse (by simp [Token.IsReference, hkind])

/-- A function name without its mark, if it has one. -/
def Function.LosesMark (name name' : Text) : Prop :=
  name' = name ∨ ∃ mark ∈ Function.futureMarks, ∃ written,
    Text.sameIgnoringCase mark written ∧ name = written ++ name'

/-- A token and what it becomes, the texts of references apart. -/
structure Token.Matches (old new : Token) : Prop where
  kind_eq : new.kind = old.kind
  function : old.kind = .function → Function.LosesMark old.text new.text
  other : ¬ old.IsReference → old.kind ≠ .function → new.text = old.text

def Diagnostic.subject : Diagnostic → Text
  | unknownSheet _ reference => reference
  | cellOfOtherSheet reference => reference
  | invalidReference reference => reference
  | severalColumns range => range
  | unknownColumn _ reference => reference
  | rowBoundsDropped range _ => range
  | headerRow reference => reference
  | fixedRow reference _ => reference
  | otherRow reference _ _ => reference
  | unsupportedFunction function => function
  | unknownName name => name
  | errorLiteral text => text

namespace Converter

/-- A reference without a sheet, or with the name of the own one, is to the own sheet. -/
def IsOwn (t : Converter) : Option Text → Prop
  | none => True
  | some name => ∃ place, t.place = some place ∧ Text.sameIgnoringCase place.sheet name

/-- The mapping of the sheet that a reference is to. -/
inductive ResolvesTo (t : Converter) : Option Text → Mapping → Prop
  | own {sheet : Option Text} (isOwn : t.IsOwn sheet) : t.ResolvesTo sheet t.mapping
  | other {name : Text} {place : Place} {m : Mapping} (among : t.place = some place)
      (notOwn : Text.sameIgnoringCase place.sheet name = false)
      (found : place.workbook.get? name = some m) : t.ResolvesTo (some name) m

/-- The column form of a reference. -/
inductive Rewrites (t : Converter) (token : Token) : Text → Prop
  | currentRow {sheet : Option Text} {bound : Bound} {identifier : Text}
      (kind : token.kind = .cell sheet) (isOwn : t.IsOwn sheet)
      (parses : Reference.parse? token.referenceText = some (.single bound))
      (relative : bound.rowAbsolute = false)
      (known : t.mapping.get? bound.column = some identifier) :
      t.Rewrites token ('$' :: identifier)
  | fixedRow {sheet : Option Text} {bound : Bound} {row : Nat} {identifier : Text}
      (kind : token.kind = .cell sheet) (isOwn : t.IsOwn sheet)
      (parses : Reference.parse? token.referenceText = some (.single bound))
      (absolute : bound.rowAbsolute) (hasRow : bound.row = some row) (isData : t.firstDataRow ≤ row)
      (known : t.mapping.get? bound.column = some identifier) :
      t.Rewrites token (identifier ++ '[' :: Text.ofNat (row - t.firstDataRow) ++ [']'])
  | wholeColumn {sheet : Option Text} {m : Mapping} {first last : Bound} {identifier : Text}
      (kind : token.kind = .range sheet) (resolves : t.ResolvesTo sheet m)
      (parses : Reference.parse? token.referenceText = some (.range first last))
      (sameColumn : last.column = first.column) (known : m.get? first.column = some identifier) :
      t.Rewrites token (m.table ++ '.' :: identifier)

/-- What a token of a formula has become, and the warnings of its conversion. -/
structure Becomes (t : Converter) (warnings : List Text) (old new : Token) : Prop
    extends old.Matches new where
  rewritten : ∀ text, t.Rewrites old text → new.text = text
  kept : old.IsReference → (∀ text, ¬ t.Rewrites old text) →
    new.text = old.text ∧ ∃ w ∈ warnings, old.referenceText <:+: w

end Converter

theorem Diagnostic.subject_isInfix (d : Diagnostic) : d.subject <:+: d.message := by
  cases d <;> exact List.infix_of_mem_flatten (by simp [subject])

namespace Converter

theorem mem_diagnose {t : Converter} {row : Option Nat} {tokens : List Token} {token : Token}
    {d : Diagnostic} (htoken : token ∈ tokens) (hd : d ∈ (t.replace row token).diagnostics) :
    d ∈ t.diagnose row tokens := by
  rw [diagnose, List.mem_flatMap]
  refine ⟨token, ?_, hd⟩
  cases hrange : isRange token with
  | true => exact List.mem_append_left _ (List.mem_filter.mpr ⟨htoken, hrange⟩)
  | false => exact List.mem_append_right _ (List.mem_filter.mpr ⟨htoken, by simp [hrange]⟩)

theorem exists_warning_of_keep {t : Converter} {row : Option Nat} {tokens : List Token}
    {token : Token} {d : Diagnostic} (htoken : token ∈ tokens)
    (hkeep : t.replace row token = keep token d) (hsubject : token.referenceText <:+: d.subject) :
    ∃ w ∈ ((t.diagnose row tokens).map Diagnostic.message).eraseDups,
      token.referenceText <:+: w := by
  have hd : d ∈ t.diagnose row tokens := mem_diagnose htoken (by simp [hkeep, keep])
  refine ⟨d.message, ?_, hsubject.trans d.subject_isInfix⟩
  exact List.mem_eraseDups.mpr (List.mem_map_of_mem hd)

theorem target_eq_own_iff {t : Converter} {sheet : Option Text} :
    t.target sheet = .own ↔ t.IsOwn sheet := by
  cases sheet with
  | none => simp [target, IsOwn]
  | some name =>
      cases hplace : t.place with
      | none => simp [target, IsOwn, hplace]
      | some place =>
          cases hsame : Text.sameIgnoringCase place.sheet name with
          | true => simp [target, IsOwn, hplace, hsame]
          | false =>
              cases hget : place.workbook.get? name <;> simp [target, IsOwn, hplace, hsame, hget]

theorem resolvesTo_of_target {t : Converter} {sheet : Option Text} {m : Mapping}
    (h : t.target sheet = .other m) : t.ResolvesTo sheet m := by
  cases sheet with
  | none => simp [target] at h
  | some name =>
      cases hplace : t.place with
      | none => simp [target, hplace] at h
      | some place =>
          cases hsame : Text.sameIgnoringCase place.sheet name with
          | true => simp [target, hplace, hsame] at h
          | false =>
              cases hget : place.workbook.get? name with
              | none => simp [target, hplace, hsame, hget] at h
              | some m' =>
                  obtain rfl : m' = m := by simpa [target, hplace, hsame, hget] using h
                  exact .other hplace hsame hget

theorem range_of_resolvesTo {t : Converter} {sheet : Option Text} {m : Mapping}
    (h : t.ResolvesTo sheet m) (token : Token) : t.range sheet token = rangeIn m token := by
  cases h with
  | own hown => rw [range, target_eq_own_iff.mpr hown]
  | other hplace hsame hget => simp [range, target, hplace, hsame, hget]

theorem rangeIn_text {m : Mapping} {token : Token} {first last : Bound} {identifier : Text}
    (hparse : Reference.parse? token.referenceText = some (.range first last))
    (hcolumn : last.column = first.column) (hget : m.get? first.column = some identifier) :
    (rangeIn m token).text = m.table ++ '.' :: identifier := by
  change m.get? (Reference.range first last).first.column = some identifier at hget
  simp only [rangeIn, hparse, Reference.isSingleColumn, hcolumn, beq_self_eq_true, if_true, hget]
  split <;> rfl

theorem replace_ownCell {t : Converter} {token : Token} {sheet : Option Text}
    (hkind : token.kind = .cell sheet) (hown : t.IsOwn sheet) (row : Option Nat) :
    t.replace row token = t.ownCell row token := by
  simp only [replace, hkind, cell, target_eq_own_iff.mpr hown]

theorem replace_rangeIn {t : Converter} {token : Token} {sheet : Option Text} {m : Mapping}
    (hkind : token.kind = .range sheet) (hresolves : t.ResolvesTo sheet m) (row : Option Nat) :
    t.replace row token = rangeIn m token := by
  simp only [replace, hkind, range_of_resolvesTo hresolves]

theorem replace_of_rewrites {t : Converter} {token : Token} {text : Text}
    (h : t.Rewrites token text) (row : Option Nat) : (t.replace row token).text = text := by
  cases h with
  | currentRow hkind hown hparses hrelative hknown =>
      simp [replace_ownCell hkind hown, ownCell, hparses, Reference.first, hknown, hrelative]
  | fixedRow hkind hown hparses habsolute hrow hdata hknown =>
      simp [replace_ownCell hkind hown, ownCell, hparses, Reference.first, hknown, habsolute, hrow,
        Nat.not_lt.mpr hdata]
  | wholeColumn hkind hresolves hparses hcolumn hknown =>
      rw [replace_rangeIn hkind hresolves]
      exact rangeIn_text hparses hcolumn hknown

/-- The token stays as it is, with a remark about its reference. -/
def Keeps (token : Token) (r : Replacement) : Prop :=
  ∃ d, r = keep token d ∧ token.referenceText <:+: d.subject

theorem keeps_of_text {token : Token} {d : Diagnostic} (h : d.subject = token.text) :
    Keeps token (keep token d) :=
  ⟨d, rfl, h ▸ token.referenceText_isSuffix.isInfix⟩

theorem keeps_of_referenceText {token : Token} {d : Diagnostic}
    (h : d.subject = token.referenceText) : Keeps token (keep token d) :=
  ⟨d, rfl, h ▸ List.infix_rfl⟩

theorem ownCell_cases {t : Converter} {token : Token} {sheet : Option Text} {rest : Text}
    (h : Lexeme.Reads token.kind token.text rest) (hkind : token.kind = .cell sheet)
    (hown : t.IsOwn sheet) (row : Option Nat) :
    t.Rewrites token (t.ownCell row token).text ∨ Keeps token (t.ownCell row token) := by
  cases hparse : Reference.parse? token.referenceText with
  | none =>
      right
      simp only [ownCell, hparse]
      exact keeps_of_referenceText rfl
  | some r =>
      obtain ⟨bound, cellRow, rfl, hrow⟩ :=
        Reference.single_of_parse? (Token.isCell_referenceText h hkind) hparse
      cases hget : t.mapping.get? bound.column with
      | none =>
          right
          simp only [ownCell, hparse, Reference.first, hget]
          exact keeps_of_text rfl
      | some identifier =>
          cases habsolute : bound.rowAbsolute with
          | false =>
              left
              simp only [ownCell, hparse, Reference.first, hget, habsolute]
              exact .currentRow hkind hown hparse habsolute hget
          | true =>
              by_cases hdata : cellRow < t.firstDataRow
              · right
                simp only [ownCell, hparse, Reference.first, hget, habsolute, hrow,
                  Option.getD_some, if_pos hdata, if_true]
                exact keeps_of_text rfl
              · left
                simp only [ownCell, hparse, Reference.first, hget, habsolute, hrow,
                  Option.getD_some, if_neg hdata, if_true]
                exact .fixedRow hkind hown hparse habsolute hrow (Nat.not_lt.mp hdata) hget

theorem cell_cases {t : Converter} {token : Token} {sheet : Option Text} {rest : Text}
    (h : Lexeme.Reads token.kind token.text rest) (hkind : token.kind = .cell sheet)
    (row : Option Nat) :
    t.Rewrites token (t.cell row sheet token).text ∨ Keeps token (t.cell row sheet token) := by
  cases htarget : t.target sheet with
  | own =>
      simp only [cell, htarget]
      exact ownCell_cases h hkind (target_eq_own_iff.mp htarget) row
  | other m =>
      right
      simp only [cell, htarget]
      exact keeps_of_text rfl
  | unknown =>
      right
      simp only [cell, htarget]
      exact keeps_of_text rfl

theorem rangeIn_cases {t : Converter} {token : Token} {sheet : Option Text} {rest : Text}
    {m : Mapping} (h : Lexeme.Reads token.kind token.text rest) (hkind : token.kind = .range sheet)
    (hresolves : t.ResolvesTo sheet m) :
    t.Rewrites token (rangeIn m token).text ∨ Keeps token (rangeIn m token) := by
  cases hparse : Reference.parse? token.referenceText with
  | none =>
      right
      simp only [rangeIn, hparse]
      exact keeps_of_referenceText rfl
  | some r =>
      obtain ⟨left, right, hleft, hright, htext⟩ := Token.isBound_referenceText h hkind
      obtain ⟨first, last, -, -, -, rfl⟩ :=
        (Reference.parse?_range_eq_some_iff hleft hright).mp (htext ▸ hparse)
      by_cases hcolumn : last.column = first.column
      · cases hget : m.get? first.column with
        | none =>
            right
            simp only [rangeIn, hparse, Reference.isSingleColumn, Reference.first, hcolumn, hget,
              beq_self_eq_true, if_true]
            exact keeps_of_text rfl
        | some identifier =>
            left
            rw [rangeIn_text hparse hcolumn hget]
            exact .wholeColumn hkind hresolves hparse hcolumn hget
      · right
        simp only [rangeIn, hparse, Reference.isSingleColumn, beq_false_of_ne hcolumn]
        exact keeps_of_text rfl

theorem range_cases {t : Converter} {token : Token} {sheet : Option Text} {rest : Text}
    (h : Lexeme.Reads token.kind token.text rest) (hkind : token.kind = .range sheet) :
    t.Rewrites token (t.range sheet token).text ∨ Keeps token (t.range sheet token) := by
  cases htarget : t.target sheet with
  | own =>
      simp only [range, htarget]
      exact rangeIn_cases h hkind (.own (target_eq_own_iff.mp htarget))
  | other m =>
      simp only [range, htarget]
      exact rangeIn_cases h hkind (resolvesTo_of_target htarget)
  | unknown =>
      right
      simp only [range, htarget]
      exact keeps_of_text rfl

theorem replace_reference {t : Converter} {token : Token} {rest : Text}
    (h : Lexeme.Reads token.kind token.text rest) (href : token.IsReference) (row : Option Nat) :
    t.Rewrites token (t.replace row token).text ∨ Keeps token (t.replace row token) := by
  rcases href with ⟨sheet, hkind⟩ | ⟨sheet, hkind⟩
  · simp only [replace, hkind]
    exact cell_cases h hkind row
  · simp only [replace, hkind]
    exact range_cases h hkind

theorem exists_text_eq_append {token : Token} {rest : Text}
    (h : Lexeme.Reads token.kind token.text rest) (href : token.IsReference) :
    ∃ front c, token.text = front ++ [c] ∧ Lexeme.isWordChar c := by
  have hbound : ∀ front word, Lexeme.isBound word → front ++ word <:+ token.text →
      ∃ front c, token.text = front ++ [c] ∧ Lexeme.isWordChar c := by
    rintro front word hword ⟨head, heq⟩
    have hisWord := Lexeme.isWord_of_isBound hword
    have hne : word ≠ [] := by
      rintro rfl
      contradiction
    obtain ⟨init, c, rfl⟩ := (List.eq_nil_or_concat' word).resolve_left hne
    refine ⟨head ++ front ++ init, c, by simp [← heq], ?_⟩
    exact Lexeme.isWordChar_of_isWord hisWord c (by simp)
  rcases href with ⟨sheet, hkind⟩ | ⟨sheet, hkind⟩
  · have hcell := Token.isCell_referenceText h hkind
    exact hbound [] _ (Lexeme.isBound_of_isCell hcell) token.referenceText_isSuffix
  · obtain ⟨left, right, -, hright, heq⟩ := Token.isBound_referenceText h hkind
    apply hbound (left ++ [':']) right hright
    rw [List.append_assoc, List.singleton_append, ← heq]
    exact token.referenceText_isSuffix

theorem exists_rewrites_of_text_ne {t : Converter} {token : Token} {rest : Text} {row : Option Nat}
    (hreads : Lexeme.Reads token.kind token.text rest) (href : token.IsReference)
    (h : (t.replace row token).text ≠ token.text) : ∃ text, t.Rewrites token text := by
  rcases replace_reference hreads href row with hrewrites | ⟨d, hkeep, -⟩
  · exact ⟨_, hrewrites⟩
  · exact absurd (congrArg Replacement.text hkeep) h

theorem exists_rewrites_of_replace_ne {t : Converter} {formula : Text} {tokens : List Token}
    (row : Option Nat) (htokens : Token.tokenize formula = .ok tokens)
    (h : ∀ token ∈ tokens, token.IsReference → (t.replace row token).text ≠ token.text) :
    ∀ token ∈ tokens, token.IsReference → ∃ text, t.Rewrites token text := by
  intro token htoken href
  obtain ⟨-, hlexed, -⟩ := Token.tokenize_eq_ok_iff.mp htokens
  obtain ⟨rest, hreads⟩ := hlexed.reads token htoken
  exact exists_rewrites_of_text_ne hreads href (h token htoken href)

theorem function_text (t : Converter) (token : Token) :
    (t.function token).text = Function.withoutMark token.text := by
  rw [function]
  split <;> rfl

theorem function_losesMark (t : Converter) (token : Token) :
    Function.LosesMark token.text (t.function token).text := by
  rw [function_text, Function.withoutMark]
  split
  · rename_i mark hfind
    have hsame := List.find?_some hfind
    right
    exact ⟨mark, List.mem_of_find?_eq_some hfind, token.text.take mark.length, hsame,
      (List.take_append_drop mark.length token.text).symm⟩
  · exact .inl rfl

theorem replace_other {t : Converter} {row : Option Nat} {token : Token}
    (href : ¬ token.IsReference) (hfunction : token.kind ≠ .function) :
    (t.replace row token).text = token.text := by
  rw [replace]
  split
  · rename_i sheet hkind
    exact absurd (.inr ⟨sheet, hkind⟩) href
  · rename_i sheet hkind
    exact absurd (.inl ⟨sheet, hkind⟩) href
  · contradiction
  · rfl
  · rfl
  · rfl

theorem replace_matches (t : Converter) (row : Option Nat) (token : Token) :
    token.Matches { token with text := (t.replace row token).text } where
  kind_eq := rfl
  function := by
    intro hkind
    simp only [replace, hkind]
    exact t.function_losesMark token
  other := replace_other

theorem replace_becomes (t : Converter) (row : Option Nat) {tokens : List Token} {token : Token}
    {rest : Text} (htoken : token ∈ tokens) (h : Lexeme.Reads token.kind token.text rest) :
    t.Becomes ((t.diagnose row tokens).map Diagnostic.message).eraseDups token
      { token with text := (t.replace row token).text } where
  toMatches := t.replace_matches row token
  rewritten := fun _ hrewrites => replace_of_rewrites hrewrites row
  kept := by
    intro href hnone
    rcases replace_reference h href row with hrewrites | ⟨d, hkeep, hsubject⟩
    · exact absurd hrewrites (hnone _)
    · exact ⟨congrArg Replacement.text hkeep, exists_warning_of_keep htoken hkeep hsubject⟩

theorem convert_of_tokenize {t : Converter} {formula : Text} {tokens : List Token}
    (hbody : Text.isAllBlank (body formula) = false)
    (htokens : Token.tokenize (body formula) = .ok tokens) (row : Option Nat) :
    t.convert formula row = .succeeded formula (Token.spaced (t.replaceAll row tokens))
      ((t.diagnose row tokens).map Diagnostic.message).eraseDups := by
  simp [convert, hbody, htokens]

theorem warnings_eq_nil_iff {t : Converter} {row : Option Nat} {formula : Text}
    {tokens : List Token} (htokens : Token.tokenize (body formula) = .ok tokens) :
    (t.convert formula row).warnings = [] ↔
      ∀ token ∈ tokens, (t.replace row token).diagnostics = [] := by
  cases hbody : Text.isAllBlank (body formula) with
  | true =>
      obtain ⟨hrender, hlexed, -⟩ := Token.tokenize_eq_ok_iff.mp htokens
      have hkinds := hlexed.kind_eq_blank (hrender.symm ▸ hbody)
      have hnone : ∀ token ∈ tokens, (t.replace row token).diagnostics = [] := by
        intro token htoken
        simp only [replace, hkinds token htoken]
      simpa [convert, hbody, Conversion.succeeded] using hnone
  | false =>
      rw [convert_of_tokenize hbody htokens]
      change ((t.diagnose row tokens).map Diagnostic.message).eraseDups = [] ↔ _
      constructor
      · intro h token htoken
        rw [List.eq_nil_iff_forall_not_mem] at h ⊢
        intro d hd
        exact h d.message (List.mem_eraseDups.mpr (List.mem_map_of_mem (mem_diagnose htoken hd)))
      · intro h
        have hnone : t.diagnose row tokens = [] := by
          rw [diagnose, List.flatMap_eq_nil_iff]
          intro token htoken
          refine h token ?_
          rcases List.mem_append.mp htoken with htoken | htoken
          · exact (List.mem_filter.mp htoken).1
          · exact (List.mem_filter.mp htoken).1
        rw [hnone]
        rfl

theorem convert_formula (t : Converter) (formula : Text) (row : Option Nat) :
    (t.convert formula row).formula = formula := by
  rw [convert]
  split
  · rfl
  · split <;> rfl

theorem of_convert_success {t : Converter} {formula : Text} {row : Option Nat}
    (h : (t.convert formula row).success = true) :
    (Text.isAllBlank (body formula) = true ∧ (t.convert formula row).output = []) ∨
      ∃ tokens, Token.tokenize (body formula) = .ok tokens ∧
        (t.convert formula row).output = Token.spaced (t.replaceAll row tokens) := by
  cases hbody : Text.isAllBlank (body formula) with
  | true => exact .inl ⟨rfl, by simp [convert, hbody, Conversion.succeeded]⟩
  | false =>
      right
      cases htokens : Token.tokenize (body formula) with
      | error e => simp [convert, hbody, htokens, Conversion.failed] at h
      | ok tokens =>
          refine ⟨tokens, rfl, ?_⟩
          rw [convert_of_tokenize hbody htokens]
          rfl

/-- A formula that has tokens is converted token by token, and the warnings name every reference
that is kept. -/
theorem convert_becomes (t : Converter) (row : Option Nat) {formula : Text} {tokens : List Token}
    (hbody : Text.isAllBlank (body formula) = false)
    (htokens : Token.tokenize (body formula) = .ok tokens) :
    ∃ replaced, (t.convert formula row).success = true ∧
      (t.convert formula row).output = Token.spaced replaced ∧
      List.Forall₂ (t.Becomes (t.convert formula row).warnings) tokens replaced := by
  obtain ⟨-, hlexed, -⟩ := Token.tokenize_eq_ok_iff.mp htokens
  rw [convert_of_tokenize hbody htokens]
  refine ⟨t.replaceAll row tokens, rfl, rfl, ?_⟩
  rw [replaceAll, List.forall₂_map_right_iff, List.forall₂_same]
  intro token htoken
  obtain ⟨rest, hreads⟩ := hlexed.reads token htoken
  exact t.replace_becomes row htoken hreads

theorem convert_becomes_invoice :
    let t : Converter :=
      { mapping := .ofIdentifiers "Orders".toList ["Product".toList, "Price".toList]
        firstDataRow := 2
        place := some ⟨"Orders".toList,
          ⟨[("Rates".toList, .ofIdentifiers "Rates".toList ["Rate".toList])]⟩⟩ }
    let formula := "=_xlfn.MAX(rates!A2:A9)*orders!B$4+A3-C2".toList
    let tokens : List Token :=
      [⟨.function, "_xlfn.MAX".toList, 0⟩, ⟨.openParen, "(".toList, 9⟩,
        ⟨.range (some "rates".toList), "rates!A2:A9".toList, 10⟩, ⟨.closeParen, ")".toList, 21⟩,
        ⟨.operator, "*".toList, 22⟩, ⟨.cell (some "orders".toList), "orders!B$4".toList, 23⟩,
        ⟨.operator, "+".toList, 33⟩, ⟨.cell none, "A3".toList, 34⟩, ⟨.operator, "-".toList, 36⟩,
        ⟨.cell none, "C2".toList, 37⟩]
    Text.isAllBlank (body formula) = false ∧ Token.tokenize (body formula) = .ok tokens ∧
      (t.convert formula (some 2)).output =
        "MAX(Rates.Rate) * Price[2] + $Product - C2".toList ∧
      ∃ replaced, (t.convert formula (some 2)).success = true ∧
        (t.convert formula (some 2)).output = Token.spaced replaced ∧
        List.Forall₂ (t.Becomes (t.convert formula (some 2)).warnings) tokens replaced := by
  intro t formula tokens
  have hbody : Text.isAllBlank (body formula) = false := by decide +kernel
  have htokens : Token.tokenize (body formula) = .ok tokens := by decide +kernel
  have houtput : (t.convert formula (some 2)).output =
      "MAX(Rates.Rate) * Price[2] + $Product - C2".toList := by decide +kernel
  exact ⟨hbody, htokens, houtput, convert_becomes t (some 2) hbody htokens⟩

end Converter

end ColumnFormula
