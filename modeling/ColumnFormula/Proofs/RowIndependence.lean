import ColumnFormula.Proofs.TokenPasses

namespace ColumnFormula

/-- A remark on where the formula stands, or on a function that is not supported. -/
def Diagnostic.isCircumstantial : Diagnostic → Bool
  | otherRow _ _ _ | unsupportedFunction _ => true
  | _ => false

@[simp] theorem Diagnostic.isCircumstantial_otherRow (reference : Text) (row own : Nat) :
    (otherRow reference row own).isCircumstantial = true := rfl

/-- A warning of the form `Reference '…' points at row …` or `Unsupported function …`. -/
def IsCircumstantial (w : Text) : Prop :=
  (∃ reference rest, w = "Reference '".toList ++ reference ++ "' points at row ".toList ++ rest) ∨
    "Unsupported function ".toList <+: w

theorem exists_eq_append_iff {front middle w : Text} :
    (∃ reference rest, w = front ++ reference ++ middle ++ rest) ↔
      front <+: w ∧ middle <:+: w.drop front.length := by
  constructor
  · rintro ⟨reference, rest, rfl⟩
    simp only [List.append_assoc, List.drop_left]
    exact ⟨List.prefix_append _ _, reference, rest, by simp⟩
  · rintro ⟨⟨back, rfl⟩, reference, rest, heq⟩
    rw [List.drop_left] at heq
    exact ⟨reference, rest, by simp [← heq]⟩

instance (w : Text) : Decidable (IsCircumstantial w) :=
  decidable_of_iff _ (or_congr_left exists_eq_append_iff.symm)

theorem not_isCircumstantial {opening w : Text} (h : opening <+: w)
    (hreference : ¬ ("Reference '".toList <+: opening ∨ opening <+: "Reference '".toList))
    (hfunction : ¬ ("Unsupported function ".toList <+: opening ∨
      opening <+: "Unsupported function ".toList)) : ¬ IsCircumstantial w := by
  rintro (⟨reference, rest, rfl⟩ | hprefix)
  · apply hreference
    refine List.prefix_or_prefix_of_prefix ?_ h
    simp only [List.append_assoc]
    exact List.prefix_append _ _
  · exact hfunction (List.prefix_or_prefix_of_prefix hprefix h)

theorem Diagnostic.isCircumstantial_message_iff (d : Diagnostic) :
    IsCircumstantial d.message ↔ d.isCircumstantial := by
  cases d with
  | otherRow reference row own =>
      refine iff_of_true (.inl ⟨reference, [Text.ofNat row, " from a formula in row ".toList,
        Text.ofNat own, "; converted to the current row's value".toList].flatten, ?_⟩) rfl
      rw [List.append_assoc, List.append_assoc]
      rfl
  | unsupportedFunction name =>
      have hopening : "Unsupported function ".toList <+: "Unsupported function '".toList := by
        decide +kernel
      exact iff_of_true (.inr (hopening.trans (List.prefix_append _ _))) rfl
  | _ =>
      refine iff_of_false ?_ Bool.false_ne_true
      refine not_isCircumstantial (List.prefix_append _ _) ?_ ?_ <;> decide +kernel

theorem filter_addWarning (p : Text → Bool) (warnings : List Text) (w : Text) :
    (addWarning warnings w).filter p =
      if p w then addWarning (warnings.filter p) w else warnings.filter p := by
  unfold addWarning
  by_cases hw : w ∈ warnings <;> cases hp : p w <;> simp [hw, hp]

/-- Warnings that are left out do not decide about the others. -/
theorem filter_foldl_addWarning (p : Text → Bool) (warnings added : List Text) :
    (added.foldl addWarning warnings).filter p =
      (added.filter p).foldl addWarning (warnings.filter p) := by
  induction added generalizing warnings with
  | nil => rfl
  | cons w added ih =>
      rw [List.foldl_cons, ih, filter_addWarning]
      cases hp : p w with
      | true => simp [hp]
      | false => simp [hp]

theorem filter_eraseDups (p : Text → Bool) (warnings : List Text) :
    warnings.eraseDups.filter p = (warnings.filter p).eraseDups := by
  rw [← foldl_addWarning_nil, filter_foldl_addWarning, List.filter_nil, foldl_addWarning_nil]

/-- Replacements with the same text, and the same remarks but for circumstantial ones. -/
structure Replacement.Agrees (r r' : Replacement) : Prop where
  text_eq : r.text = r'.text
  remarks_eq : r.diagnostics.filter (!·.isCircumstantial) =
    r'.diagnostics.filter (!·.isCircumstantial)

theorem Replacement.Agrees.refl (r : Replacement) : r.Agrees r := ⟨rfl, rfl⟩

namespace Converter

/-- The converter with or without warnings about functions. -/
def withFunctionWarnings (w : Bool) (t : Converter) : Converter :=
  { t with warnUnknownFunctions := w }

variable (t : Converter) (w w' : Bool) (row row' : Option Nat)

@[simp] theorem withFunctionWarnings_mapping : (t.withFunctionWarnings w).mapping = t.mapping := rfl

@[simp] theorem withFunctionWarnings_firstDataRow :
    (t.withFunctionWarnings w).firstDataRow = t.firstDataRow := rfl

@[simp] theorem withFunctionWarnings_target (sheet : Option Text) :
    (t.withFunctionWarnings w).target sheet = t.target sheet := rfl

theorem ownCell_agrees (token : Token) :
    ((t.withFunctionWarnings w).ownCell row token).Agrees
      ((t.withFunctionWarnings w').ownCell row' token) := by
  simp only [ownCell, withFunctionWarnings_mapping, withFunctionWarnings_firstDataRow]
  split
  · exact .refl _
  · split
    · exact .refl _
    · split
      · exact .refl _
      · -- Only a relative cell of the own sheet looks at the row of the formula.
        refine ⟨rfl, ?_⟩
        simp [List.filter_map, Function.comp_def]

theorem cell_agrees (sheet : Option Text) (token : Token) :
    ((t.withFunctionWarnings w).cell row sheet token).Agrees
      ((t.withFunctionWarnings w').cell row' sheet token) := by
  simp only [cell, withFunctionWarnings_target]
  split
  · exact t.ownCell_agrees w w' row row' token
  · exact .refl _
  · exact .refl _

theorem function_agrees (token : Token) :
    ((t.withFunctionWarnings w).function token).Agrees
      ((t.withFunctionWarnings w').function token) := by
  refine ⟨by rw [function_text, function_text], ?_⟩
  have hnone : ∀ t : Converter,
      (t.function token).diagnostics.filter (!·.isCircumstantial) = [] := by
    intro t
    rw [function]
    split <;> rfl
  rw [hnone, hnone]

theorem replace_agrees (token : Token) :
    ((t.withFunctionWarnings w).replace row token).Agrees
      ((t.withFunctionWarnings w').replace row' token) := by
  unfold replace
  split
  · exact .refl _
  · exact t.cell_agrees w w' row row' _ token
  · exact t.function_agrees w w' token
  all_goals exact .refl _

theorem replaceAll_withFunctionWarnings (tokens : List Token) :
    (t.withFunctionWarnings w).replaceAll row tokens =
      (t.withFunctionWarnings w').replaceAll row' tokens := by
  simp only [replaceAll, (t.replace_agrees w w' row row' _).text_eq]

theorem filter_diagnose (tokens : List Token) :
    ((t.withFunctionWarnings w).diagnose row tokens).filter (!·.isCircumstantial) =
      ((t.withFunctionWarnings w').diagnose row' tokens).filter (!·.isCircumstantial) := by
  simp only [diagnose, List.filter_flatMap, (t.replace_agrees w w' row row' _).remarks_eq]

theorem filter_messages (diagnostics : List Diagnostic) :
    (diagnostics.map Diagnostic.message).eraseDups.filter (¬ IsCircumstantial ·) =
      ((diagnostics.filter (!·.isCircumstantial)).map Diagnostic.message).eraseDups := by
  rw [filter_eraseDups, List.filter_map]
  simp only [Function.comp_def, Diagnostic.isCircumstantial_message_iff, Bool.not_eq_true,
    Bool.decide_eq_false]

/-- In any row, with or without warnings about functions, a formula is converted to the same text,
and with the same warnings but for those about its row and about unsupported functions. -/
theorem convert_withFunctionWarnings (formula : Text) :
    let c := (t.withFunctionWarnings w).convert formula row
    let c' := (t.withFunctionWarnings w').convert formula row'
    c.success = c'.success ∧ c.output = c'.output ∧
      c.warnings.filter (¬ IsCircumstantial ·) = c'.warnings.filter (¬ IsCircumstantial ·) := by
  intro c c'
  cases hbody : Text.isAllBlank (body formula) with
  | true => simp [c, c', convert, hbody]
  | false =>
      cases htokens : Token.tokenize (body formula) with
      | error e => simp [c, c', convert, hbody, htokens]
      | ok tokens =>
          simp only [c, c', convert_of_tokenize hbody htokens, Conversion.succeeded,
            filter_messages]
          rw [t.replaceAll_withFunctionWarnings w w' row row', t.filter_diagnose w w' row row']
          exact ⟨trivial, rfl, rfl⟩

end Converter

end ColumnFormula
