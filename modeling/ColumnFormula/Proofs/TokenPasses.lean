import ColumnFormula.Proofs.OpenQuotes

namespace ColumnFormula

/-- Warnings with one more behind them, unless it is among them. -/
def addWarning (warnings : List Text) (w : Text) : List Text :=
  if w ∈ warnings then warnings else warnings ++ [w]

/-- The tokens that a pass has gone over, and the warnings so far. -/
structure Draft where
  tokens : List Token
  warnings : List Text

theorem addWarning_nodup {warnings : List Text} (h : warnings.Nodup) (w : Text) :
    (addWarning warnings w).Nodup := by
  rw [addWarning]
  split
  · exact h
  · rename_i hw
    exact List.nodup_append_comm.mp (List.nodup_cons.mpr ⟨hw, h⟩)

theorem foldl_addWarning_nodup {warnings : List Text} (h : warnings.Nodup) (added : List Text) :
    (added.foldl addWarning warnings).Nodup := by
  induction added generalizing warnings with
  | nil => exact h
  | cons w added ih => exact ih (addWarning_nodup h w)

/-- Warnings that are added one by one are the first ones of their texts. -/
theorem foldl_addWarning (warnings added : List Text) :
    added.foldl addWarning warnings = warnings ++ (added.removeAll warnings).eraseDups := by
  induction added generalizing warnings with
  | nil => simp
  | cons w added ih =>
      rw [List.foldl_cons, ih, addWarning]
      by_cases hw : w ∈ warnings
      · rw [if_pos hw, List.cons_removeAll]
        simp [hw]
      · -- What is left of the others has to differ from `w` too.
        have hremove : added.removeAll (warnings ++ [w]) =
            (added.removeAll warnings).filter (!· == w) := by
          simp [List.removeAll, List.filter_filter, ← Bool.beq_eq_decide_eq, Bool.and_comm]
        rw [if_neg hw, hremove, List.cons_removeAll]
        simp [hw, List.eraseDups_cons]

theorem foldl_addWarning_nil (added : List Text) :
    added.foldl addWarning [] = added.eraseDups := by
  simp [foldl_addWarning, List.removeAll]

theorem eraseDups_nodup (warnings : List Text) : warnings.eraseDups.Nodup := by
  rw [← foldl_addWarning_nil]
  exact foldl_addWarning_nodup List.nodup_nil warnings

namespace Converter

def rewritten (t : Converter) (row : Option Nat) (token : Token) : Token :=
  { token with text := (t.replace row token).text }

/-- What there is to say about a token, whatever stands around it. -/
def remarks (t : Converter) (row : Option Nat) (token : Token) : List Text :=
  (t.replace row token).diagnostics.map Diagnostic.message

def visit (t : Converter) (row : Option Nat) (handles : Token → Bool) (d : Draft) (token : Token) :
    Draft :=
  if handles token then
    ⟨d.tokens ++ [t.rewritten row token], (t.remarks row token).foldl addWarning d.warnings⟩
  else ⟨d.tokens ++ [token], d.warnings⟩

/-- A pass over tokens, with the warnings of the passes before it. -/
def pass (t : Converter) (row : Option Nat) (handles : Token → Bool) (warnings : List Text)
    (tokens : List Token) : Draft :=
  tokens.foldl (t.visit row handles) ⟨[], warnings⟩

/-- Ranges first, then the tokens that are left. -/
def twoPasses (t : Converter) (row : Option Nat) (tokens : List Token) : Draft :=
  let ranges := t.pass row isRange [] tokens
  t.pass row (!isRange ·) ranges.warnings ranges.tokens

/-- All tokens as they come. -/
def onePass (t : Converter) (row : Option Nat) (tokens : List Token) : Draft :=
  t.pass row (fun _ => true) [] tokens

/-- The conversion of a formula whose tokens are handled in a given way. -/
def convertBy (process : List Token → Draft) (formula : Text) : Conversion :=
  if Text.isAllBlank (body formula) then .succeeded formula [] []
  else
    match Token.tokenize (body formula) with
    | .error e => .failed formula ("Conversion failed: ".toList ++ e.message)
    | .ok tokens =>
      .succeeded formula (Token.spaced (process tokens).tokens) (process tokens).warnings

variable {t : Converter} {row : Option Nat}

theorem foldl_visit (handles : Token → Bool) (d : Draft) (tokens : List Token) :
    tokens.foldl (t.visit row handles) d =
      ⟨d.tokens ++ tokens.map fun token => if handles token then t.rewritten row token else token,
        ((tokens.filter handles).flatMap (t.remarks row)).foldl addWarning d.warnings⟩ := by
  induction tokens generalizing d with
  | nil => simp
  | cons token tokens ih =>
      rw [List.foldl_cons, ih, visit]
      cases hhandles : handles token with
      | true => simp [hhandles]
      | false => simp [hhandles]

theorem pass_tokens (handles : Token → Bool) (warnings : List Text) (tokens : List Token) :
    (t.pass row handles warnings tokens).tokens =
      tokens.map fun token => if handles token then t.rewritten row token else token := by
  rw [pass, foldl_visit]
  rfl

theorem pass_warnings (handles : Token → Bool) (warnings : List Text) (tokens : List Token) :
    (t.pass row handles warnings tokens).warnings =
      ((tokens.filter handles).flatMap (t.remarks row)).foldl addWarning warnings := by
  rw [pass, foldl_visit]

@[simp] theorem isRange_rewritten (token : Token) :
    isRange (t.rewritten row token) = isRange token := rfl

/-- The second pass comes to the tokens that the first one has not handled as they were. -/
theorem filter_not_isRange_pass (warnings : List Text) (tokens : List Token) :
    (t.pass row isRange warnings tokens).tokens.filter (!isRange ·) =
      tokens.filter (!isRange ·) := by
  rw [pass_tokens]
  induction tokens with
  | nil => rfl
  | cons token tokens ih =>
      cases hrange : isRange token with
      | true => simp [hrange, ih]
      | false => simp [hrange, ih]

theorem twoPasses_tokens (tokens : List Token) :
    (t.twoPasses row tokens).tokens = t.replaceAll row tokens := by
  rw [twoPasses, pass_tokens, pass_tokens, List.map_map, replaceAll]
  apply List.map_congr_left
  intro token _
  cases hrange : isRange token with
  | true =>
      rw [Function.comp_apply, if_pos hrange, isRange_rewritten, hrange]
      rfl
  | false => simp [hrange, rewritten]

theorem twoPasses_warnings (tokens : List Token) :
    (t.twoPasses row tokens).warnings =
      ((tokens.filter isRange ++ tokens.filter (!isRange ·)).flatMap
        (t.remarks row)).eraseDups := by
  rw [twoPasses, pass_warnings, filter_not_isRange_pass, pass_warnings, ← List.foldl_append,
    ← List.flatMap_append, foldl_addWarning_nil]

theorem onePass_tokens (tokens : List Token) :
    (t.onePass row tokens).tokens = t.replaceAll row tokens := by
  simp [onePass, pass_tokens, replaceAll, rewritten]

theorem onePass_warnings (tokens : List Token) :
    (t.onePass row tokens).warnings = (tokens.flatMap (t.remarks row)).eraseDups := by
  rw [onePass, pass_warnings, List.filter_true, foldl_addWarning_nil]

theorem mem_twoPasses_warnings_iff {tokens : List Token} {w : Text} :
    w ∈ (t.twoPasses row tokens).warnings ↔ w ∈ (t.onePass row tokens).warnings := by
  rw [twoPasses_warnings, onePass_warnings, List.mem_eraseDups, List.mem_eraseDups,
    List.mem_flatMap, List.mem_flatMap]
  simp only [(List.filter_append_perm isRange tokens).mem_iff]

theorem diagnose_messages (tokens : List Token) :
    (t.diagnose row tokens).map Diagnostic.message =
      (tokens.filter isRange ++ tokens.filter (!isRange ·)).flatMap (t.remarks row) := by
  rw [diagnose, List.map_flatMap]
  rfl

theorem convert_eq_convertBy (t : Converter) (row : Option Nat) (formula : Text) :
    t.convert formula row = convertBy (t.twoPasses row) formula := by
  have hwarnings : ∀ tokens, (t.twoPasses row tokens).warnings =
      ((t.diagnose row tokens).map Diagnostic.message).eraseDups := by
    intro tokens
    rw [twoPasses_warnings, diagnose_messages]
  rw [convert, convertBy]
  split
  · rfl
  · cases htokens : Token.tokenize (body formula) with
    | error e => rfl
    | ok tokens => simp only [twoPasses_tokens, hwarnings]

theorem convert_warnings {formula : Text} {tokens : List Token}
    (htokens : Token.tokenize (body formula) = .ok tokens) :
    (t.convert formula row).warnings =
      ((tokens.filter isRange ++ tokens.filter (!isRange ·)).flatMap
        (t.remarks row)).eraseDups := by
  cases hbody : Text.isAllBlank (body formula) with
  | true =>
      have hempty : (t.convert formula row).warnings = [] := by
        simp [convert, hbody, Conversion.succeeded]
      have hnone := (warnings_eq_nil_iff htokens).mp hempty
      have hremarks : ∀ token ∈ tokens, t.remarks row token = [] := by
        intro token htoken
        rw [remarks, hnone token htoken, List.map_nil]
      rw [hempty, List.flatMap_eq_nil_iff.mpr]
      · rfl
      · intro token htoken
        exact hremarks token ((List.filter_append_perm isRange tokens).mem_iff.mp htoken)
  | false =>
      rw [convert_of_tokenize hbody htokens, ← diagnose_messages]
      rfl

theorem convertBy_congr {process process' : List Token → Draft}
    (htokens : ∀ tokens, (process tokens).tokens = (process' tokens).tokens)
    (hwarnings : ∀ tokens w, w ∈ (process tokens).warnings ↔ w ∈ (process' tokens).warnings)
    (formula : Text) :
    (convertBy process formula).success = (convertBy process' formula).success ∧
      (convertBy process formula).output = (convertBy process' formula).output ∧
      ∀ w, w ∈ (convertBy process formula).warnings ↔
        w ∈ (convertBy process' formula).warnings := by
  simp only [convertBy]
  split
  · simp
  · split
    · simp
    · rename_i tokens _
      exact ⟨rfl, congrArg Token.spaced (htokens tokens), hwarnings tokens⟩

/-- A conversion that succeeds gives the warnings about ranges and then those about other tokens,
from left to right, none of them twice. With all tokens in one pass, output and warnings would be
the same but for their order. -/
theorem convert_warnings_inOrder {formula : Text} (h : (t.convert formula row).success = true) :
    ∃ tokens, Token.tokenize (body formula) = .ok tokens ∧
      (t.convert formula row).warnings.Nodup ∧
      (t.convert formula row).warnings =
        ((tokens.filter isRange ++ tokens.filter (!isRange ·)).flatMap (t.remarks row)).eraseDups ∧
      t.convert formula row = convertBy (t.twoPasses row) formula ∧
      (convertBy (t.onePass row) formula).success = true ∧
      (convertBy (t.onePass row) formula).output = (t.convert formula row).output ∧
      ∀ w, w ∈ (convertBy (t.onePass row) formula).warnings ↔
        w ∈ (t.convert formula row).warnings := by
  obtain ⟨tokens, htokens⟩ :=
    Token.exists_tokenize_iff.mpr ((t.convert_success_iff formula row).mp h)
  have hnodup : (t.convert formula row).warnings.Nodup := by
    rw [convert_warnings htokens]
    exact eraseDups_nodup _
  have htwo := t.convert_eq_convertBy row formula
  have hsame : ∀ tokens, (t.onePass row tokens).tokens = (t.twoPasses row tokens).tokens := by
    intro tokens
    rw [onePass_tokens, twoPasses_tokens]
  obtain ⟨hsuccess, houtput, hmem⟩ :=
    convertBy_congr hsame (fun _ _ => mem_twoPasses_warnings_iff.symm) formula
  rw [← htwo] at hsuccess houtput hmem
  exact ⟨tokens, htokens, hnodup, convert_warnings htokens, htwo, hsuccess.trans h, houtput, hmem⟩

theorem convert_warnings_inOrder_name :
    let t : Converter := .ofOptions (.ofIdentifiers "Orders".toList ["Product".toList]) {}
    let formula := "=rate*SUM(Z1:Z2)+rate".toList
    let range := "Unknown column 'Z' in reference 'Z1:Z2'".toList
    let name :=
      "Unrecognized name 'rate' kept unchanged (named ranges are not supported)".toList
    (t.convert formula none).success = true ∧
      (t.convert formula none).warnings = [range, name] ∧
      (convertBy (t.onePass none) formula).warnings = [name, range] ∧
      ∃ tokens, Token.tokenize (body formula) = .ok tokens ∧
        (t.convert formula none).warnings.Nodup ∧
        (t.convert formula none).warnings =
          ((tokens.filter isRange ++ tokens.filter (!isRange ·)).flatMap
            (t.remarks none)).eraseDups ∧
        t.convert formula none = convertBy (t.twoPasses none) formula ∧
        (convertBy (t.onePass none) formula).success = true ∧
        (convertBy (t.onePass none) formula).output = (t.convert formula none).output ∧
        ∀ w, w ∈ (convertBy (t.onePass none) formula).warnings ↔
          w ∈ (t.convert formula none).warnings := by
  intro t formula range name
  have hsuccess : (t.convert formula none).success = true := by decide +kernel
  have hwarnings : (t.convert formula none).warnings = [range, name] := by decide +kernel
  have hone : (convertBy (t.onePass none) formula).warnings = [name, range] := by decide +kernel
  exact ⟨hsuccess, hwarnings, hone, convert_warnings_inOrder hsuccess⟩

end Converter

end ColumnFormula
