import ColumnFormula.Token.Lexeme.Basic

namespace ColumnFormula.Lexeme

theorem closeQuote_append {q : Char} {s run rest : Text} (h : closeQuote q s = some (run, rest)) :
    run ++ rest = s := by
  fun_induction closeQuote q s generalizing run rest with
  | case1 => simp at h
  | case2 rest' ih =>
    obtain ⟨r, hr, heq⟩ := Option.map_eq_some_iff.1 h
    cases heq
    simp [ih hr]
  | case3 d rest' hd =>
    cases h
    rfl
  | case4 =>
    cases h
    rfl
  | case5 c rest' hc ih =>
    obtain ⟨r, hr, heq⟩ := Option.map_eq_some_iff.1 h
    cases heq
    simp [ih hr]

theorem exponent_append (s : Text) : (exponent s).1 ++ (exponent s).2 = s := by
  fun_cases exponent s <;> simp [List.takeWhile_append_dropWhile]

theorem fraction_append (s : Text) : (fraction s).1 ++ (fraction s).2 = s := by
  fun_cases fraction s <;> simp [List.takeWhile_append_dropWhile]

theorem number_append (s : Text) : (number s).text ++ (number s).rest = s := by
  simp only [number, List.append_assoc, exponent_append, fraction_append,
    List.takeWhile_append_dropWhile]

theorem rangeTail?_append {word rest tail rest' : Text}
    (h : rangeTail? word rest = some (tail, rest')) : tail ++ rest' = rest := by
  unfold rangeTail? at h
  split at h
  · dsimp only at h
    split at h
    · cases h
      simp [List.takeWhile_append_dropWhile]
    · simp at h
  · simp at h

theorem qualified_append (sheet head s : Text) :
    (qualified sheet head s).text ++ (qualified sheet head s).rest = head ++ s := by
  unfold qualified
  dsimp only
  split
  · next tail rest' h => simp [rangeTail?_append h, List.takeWhile_append_dropWhile]
  · simp [List.takeWhile_append_dropWhile]

theorem bare_append (word rest : Text) :
    (bare word rest).text ++ (bare word rest).rest = word ++ rest := by
  unfold bare
  split
  · next tail rest' h => simp [rangeTail?_append h]
  · rfl

theorem word_append (s : Text) : (word s).text ++ (word s).rest = s := by
  unfold word
  dsimp only
  split
  · next more h =>
    rw [qualified_append, List.append_assoc, List.singleton_append, ← h,
      List.takeWhile_append_dropWhile]
  · next more h => simp [← h, List.takeWhile_append_dropWhile]
  · rw [bare_append, List.takeWhile_append_dropWhile]

theorem errorLiteral_append (s : Text) : (errorLiteral s).text ++ (errorLiteral s).rest = s := by
  unfold errorLiteral
  split <;> exact List.take_append_drop ..

theorem quotedSheet_append (run rest : Text) :
    (quotedSheet run rest).text ++ (quotedSheet run rest).rest = '\'' :: run ++ rest := by
  unfold quotedSheet
  split
  · rw [qualified_append]
    simp
  · rfl

theorem comparison_append (c : Char) (rest : Text) :
    (comparison c rest).text ++ (comparison c rest).rest = c :: rest := by
  unfold comparison
  split
  · split <;> rfl
  · rfl

theorem unquoted_append (c : Char) (rest : Text) :
    (unquoted c rest).text ++ (unquoted c rest).rest = c :: rest := by
  unfold unquoted
  split
  · rfl
  split
  · exact errorLiteral_append _
  split
  · exact comparison_append ..
  split
  · exact number_append _
  split
  · exact word_append _
  · rfl

theorem first_append {c : Char} {rest : Text} {l : Lexeme} (h : first c rest = .ok l) :
    l.text ++ l.rest = c :: rest := by
  unfold first at h
  split at h
  · cases h
    exact congrArg _ List.takeWhile_append_dropWhile
  split at h
  · split at h
    · next run rest' hrun =>
      cases h
      exact congrArg _ (closeQuote_append hrun)
    · cases h
  split at h
  · next hc =>
    split at h
    · next run rest' hrun =>
      cases h
      rw [quotedSheet_append, List.cons_append, closeQuote_append hrun, hc]
    · cases h
  · cases h
    exact unquoted_append ..

theorem isWordChar_of_isWordStart {c : Char} (h : isWordStart c) : isWordChar c := by
  simp only [isWordStart, isWordChar, Bool.or_eq_true] at *
  rcases h with (h | h) | h <;> simp [h]

theorem number_text_ne_nil {c : Char} {rest : Text} (h : startsNumber c rest) :
    (number (c :: rest)).text ≠ [] := by
  rcases Bool.or_eq_true .. ▸ h with h | h
  · simp [number, h]
  · obtain ⟨rfl, -⟩ : c = '.' ∧ _ := by simpa using h
    simp [number, fraction]

theorem qualified_text_ne_nil (sheet s : Text) {head : Text} (h : head ≠ []) :
    (qualified sheet head s).text ≠ [] := by
  unfold qualified
  dsimp only
  split <;> simp [h]

theorem bare_text_ne_nil {word : Text} (h : word ≠ []) (rest : Text) :
    (bare word rest).text ≠ [] := by
  unfold bare
  split <;> simp [h]

theorem word_text_ne_nil {c : Char} (h : isWordStart c) (rest : Text) :
    (word (c :: rest)).text ≠ [] := by
  have hw : (c :: rest).takeWhile isWordChar ≠ [] := by
    simp [isWordChar_of_isWordStart h]
  unfold word
  dsimp only
  split
  · exact qualified_text_ne_nil _ _ (by simp)
  · exact hw
  · exact bare_text_ne_nil hw _

theorem errorLiteral_text_ne_nil (c : Char) (rest : Text) :
    (errorLiteral (c :: rest)).text ≠ [] := by
  unfold errorLiteral
  split
  · next e h =>
    have hne : ∀ e ∈ errorLiterals, e ≠ [] := by decide
    have : e ≠ [] := hne e (List.mem_of_find?_eq_some h)
    cases e with
    | nil => contradiction
    | cons d e => simp
  · simp

theorem unquoted_text_ne_nil (c : Char) (rest : Text) : (unquoted c rest).text ≠ [] := by
  unfold unquoted
  split
  · simp
  split
  · exact errorLiteral_text_ne_nil _ _
  split
  · unfold comparison
    split
    · split <;> simp
    · simp
  split
  · next h => exact number_text_ne_nil h
  split
  · next h => exact word_text_ne_nil h _
  · simp

theorem first_text_ne_nil {c : Char} {rest : Text} {l : Lexeme} (h : first c rest = .ok l) :
    l.text ≠ [] := by
  unfold first at h
  split at h
  · cases h
    simp
  split at h
  · split at h <;> cases h
    simp
  split at h
  · split at h <;> cases h
    unfold quotedSheet
    split
    · exact qualified_text_ne_nil _ _ (by simp)
    · simp
  · cases h
    exact unquoted_text_ne_nil _ _

theorem first_rest_length_lt {c : Char} {rest : Text} {l : Lexeme} (h : first c rest = .ok l) :
    l.rest.length < (c :: rest).length := by
  have := List.length_pos_iff.2 (first_text_ne_nil h)
  rw [← first_append h, List.length_append]
  omega

end ColumnFormula.Lexeme
