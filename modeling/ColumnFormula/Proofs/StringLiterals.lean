import ColumnFormula.Proofs.Lookahead
import ColumnFormula.Proofs.TokenSequence

namespace ColumnFormula.Lexeme

open Text

def isQuote (c : Char) : Bool := c == '"' || c == '\''

/-- The runs in double quotes, with their quotes; none where a run in quotes of either kind is not
closed. -/
def strings? (s : Text) : Option (List Text) :=
  match s with
  | [] => some []
  | c :: s =>
    if isQuote c then
      match _h : closeQuote c s with
      | some (run, rest) =>
        (strings? rest).map fun found => if c = '"' then (c :: run) :: found else found
      | none => none
    else strings? s
termination_by s.length
decreasing_by
  · have := congrArg List.length (closeQuote_append _h)
    simp only [List.length_append, List.length_cons] at this ⊢
    omega
  · simp

theorem strings?_nil : strings? [] = some [] := by
  rw [strings?]

theorem strings?_cons {c : Char} (hc : isQuote c = false) (s : Text) :
    strings? (c :: s) = strings? s := by
  rw [strings?, if_neg (by simp [hc])]

theorem strings?_of_closeQuote {q : Char} {s run rest : Text} (hq : isQuote q)
    (h : closeQuote q s = some (run, rest)) :
    strings? (q :: s) =
      (strings? rest).map fun found => if q = '"' then (q :: run) :: found else found := by
  rw [strings?, if_pos hq]
  split
  · rename_i hclose
    rw [h] at hclose
    cases hclose
    rfl
  · rename_i hclose
    rw [h] at hclose
    cases hclose

theorem strings?_of_closeQuote_none {q : Char} {s : Text} (hq : isQuote q)
    (h : closeQuote q s = none) : strings? (q :: s) = none := by
  rw [strings?, if_pos hq]
  split
  · rename_i hclose
    rw [h] at hclose
    cases hclose
  · rfl

theorem strings?_append {text : Text} (h : ∀ c ∈ text, isQuote c = false) (s : Text) :
    strings? (text ++ s) = strings? s := by
  induction text with
  | nil => rfl
  | cons c text ih =>
      rw [List.cons_append, strings?_cons (h c (by simp))]
      exact ih fun d hd => h d (by simp [hd])

theorem strings?_string {run s : Text} (h : Closes '"' run) (hstop : StopsBefore (· == '"') s) :
    strings? ('"' :: run ++ s) = (strings? s).map (('"' :: run) :: ·) := by
  rw [List.cons_append, strings?_of_closeQuote rfl (closeQuote_append_of_closes h hstop)]
  rfl

theorem strings?_quotedRun {run s : Text} (h : Closes '\'' run)
    (hstop : StopsBefore (· == '\'') s) : strings? ('\'' :: run ++ s) = strings? s := by
  rw [List.cons_append, strings?_of_closeQuote rfl (closeQuote_append_of_closes h hstop)]
  exact Option.map_id'

theorem eq_of_isQuote {c : Char} (h : isQuote c) : c = '"' ∨ c = '\'' := by
  simpa [isQuote] using h

theorem isQuote_eq_false {p : Char → Bool} (hdouble : p '"' = false) (hsingle : p '\'' = false)
    {c : Char} (hc : p c) : isQuote c = false := by
  rw [Bool.eq_false_iff]
  intro hquote
  rcases eq_of_isQuote hquote with rfl | rfl
  · simp [hdouble] at hc
  · simp [hsingle] at hc

theorem isQuote_of_isWordChar {c : Char} (h : isWordChar c) : isQuote c = false :=
  isQuote_eq_false rfl rfl h

theorem isQuote_of_isDigit {c : Char} (h : c.isDigit) : isQuote c = false :=
  isQuote_of_isWordChar (isWordChar_of_isDigit h)

theorem isQuote_of_isWord {word : Text} (h : isWord word) : ∀ c ∈ word, isQuote c = false :=
  fun c hc => isQuote_of_isWordChar (isWordChar_of_isWord h c hc)

theorem isQuote_of_isBound {word : Text} (h : isBound word) : ∀ c ∈ word, isQuote c = false :=
  isQuote_of_isWord (isWord_of_isBound h)

theorem isQuote_of_range {left right : Text} (hleft : isBound left) (hright : isBound right) :
    ∀ c ∈ left ++ ':' :: right, isQuote c = false := by
  intro c hc
  rw [List.mem_append, List.mem_cons] at hc
  rcases hc with hc | rfl | hc
  · exact isQuote_of_isBound hleft c hc
  · rfl
  · exact isQuote_of_isBound hright c hc

theorem isQuote_of_exponent {power : Text} (h : Exponent power) :
    ∀ c ∈ power, isQuote c = false := by
  have hletter : ∀ {e : Char}, e = 'e' ∨ e = 'E' → isQuote e = false := by
    rintro e (rfl | rfl) <;> rfl
  cases h with
  | absent => simp
  | unsigned he _ hall =>
      intro c hc
      rcases List.mem_cons.mp hc with rfl | hc
      · exact hletter he
      · exact isQuote_of_isDigit (hall c hc)
  | signed he hsign _ hall =>
      intro c hc
      rw [List.mem_cons, List.mem_cons] at hc
      rcases hc with rfl | rfl | hc
      · exact hletter he
      · exact isQuote_eq_false (p := isSign) rfl rfl hsign
      · exact isQuote_of_isDigit (hall c hc)

theorem isQuote_of_errorLiteral {e text : Text} (he : e ∈ errorLiterals)
    (hsame : sameIgnoringCase e text) : ∀ c ∈ text, isQuote c = false := by
  have hdouble : '"' ∉ text := not_mem_of_sameIgnoringCase (by decide) (by decide) he hsame
  have hsingle : '\'' ∉ text := not_mem_of_sameIgnoringCase (by decide) (by decide) he hsame
  intro c hc
  rw [Bool.eq_false_iff]
  intro hquote
  rcases eq_of_isQuote hquote with rfl | rfl
  · exact hdouble hc
  · exact hsingle hc

theorem isQuote_of_single? {c : Char} {kind : Token.Kind} (h : single? c = some kind) :
    isQuote c = false := by
  have hall : ['(', ')', ',', '+', '-', '*', '/', '^', '&', '=', '%'].all (!isQuote ·) := by decide
  simpa using List.all_eq_true.mp hall c (mem_of_single?_eq_some h)

/-- A token has no quotes, or they enclose the string that it is, or the sheet name or quoted run
that it starts with. -/
inductive Quoting : (kind : Token.Kind) → (text rest : Text) → Prop
  | plain {kind : Token.Kind} {text rest : Text} (noString : kind ≠ .string)
      (noQuote : ∀ c ∈ text, isQuote c = false) : Quoting kind text rest
  | string {run rest : Text} (closes : Closes '"' run) (stop : StopsBefore (· == '"') rest) :
      Quoting .string ('"' :: run) rest
  | sheet {kind : Token.Kind} {run tail rest : Text} (noString : kind ≠ .string)
      (closes : Closes '\'' run) (noQuote : ∀ c ∈ tail, isQuote c = false)
      (stop : StopsBefore (· == '\'') (tail ++ rest)) : Quoting kind ('\'' :: run ++ tail) rest

theorem SheetHead.quoting {sheet head tail : Text} {kind : Token.Kind} (h : SheetHead sheet head)
    (hkind : kind ≠ .string) (htail : ∀ c ∈ tail, isQuote c = false) (rest : Text) :
    Quoting kind (head ++ tail) rest := by
  have hmark : ∀ c ∈ '!' :: tail, isQuote c = false := by
    intro c hc
    rcases List.mem_cons.mp hc with rfl | hc
    · rfl
    · exact htail c hc
  cases h with
  | quoted hcloses =>
      rw [List.append_assoc]
      exact .sheet hkind hcloses hmark (stopsBefore_cons.mpr rfl)
  | plain hname =>
      refine .plain hkind fun c hc => ?_
      rw [List.append_assoc, List.mem_append] at hc
      rcases hc with hc | hc
      · exact isQuote_of_isWord hname c hc
      · exact hmark c hc

theorem Reads.quoting {kind : Token.Kind} {text rest : Text} (h : Reads kind text rest) :
    Quoting kind text rest := by
  have hone : ∀ {c : Char}, isQuote c = false → ∀ d ∈ [c], isQuote d = false := by
    intro c hc d hd
    rwa [List.mem_singleton.mp hd]
  have hsign : ∀ {c : Char}, c = '<' ∨ c = '>' → isQuote c = false := by
    rintro c (rfl | rfl) <;> rfl
  cases h with
  | blank _ hall _ =>
      exact .plain (by simp) fun c hc => isQuote_eq_false (by decide) (by decide) (hall c hc)
  | string hcloses hstop => exact .string hcloses hstop
  | number hparts =>
      have hpower := isQuote_of_exponent hparts.exponent
      exact .plain (by simp) (hparts.forall_mem isQuote_of_isDigit rfl hpower)
  | errorLiteral he hsame => exact .plain (by simp) (isQuote_of_errorLiteral he hsame)
  | function hname => exact .plain (by simp) (isQuote_of_isWord hname)
  | range hleft hright _ => exact .plain (by simp) (isQuote_of_range hleft hright)
  | cell hcell _ _ => exact .plain (by simp) (isQuote_of_isBound (isBound_of_isCell hcell))
  | boolean hboolean _ _ =>
      exact .plain (by simp) (isQuote_of_isWord (isWord_of_isBoolean hboolean))
  | name hword _ _ _ _ => exact .plain (by simp) (isQuote_of_isWord hword)
  | sheetRange hhead hleft hright _ =>
      exact hhead.quoting (by simp) (isQuote_of_range hleft hright) _
  | sheetCell hhead hcell _ _ =>
      exact hhead.quoting (by simp) (isQuote_of_isBound (isBound_of_isCell hcell)) _
  | sheetName hhead hall _ _ _ =>
      exact hhead.quoting (by simp) (fun c hc => isQuote_of_isWordChar (hall c hc)) _
  | symbol hsingle =>
      refine .plain ?_ (hone (isQuote_of_single? hsingle))
      rintro rfl
      simpa using of_single?_eq_some hsingle
  | comparison hc _ => exact .plain (by simp) (hone (hsign hc))
  | doubleComparison hc hd =>
      refine .plain (by simp) fun x hx => ?_
      rw [List.mem_cons, List.mem_singleton] at hx
      rcases hx with rfl | rfl
      · exact hsign hc
      · rcases hd with rfl | ⟨-, rfl⟩ <;> rfl
  | quotedRun hcloses hstop =>
      rw [← List.append_nil ('\'' :: _)]
      refine .sheet (by simp) hcloses (by simp) ?_
      exact hstop.mono fun c hc => by simp [hc]
  | numberSign _ => exact .plain (by simp) (hone rfl)
  | stray hstray =>
      refine .plain (by simp) (hone ?_)
      rw [Bool.eq_false_iff]
      intro hquote
      rcases eq_of_isQuote hquote with rfl | rfl
      · exact hstray.ne_quote.1 rfl
      · exact hstray.ne_quote.2 rfl

theorem Quoting.of_stops {kind : Token.Kind} {text rest rest' : Text} (h : Quoting kind text rest)
    (hstop : ∀ q, isQuote q → StopsBefore (· == q) rest → StopsBefore (· == q) rest') :
    Quoting kind text rest' := by
  cases h with
  | plain hkind hnone => exact .plain hkind hnone
  | string hcloses hrest => exact .string hcloses (hstop _ rfl hrest)
  | @sheet _ run tail _ hkind hcloses hnone hrest =>
      refine .sheet hkind hcloses hnone ?_
      cases tail with
      | nil => exact hstop _ rfl hrest
      | cons c tail => simpa using hrest

theorem strings?_of_quoting {kind : Token.Kind} {text rest : Text} (h : Quoting kind text rest) :
    strings? (text ++ rest) =
      (strings? rest).map fun found => if kind = .string then text :: found else found := by
  cases h with
  | plain hkind hnone => simp [strings?_append hnone, hkind]
  | string hcloses hstop => simpa using strings?_string hcloses hstop
  | sheet hkind hcloses hnone hstop =>
      rw [List.append_assoc, strings?_quotedRun hcloses hstop, strings?_append hnone]
      simp [hkind]

theorem of_first_eq_error {c : Char} {s : Text} {cause : Unclosed} (h : first c s = .error cause) :
    isQuote c ∧ closeQuote c s = none := by
  unfold first at h
  split at h
  · cases h
  split at h
  · rename_i hc
    subst hc
    split at h
    · cases h
    · rename_i hclose
      exact ⟨rfl, hclose⟩
  split at h
  · rename_i hc
    subst hc
    split at h
    · cases h
    · rename_i hclose
      exact ⟨rfl, hclose⟩
  · cases h

end ColumnFormula.Lexeme

namespace ColumnFormula.Token

open Lexeme

def strings (tokens : List Token) : List Text :=
  (tokens.filter fun t => t.kind = .string).map (·.text)

theorem strings_cons (t : Token) (tokens : List Token) :
    strings (t :: tokens) =
      if t.kind = .string then t.text :: strings tokens else strings tokens := by
  by_cases h : t.kind = .string <;> simp [strings, h]

theorem strings?_render {tokens : List Token} (h : Lexed tokens) :
    strings? (render tokens) = some (strings tokens) := by
  induction tokens with
  | nil => exact strings?_nil
  | cons t tokens ih =>
      rw [render_cons, strings?_of_quoting h.1.quoting, ih h.2, strings_cons]
      rfl

theorem exists_scan_of_strings? {s : Text} (h : (strings? s).isSome) (position : Nat) :
    ∃ tokens, scan position s = .ok tokens := by
  induction hn : s.length using Nat.strongRecOn generalizing s position with
  | ind n ih =>
      cases s with
      | nil => exact ⟨[], scan_nil position⟩
      | cons c s =>
          cases hfirst : first c s with
          | error cause =>
              obtain ⟨hquote, hclose⟩ := of_first_eq_error hfirst
              simp [strings?_of_closeQuote_none hquote hclose] at h
          | ok l =>
              obtain ⟨htext, hreads⟩ := starts_iff.mp ⟨c, s, rfl, hfirst⟩
              rw [← htext, strings?_of_quoting hreads.quoting, Option.isSome_map] at h
              have hlt : l.rest.length < n := hn ▸ first_rest_length_lt hfirst
              obtain ⟨tokens, htokens⟩ := ih _ hlt h (position + l.text.length) rfl
              rw [scan_of_starts ⟨c, s, rfl, hfirst⟩, htokens]
              exact ⟨_, rfl⟩

/-- The strings that the quotes of a formula enclose are the strings among its tokens. -/
theorem strings?_eq_some_iff {formula : Text} {found : List Text} :
    strings? formula = some found ↔
      ∃ tokens, tokenize formula = .ok tokens ∧ strings tokens = found := by
  constructor
  · intro h
    obtain ⟨tokens, htokens⟩ := exists_scan_of_strings? (Option.isSome_of_eq_some h) 0
    refine ⟨tokens, htokens, ?_⟩
    obtain ⟨hrender, hlexed, -⟩ := tokenize_eq_ok_iff.mp htokens
    rw [← hrender, strings?_render hlexed] at h
    exact Option.some.inj h
  · rintro ⟨tokens, htokens, rfl⟩
    obtain ⟨hrender, hlexed, -⟩ := tokenize_eq_ok_iff.mp htokens
    rw [← hrender]
    exact strings?_render hlexed

end ColumnFormula.Token
