import ColumnFormula.Proofs.SingleReference

namespace ColumnFormula

open Lexeme

namespace Bound

def rewriteText (g : Written → Written) (word : Text) : Text :=
  match split? word with
  | some w => (g w).text
  | none => word

/-- The function takes bounds to bounds; whether the column is absolute and whether there is a row
stays. -/
structure IsRewriting (g : Written → Written) : Prop where
  wellFormed : ∀ w, w.WellFormed → (g w).WellFormed
  columnMark : ∀ w, (g w).columnMark = w.columnMark
  digits_eq_nil_iff : ∀ w, (g w).digits = [] ↔ w.digits = []

variable {g : Written → Written}

theorem rewriteText_text (g : Written → Written) {w : Written} (h : w.WellFormed) :
    rewriteText g w.text = (g w).text := by
  rw [rewriteText, split?_text h]

theorem isBound_rewriteText (hg : IsRewriting g) {word : Text} (h : isBound word) :
    isBound (rewriteText g word) := by
  obtain ⟨w, hform, rfl⟩ := isBound_iff.mp h
  rw [rewriteText_text g hform]
  exact isBound_iff.mpr ⟨_, hg.wellFormed w hform, rfl⟩

theorem isCell_rewriteText (hg : IsRewriting g) {word : Text} (h : isCell word) :
    isCell (rewriteText g word) := by
  obtain ⟨w, hform, rfl, hdigits⟩ := isCell_iff.mp h
  rw [rewriteText_text g hform]
  exact isCell_iff.mpr ⟨_, hg.wellFormed w hform, rfl, mt (hg.digits_eq_nil_iff w).mp hdigits⟩

end Bound

namespace Reference

def bounds : Reference → List Bound
  | single b => [b]
  | range first last => [first, last]

def mapBounds (f : Bound → Bound) : Reference → Reference
  | single b => single (f b)
  | range first last => range (f first) (f last)

def rewriteText (g : Bound.Written → Bound.Written) (s : Text) : Text :=
  [':'].intercalate ((Text.splitAtEach ':' s).map (Bound.rewriteText g))

variable {g : Bound.Written → Bound.Written} {f : Bound → Bound}

theorem rewriteText_of_isBound {word : Text} (h : isBound word) :
    rewriteText g word = Bound.rewriteText g word := by
  rw [rewriteText, Text.splitAtEach_of_not_mem (not_mem_of_isBound h rfl)]
  simp

theorem rewriteText_range {left right : Text} (hleft : isBound left) (hright : isBound right) :
    rewriteText g (left ++ ':' :: right) =
      Bound.rewriteText g left ++ ':' :: Bound.rewriteText g right := by
  rw [rewriteText, Text.splitAtEach_append (not_mem_of_isBound hleft rfl),
    Text.splitAtEach_of_not_mem (not_mem_of_isBound hright rfl)]
  simp [List.intercalate]

theorem parse?_rewriteText_of_isBound {word : Text} {r : Reference} (hg : Bound.IsRewriting g)
    (hword : isBound word) (h : parse? word = some r)
    (hbounds : ∀ b ∈ r.bounds, ∀ word, Bound.parse? word = some b →
      Bound.parse? (Bound.rewriteText g word) = some (f b)) :
    parse? (rewriteText g word) = some (r.mapBounds f) := by
  rw [parse?_of_isBound hword] at h
  obtain ⟨b, hb, rfl⟩ := Option.map_eq_some_iff.mp h
  rw [rewriteText_of_isBound hword, parse?_of_isBound (Bound.isBound_rewriteText hg hword),
    hbounds b (by simp [bounds]) word hb]
  rfl

theorem parse?_rewriteText_range {left right : Text} {r : Reference} (hg : Bound.IsRewriting g)
    (hf : ∀ b, (f b).row.isSome = b.row.isSome) (hleft : isBound left) (hright : isBound right)
    (h : parse? (left ++ ':' :: right) = some r)
    (hbounds : ∀ b ∈ r.bounds, ∀ word, Bound.parse? word = some b →
      Bound.parse? (Bound.rewriteText g word) = some (f b)) :
    parse? (rewriteText g (left ++ ':' :: right)) = some (r.mapBounds f) := by
  obtain ⟨first, last, hfirst, hlast, hsome, rfl⟩ := (parse?_range_eq_some_iff hleft hright).mp h
  rw [rewriteText_range hleft hright, parse?_range_eq_some_iff (Bound.isBound_rewriteText hg hleft)
    (Bound.isBound_rewriteText hg hright)]
  refine ⟨_, _, hbounds first (by simp [bounds]) left hfirst,
    hbounds last (by simp [bounds]) right hlast, ?_, rfl⟩
  rw [hf, hf, hsome]

theorem exists_parse?_of_mem_bounds {s : Text} {r : Reference} {b : Bound}
    (h : parse? s = some r) (hb : b ∈ r.bounds) : ∃ word, Bound.parse? word = some b := by
  unfold parse? at h
  split at h
  · rename_i one _
    obtain ⟨b', hparse, rfl⟩ := Option.map_eq_some_iff.mp h
    obtain rfl := List.mem_singleton.mp hb
    exact ⟨one, hparse⟩
  · rename_i one two _
    obtain ⟨first, hfirst, h⟩ := Option.bind_eq_some_iff.mp h
    obtain ⟨last, hlast, h⟩ := Option.bind_eq_some_iff.mp h
    split at h
    · obtain rfl := Option.some.inj h
      simp only [bounds, List.mem_cons, List.not_mem_nil, or_false] at hb
      rcases hb with rfl | rfl
      · exact ⟨one, hfirst⟩
      · exact ⟨two, hlast⟩
    · contradiction
  · contradiction

end Reference

namespace Token

/-- A reference with other bounds; every other token stays. -/
def rewrite (g : Bound.Written → Bound.Written) (t : Token) : Token :=
  match t.kind with
  | .cell _ | .range _ =>
    let head := t.text.take (t.text.length - t.referenceText.length)
    { t with text := head ++ Reference.rewriteText g t.referenceText }
  | _ => t

variable {g : Bound.Written → Bound.Written} {t : Token} {rest rest' : Text}

@[simp] theorem rewrite_kind (t : Token) : (t.rewrite g).kind = t.kind := by
  rw [rewrite]
  split <;> rfl

theorem rewrite_text {head : Text} (href : t.IsReference)
    (htext : t.text = head ++ t.referenceText) :
    (t.rewrite g).text = head ++ Reference.rewriteText g t.referenceText := by
  have htake : t.text.take (t.text.length - t.referenceText.length) = head := by
    rw [htext, List.length_append, Nat.add_sub_cancel, List.take_left]
  rcases href with ⟨sheet, hkind⟩ | ⟨sheet, hkind⟩ <;> simp only [rewrite, hkind, htake]

theorem rewrite_of_not_isReference (h : ¬ t.IsReference) : t.rewrite g = t := by
  unfold rewrite
  split
  · rename_i sheet hkind
    exact absurd (.inl ⟨sheet, hkind⟩) h
  · rename_i sheet hkind
    exact absurd (.inr ⟨sheet, hkind⟩) h
  · rfl

/-- The rewritten token of a reference is read where the token is, and has the rewritten
reference. -/
theorem reads_rewrite (hg : Bound.IsRewriting g) (h : Reads t.kind t.text rest)
    (href : t.IsReference) (hnear : EndsNear rest rest') :
    Reads (t.rewrite g).kind (t.rewrite g).text rest' ∧
      (t.rewrite g).referenceText = Reference.rewriteText g t.referenceText := by
  rcases id href with ⟨sheet, hkind⟩ | ⟨sheet, hkind⟩
  · obtain ⟨head, htext, hcell, hexchange⟩ := cell_exchange h hkind
    have hreference : Reference.rewriteText g t.referenceText =
        Bound.rewriteText g t.referenceText :=
      Reference.rewriteText_of_isBound (isBound_of_isCell hcell)
    have htext' := rewrite_text (g := g) href htext
    rw [hreference] at htext' ⊢
    exact (hexchange (rewrite_kind t) htext' (Bound.isCell_rewriteText hg hcell) hnear).symm
  · obtain ⟨head, left, right, htext, hbounds, hleft, hright, hexchange⟩ := range_exchange h hkind
    have htext' := rewrite_text (g := g) href htext
    rw [hbounds, Reference.rewriteText_range hleft hright] at htext' ⊢
    exact (hexchange (rewrite_kind t) htext' (Bound.isBound_rewriteText hg hleft)
      (Bound.isBound_rewriteText hg hright) hnear).symm

theorem parse?_referenceText_rewrite {f : Bound → Bound} {r : Reference}
    (hg : Bound.IsRewriting g) (hf : ∀ b, (f b).row.isSome = b.row.isSome)
    (h : Reads t.kind t.text rest) (href : t.IsReference)
    (hparse : Reference.parse? t.referenceText = some r)
    (hbounds : ∀ b ∈ r.bounds, ∀ word, Bound.parse? word = some b →
      Bound.parse? (Bound.rewriteText g word) = some (f b)) :
    Reference.parse? (t.rewrite g).referenceText = some (r.mapBounds f) := by
  have hnear : EndsNear rest rest := ⟨fun _ _ => id, fun _ => id⟩
  rw [(reads_rewrite hg h href hnear).2]
  rcases href with ⟨sheet, hkind⟩ | ⟨sheet, hkind⟩
  · have hbound := isBound_of_isCell (isCell_referenceText h hkind)
    exact Reference.parse?_rewriteText_of_isBound hg hbound hparse hbounds
  · obtain ⟨left, right, hleft, hright, heq⟩ := isBound_referenceText h hkind
    rw [heq] at hparse ⊢
    exact Reference.parse?_rewriteText_range hg hf hleft hright hparse hbounds

/-- What a token is apart from its place. -/
def content (t : Token) : Kind × Text := (t.kind, t.text)

theorem content_place (position : Nat) (tokens : List Token) :
    (place position tokens).map content = tokens.map content := by
  induction tokens generalizing position with
  | nil => rfl
  | cons t rest ih =>
      rw [place, List.map_cons, List.map_cons, ih]
      rfl

theorem spacedText_eq_of_content {tokens tokens' : List Token}
    (h : tokens.map content = tokens'.map content) (blankBefore operand : Bool) :
    spacedText blankBefore operand tokens = spacedText blankBefore operand tokens' := by
  induction tokens generalizing tokens' blankBefore operand with
  | nil =>
      obtain rfl := List.map_eq_nil_iff.mp h.symm
      rfl
  | cons t rest ih =>
      obtain ⟨t', rest', rfl⟩ :=
        List.exists_cons_of_ne_nil (l := tokens') (by rintro rfl; simp at h)
      obtain ⟨htoken, hrest⟩ := List.cons.inj h
      obtain ⟨kind, text, position⟩ := t
      obtain ⟨kind', text', position'⟩ := t'
      obtain ⟨rfl, rfl⟩ := Prod.mk.inj htoken
      have hhead : rest.head?.all isBlank = rest'.head?.all isBlank := by
        have := congrArg List.head? hrest
        cases rest <;> cases rest' <;> simp_all [content, isBlank]
      rw [spacedText, spacedText, hhead, ih hrest]
      rfl

theorem exists_of_mem_place {position : Nat} {tokens : List Token} {t : Token}
    (h : t ∈ place position tokens) : ∃ u ∈ tokens, u.content = t.content := by
  have hmem := List.mem_map_of_mem (f := content) h
  rw [content_place] at hmem
  exact List.mem_map.mp hmem

end Token

namespace Converter

theorem replace_eq_of_content (t : Converter) (row : Option Nat) {token token' : Token}
    (h : token.content = token'.content) : t.replace row token = t.replace row token' := by
  obtain ⟨kind, text, position⟩ := token
  obtain ⟨kind', text', position'⟩ := token'
  obtain ⟨rfl, rfl⟩ := Prod.mk.inj h
  cases kind <;> rfl

theorem content_replaceAll_place (t : Converter) (row : Option Nat) (position : Nat)
    (tokens : List Token) :
    (t.replaceAll row (Token.place position tokens)).map Token.content =
      (t.replaceAll row tokens).map Token.content := by
  have hcontent : ∀ tokens, (t.replaceAll row tokens).map Token.content =
      (tokens.map Token.content).map fun c => (c.1, (t.replace row ⟨c.1, c.2, 0⟩).text) := by
    intro tokens
    rw [replaceAll, List.map_map, List.map_map]
    refine List.map_congr_left fun token _ => congrArg (Prod.mk token.kind) ?_
    exact congrArg Replacement.text (t.replace_eq_of_content row rfl)
  rw [hcontent, hcontent, Token.content_place]

/-- The tokens of a text, each changed. -/
def rewriteBody (change : Token → Token) (s : Text) : Text :=
  match Token.tokenize s with
  | .ok tokens => Token.render (tokens.map change)
  | .error _ => s

/-- A formula with each of its tokens changed. -/
def rewrite (change : Token → Token) : Text → Text
  | '=' :: rest => '=' :: rewriteBody change rest
  | formula => rewriteBody change formula

variable {change : Token → Token} {formula : Text} {tokens : List Token}

theorem rewriteBody_of_tokenize {s : Text} (h : Token.tokenize s = .ok tokens) :
    rewriteBody change s = Token.render (tokens.map change) := by
  rw [rewriteBody, h]

theorem body_rewrite (htokens : Token.tokenize (body formula) = .ok tokens)
    (hsign : (Token.render (tokens.map change)).head? = some '=' →
      (Token.render tokens).head? = some '=') :
    body (rewrite change formula) = Token.render (tokens.map change) := by
  have hself : ∀ {s : Text}, s.head? ≠ some '=' →
      body s = s ∧ rewrite change s = rewriteBody change s := by
    intro s hs
    cases s with
    | nil => exact ⟨rfl, rfl⟩
    | cons c s =>
        have hc : c ≠ '=' := by simpa using hs
        refine ⟨body_of_ne hc, ?_⟩
        rw [rewrite]
        rintro rest heq
        exact hc (List.cons.inj heq).1
  by_cases hformula : formula.head? = some '='
  · obtain ⟨rest, rfl⟩ := List.head?_eq_some_iff.mp hformula
    exact rewriteBody_of_tokenize htokens
  · obtain ⟨hbody, hrewrite⟩ := hself hformula
    rw [hbody] at htokens
    obtain ⟨hrender, -⟩ := Token.tokenize_eq_ok_iff.mp htokens
    rw [hrewrite, rewriteBody_of_tokenize htokens]
    exact (hself fun hhead => hformula (hrender ▸ hsign hhead)).1

theorem tokenize_rewrite (htokens : Token.tokenize (body formula) = .ok tokens)
    (hlexed : Token.Lexed (tokens.map change))
    (hsign : (Token.render (tokens.map change)).head? = some '=' →
      (Token.render tokens).head? = some '=') :
    Token.tokenize (body (rewrite change formula)) = .ok (Token.place 0 (tokens.map change)) := by
  rw [body_rewrite htokens hsign]
  exact Token.scan_render hlexed 0

theorem isAllBlank_render_iff (h : Token.Lexed tokens) :
    Text.isAllBlank (Token.render tokens) ↔ ∀ t ∈ tokens, t.kind = .blank := by
  constructor
  · exact h.kind_eq_blank
  · intro hkinds
    rw [Text.isAllBlank, Token.render, List.all_flatMap, List.all_eq_true]
    intro t ht
    obtain ⟨rest, hreads⟩ := h.reads t ht
    exact (hkinds t ht ▸ hreads).blank_isAllBlank

/-- Tokens of the same kinds that are replaced by the same texts make the same output. -/
theorem convert_rewrite (t t' : Converter) (row row' : Option Nat)
    (htokens : Token.tokenize (body formula) = .ok tokens)
    (hlexed : Token.Lexed (tokens.map change))
    (hsign : (Token.render (tokens.map change)).head? = some '=' →
      (Token.render tokens).head? = some '=')
    (hkind : ∀ token, (change token).kind = token.kind)
    (htext : ∀ token ∈ tokens, (t'.replace row' (change token)).text = (t.replace row token).text) :
    (t'.convert (rewrite change formula) row').success = true ∧
      (t'.convert (rewrite change formula) row').output = (t.convert formula row).output := by
  have htokens' := tokenize_rewrite htokens hlexed hsign
  have hblank :
      Text.isAllBlank (body (rewrite change formula)) = Text.isAllBlank (body formula) := by
    obtain ⟨hrender, hlexed', -⟩ := Token.tokenize_eq_ok_iff.mp htokens
    rw [body_rewrite htokens hsign, ← hrender, Bool.eq_iff_iff, isAllBlank_render_iff hlexed,
      isAllBlank_render_iff hlexed']
    simp [hkind]
  cases hall : Text.isAllBlank (body formula) with
  | true =>
      rw [hall] at hblank
      simp [convert, hall, hblank, Conversion.succeeded]
  | false =>
      rw [hall] at hblank
      rw [convert_of_tokenize hall htokens, convert_of_tokenize hblank htokens']
      refine ⟨rfl, Token.spacedText_eq_of_content ?_ false false⟩
      rw [content_replaceAll_place, replaceAll, replaceAll, List.map_map, List.map_map,
        List.map_map]
      exact List.map_congr_left fun token hmem => Prod.ext (hkind token) (htext token hmem)

end Converter

end ColumnFormula
