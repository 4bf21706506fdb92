import ColumnFormula.Proofs.Lookahead
import ColumnFormula.Proofs.TokenSequence

namespace ColumnFormula

namespace Lexeme

open Text

theorem prefix_of_append_space {p s t : Text} (h : p <+: s ++ ' ' :: t) (hspace : ' ' ∉ p) :
    p <+: s := by
  rcases List.prefix_or_prefix_of_prefix h (List.prefix_append s (' ' :: t)) with hp | ⟨q, rfl⟩
  · exact hp
  · cases q with
    | nil => simp
    | cons c q =>
        have hq : c :: q <+: ' ' :: t := (List.prefix_append_right_inj s).mp h
        have hc := (List.cons_prefix_cons.mp hq).1
        simp [hc] at hspace

theorem takeWhile_isWordChar_append_space (s t : Text) :
    (s ++ ' ' :: t).takeWhile isWordChar = s.takeWhile isWordChar := by
  induction s with
  | nil => rfl
  | cons c s ih => simp only [List.cons_append, List.takeWhile_cons, ih]

theorem endsAlike_append_space (s t : Text) : EndsAlike s (s ++ ' ' :: t) where
  stop p hp hstop := by
    cases s with
    | nil => exact stopsBefore_cons.mpr hp
    | cons c s =>
        rw [List.cons_append, stopsBefore_cons]
        exact stopsBefore_cons.mp hstop
  noExponent := noExponent_of_fronts fun _ hspace hp => prefix_of_append_space hp hspace
  noTail word hnone := by
    rw [rangeTail?_eq_none_iff] at hnone ⊢
    intro more heq hword
    cases s with
    | nil => exact absurd (List.cons.inj heq).1 (by decide)
    | cons c s =>
        obtain ⟨rfl, rfl⟩ := List.cons.inj heq
        have hright := hnone s rfl hword
        rwa [← takeWhile_isWordChar_append_space s t] at hright
  noLiteral := .of_fronts fun _ hspace hp => prefix_of_append_space (s := '#' :: s) hp hspace

theorem Reads.append_space {kind : Token.Kind} {text rest : Text} (h : Reads kind text rest)
    (hblank : kind = .blank → rest ≠ []) (s : Text) : Reads kind text (rest ++ ' ' :: s) := by
  apply h.of_endsAlike (endsAlike_append_space rest s)
  · rintro rfl
    exact (stopsBefore_append_iff (hblank rfl) _).mpr h.blank_stop
  · rintro rfl
    obtain ⟨t, rfl⟩ := h.function_paren
    rfl

end Lexeme

def LexError.moved (n : Nat) (e : LexError) : LexError := { e with position := e.position + n }

namespace Token

open Lexeme (Reads)

def moved (n : Nat) (t : Token) : Token := { t with position := t.position + n }

/-- The tokens that are no blanks. -/
def solid (tokens : List Token) : List Token := tokens.filter (!·.isBlank)

@[simp] theorem solid_nil : solid [] = [] := rfl

theorem solid_cons_of_isBlank {t : Token} (h : t.isBlank) (rest : List Token) :
    solid (t :: rest) = solid rest := by
  simp [solid, h]

theorem solid_cons (t : Token) (rest : List Token) : solid (t :: rest) = solid [t] ++ solid rest :=
  List.filter_append [t] rest

theorem solid_map_moved (n : Nat) (tokens : List Token) :
    solid (tokens.map (moved n)) = (solid tokens).map (moved n) := by
  rw [solid, List.filter_map]
  rfl

theorem scan_add (position n : Nat) (s : Text) :
    scan (position + n) s =
      ((scan position s).mapError (LexError.moved n)).map (List.map (moved n)) := by
  induction hn : s.length using Nat.strongRecOn generalizing s position with
  | ind length ih =>
      cases s with
      | nil =>
          rw [scan_nil, scan_nil]
          rfl
      | cons c s =>
          cases hfirst : Lexeme.first c s with
          | error cause =>
              rw [scan_of_first_error hfirst, scan_of_first_error hfirst]
              rfl
          | ok l =>
              have hlt : l.rest.length < length := hn ▸ Lexeme.first_rest_length_lt hfirst
              have hrest := ih _ hlt (position + l.text.length) l.rest rfl
              rw [scan_of_starts ⟨c, s, rfl, hfirst⟩, scan_of_starts ⟨c, s, rfl, hfirst⟩,
                Nat.add_right_comm, hrest]
              cases scan (position + l.text.length) l.rest <;> rfl

theorem scan_of_stopsBefore {run s : Text} (hrun : ∀ c ∈ run, Text.isBlank c)
    (hstop : Text.StopsBefore Text.isBlank s) (position : Nat) :
    (scan position (run ++ s)).map solid = (scan (position + run.length) s).map solid := by
  cases run with
  | nil => rfl
  | cons c run =>
      have hreads : Reads .blank (c :: run) s := .blank (List.cons_ne_nil c run) hrun hstop
      rw [scan_of_starts hreads.starts]
      cases scan (position + (c :: run).length) s <;> rfl

theorem scan_blanks {run : Text} (hrun : ∀ c ∈ run, Text.isBlank c) (s : Text) (position : Nat) :
    (scan position (run ++ s)).map solid = (scan (position + run.length) s).map solid := by
  let lead := s.takeWhile Text.isBlank
  let behind := s.dropWhile Text.isBlank
  have hsplit : lead ++ behind = s := List.takeWhile_append_dropWhile
  have hlead : ∀ c ∈ lead, Text.isBlank c := fun c hc => List.mem_takeWhile_imp hc
  have hstop : Text.StopsBefore Text.isBlank behind := Text.stopsBefore_dropWhile _ s
  have hall : ∀ c ∈ run ++ lead, Text.isBlank c := List.forall_mem_append.mpr ⟨hrun, hlead⟩
  calc (scan position (run ++ s)).map solid
      = (scan position (run ++ lead ++ behind)).map solid := by
          rw [List.append_assoc, hsplit]
    _ = (scan (position + run.length + lead.length) behind).map solid := by
          rw [scan_of_stopsBefore hall hstop, List.length_append, Nat.add_assoc]
    _ = (scan (position + run.length) s).map solid := by
          rw [← scan_of_stopsBefore hlead hstop, hsplit]

theorem Lexed.eq_nil_of_render {tokens : List Token} (h : Lexed tokens)
    (hrender : render tokens = []) : tokens = [] := by
  cases tokens with
  | nil => rfl
  | cons t rest => exact absurd (List.append_eq_nil_iff.mp hrender).1 h.1.text_ne_nil

/-- Behind tokens and a space, a text is cut as if it stood alone. -/
theorem scan_append_space {tokens : List Token} (h : Lexed tokens) (s : Text) (position : Nat) :
    (scan position (render tokens ++ ' ' :: s)).map solid =
      (scan (position + ((render tokens).length + 1)) s).map
        fun back => solid (place position tokens) ++ solid back := by
  have hspace : Text.isBlank ' ' = true := rfl
  induction tokens generalizing position with
  | nil =>
      have hrun : ∀ c ∈ [' '], Text.isBlank c := by simp [hspace]
      exact scan_blanks hrun s position
  | cons t rest ih =>
      obtain ⟨hreads, hrest⟩ := h
      rw [render_cons, List.append_assoc, place]
      by_cases hlast : t.kind = .blank ∧ render rest = []
      · -- The space goes on with the run of blanks.
        obtain ⟨hkind, hnil⟩ := hlast
        obtain rfl := hrest.eq_nil_of_render hnil
        have hrun : ∀ c ∈ t.text ++ [' '], Text.isBlank c := by
          have hall := List.all_eq_true.mp (hkind ▸ hreads).blank_isAllBlank
          exact List.forall_mem_append.mpr ⟨hall, by simp [hspace]⟩
        have hblank : isBlank ⟨t.kind, t.text, position⟩ := by simp [isBlank, hkind]
        have hscan := scan_blanks hrun s position
        simpa [place, solid_cons_of_isBlank hblank] using hscan
      · have hkept := hreads.append_space (fun hkind hnil => hlast ⟨hkind, hnil⟩) s
        have hbehind := ih hrest (position + t.text.length)
        have hplace : position + t.text.length + ((render rest).length + 1) =
            position + ((t.text ++ render rest).length + 1) := by
          rw [List.length_append]
          omega
        rw [scan_of_starts hkept.starts, ← hplace]
        generalize
          scan (position + t.text.length + ((render rest).length + 1)) s = behind at hbehind ⊢
        have hcons : ∀ found : Except LexError (List Token),
            (found.map (⟨t.kind, t.text, position⟩ :: ·)).map solid =
              (found.map solid).map (solid [⟨t.kind, t.text, position⟩] ++ ·) := by
          intro found
          cases found with
          | error e => rfl
          | ok tokens => exact congrArg Except.ok (solid_cons _ tokens)
        rw [hcons, hbehind]
        cases behind with
        | error e => rfl
        | ok back =>
            refine congrArg Except.ok ?_
            simp only [solid_cons _ (place _ rest), List.append_assoc]

theorem solid_tokenize_append_space {formula : Text} {front : List Token}
    (h : tokenize formula = .ok front) (text : Text) :
    (tokenize (formula ++ ' ' :: text)).map solid =
      ((tokenize text).mapError (LexError.moved (formula.length + 1))).map
        fun back => solid front ++ (solid back).map (moved (formula.length + 1)) := by
  obtain ⟨rfl, hlexed, hplace⟩ := tokenize_eq_ok_iff.mp h
  have hscan := scan_append_space hlexed text 0
  rw [scan_add, hplace] at hscan
  refine Eq.trans hscan ?_
  rw [tokenize]
  cases scan 0 text with
  | error e => rfl
  | ok back => exact congrArg (Except.ok <| solid front ++ ·) (solid_map_moved _ back)

/-- A space ends the tokens of a formula. A text behind it has tokens just when it has them by
itself, and they are the same, further on by the formula and the space; only blanks may have run
together. An error is the error of the text behind, as much further on. -/
theorem tokenize_append_space {formula : Text} {front : List Token}
    (h : tokenize formula = .ok front) (text : Text) :
    ((∃ tokens, tokenize (formula ++ ' ' :: text) = .ok tokens) ↔
      ∃ back, tokenize text = .ok back) ∧
    (∀ tokens back, tokenize (formula ++ ' ' :: text) = .ok tokens → tokenize text = .ok back →
      solid tokens = solid front ++ (solid back).map (moved (formula.length + 1))) ∧
    ∀ e e', tokenize (formula ++ ' ' :: text) = .error e → tokenize text = .error e' →
      e = e'.moved (formula.length + 1) := by
  have hsolid := solid_tokenize_append_space h text
  cases hwhole : tokenize (formula ++ ' ' :: text) with
  | error e =>
      cases htext : tokenize text with
      | ok back => simp [hwhole, htext, Except.map, Except.mapError] at hsolid
      | error e' =>
          rw [hwhole, htext] at hsolid
          cases hsolid
          simp
  | ok tokens =>
      cases htext : tokenize text with
      | error e' => simp [hwhole, htext, Except.map, Except.mapError] at hsolid
      | ok back =>
          rw [hwhole, htext] at hsolid
          simpa using Except.ok.inj hsolid

theorem tokenize_append_space_exponent :
    let formula := "#N 1e".toList
    let front : List Token :=
      [⟨.other, "#".toList, 0⟩, ⟨.name, "N".toList, 1⟩, ⟨.blank, " ".toList, 2⟩,
        ⟨.number, "1".toList, 3⟩, ⟨.name, "e".toList, 4⟩]
    let text := " 5/A".toList
    let back : List Token :=
      [⟨.blank, " ".toList, 0⟩, ⟨.number, "5".toList, 1⟩, ⟨.operator, "/".toList, 2⟩,
        ⟨.name, "A".toList, 3⟩]
    tokenize formula = .ok front ∧ tokenize text = .ok back ∧
      ∃ tokens, tokenize (formula ++ ' ' :: text) = .ok tokens ∧
        solid tokens = solid front ++ (solid back).map (moved 6) := by
  intro formula front text back
  have hfront : tokenize formula = .ok front := by decide +kernel
  have hback : tokenize text = .ok back := by decide +kernel
  obtain ⟨hiff, hsolid, -⟩ := tokenize_append_space hfront text
  obtain ⟨tokens, htokens⟩ := hiff.mpr ⟨back, hback⟩
  exact ⟨hfront, hback, tokens, htokens, hsolid tokens back htokens hback⟩

end Token

end ColumnFormula
