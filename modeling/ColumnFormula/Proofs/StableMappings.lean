import ColumnFormula.Proofs.ColumnMapping
import ColumnFormula.Proofs.StableIdentifiers

namespace ColumnFormula

namespace Identifier

open Text

theorem intercalate_concat {runs : List Text} (hne : runs ≠ []) (run : Text) :
    List.intercalate ['_'] (runs ++ [run]) = List.intercalate ['_'] runs ++ '_' :: run := by
  induction runs with
  | nil => contradiction
  | cons first more ih =>
      cases more with
      | nil => simp
      | cons next more =>
          rw [List.cons_append, List.cons_append, List.intercalate_cons_cons, ← List.cons_append,
            ih (List.cons_ne_nil next more), List.intercalate_cons_cons]
          simp

theorem intercalate_concat_append (runs : List Text) (run back : Text) :
    List.intercalate ['_'] (runs ++ [run ++ back]) =
      List.intercalate ['_'] (runs ++ [run]) ++ back := by
  by_cases hne : runs = []
  · simp [hne]
  · rw [intercalate_concat hne, intercalate_concat hne]
    simp

theorem guardDigit_append {s : Text} (hne : s ≠ []) (t : Text) :
    guardDigit (s ++ t) = guardDigit s ++ t := by
  obtain ⟨c, rest, rfl⟩ := List.exists_cons_of_ne_nil hne
  rw [List.cons_append, guardDigit, guardDigit]
  split
  · rfl
  · rfl

theorem guardDigit_concat_isStable {front : List Text} {last : Text}
    (hfront : ∀ run ∈ front, IsRun run) (hlast : IsRun last) :
    IsStable (guardDigit (List.intercalate ['_'] (front ++ [last]))) := by
  apply guardDigit_intercalate_isStable (by simp)
  rw [List.forall_mem_append, List.forall_mem_singleton]
  exact ⟨hfront, hlast⟩

theorem IsRun.append {run back : Text} (h : IsRun run) (hback : IsRun back) : IsRun (run ++ back) :=
  ⟨List.append_ne_nil_of_left_ne_nil h.ne_nil back,
    List.forall_mem_append.mpr ⟨h.isAlphanum, hback.isAlphanum⟩⟩

theorem isRun_ofNat (n : Nat) : IsRun (ofNat n) := by
  refine ⟨ofNat_ne_nil n, ?_⟩
  intro c hc
  simp [Char.isAlphanum, isDigit_of_mem_ofNat hc]

namespace Picker

theorem stem_eq_or (base : Text) : stem base = base ∨ stem base = base ++ ['_'] := by
  rw [stem]
  split
  · split
    · exact .inr rfl
    · exact .inl rfl
  · exact .inl rfl

theorem stem_append_ofNat_isStable {base : Text} (h : IsStable base) (n : Nat) :
    IsStable (stem base ++ ofNat n) := by
  obtain ⟨hwords, hguard⟩ := h.joined_eq
  have hjoined : joined base ≠ [] := joined_eq_nil_iff.not.mpr hwords
  have hruns : ∀ run ∈ words base, IsRun run := fun _ => isRun_of_mem_words
  rcases stem_eq_or base with hstem | hstem
  · -- the number goes on with the last word
    obtain ⟨front, last, hlast⟩ := (List.eq_nil_or_concat' (words base)).resolve_left hwords
    rw [hlast, List.forall_mem_append, List.forall_mem_singleton] at hruns
    have hnumbered : stem base ++ ofNat n =
        guardDigit (List.intercalate ['_'] (front ++ [last ++ ofNat n])) := by
      rw [intercalate_concat_append, ← hlast, ← joined, guardDigit_append hjoined, hguard, hstem]
    rw [hnumbered]
    exact guardDigit_concat_isStable hruns.1 (hruns.2.append (isRun_ofNat n))
  · -- the number is one more word
    have hnumbered : stem base ++ ofNat n =
        guardDigit (List.intercalate ['_'] (words base ++ [ofNat n])) := by
      rw [intercalate_concat hwords, ← joined, guardDigit_append hjoined, hguard, hstem,
        List.append_assoc, List.singleton_append]
    rw [hnumbered]
    exact guardDigit_concat_isStable hruns (isRun_ofNat n)

theorem claim_isStable {base : Text} (p : Picker) (h : IsStable base) (raw : Text) :
    IsStable (p.claim base raw).1.identifier := by
  rw [claim]
  split
  · exact h
  · exact stem_append_ofNat_isStable h _

theorem pick_of_isStable {p : Picker} {identifier : Text} (h : IsStable identifier)
    (hfree : p.isFree identifier) :
    p.pick identifier = (⟨identifier, none⟩, p.take identifier) := by
  rw [pick, sanitize_of_isStable h, claim, if_pos hfree]

/-- A picker that is asked for identifiers which it would hand out hands them out unchanged. -/
theorem pickAll_identifiers {p : Picker} (h : IsStable p.fallback) (raws : List Text) :
    p.pickAll ((p.pickAll raws).map (·.identifier)) =
      (p.pickAll raws).map fun picked => ⟨picked.identifier, none⟩ := by
  induction raws generalizing p with
  | nil => rfl
  | cons raw rest ih =>
      have hhands : p.Hands (p.pick raw).1 (p.pick raw).2 := p.answer_hands (.column raw)
      have hstable : IsStable (p.pick raw).1.identifier :=
        p.claim_isStable (sanitize_isStable h raw) raw
      have hpick := pick_of_isStable hstable hhands.free
      rw [← hhands.next_eq] at hpick
      have hfallback : (p.pick raw).2.fallback = p.fallback := by
        rw [hhands.next_eq, take]
      simp only [pickAll, List.map_cons, hpick, ih (hfallback ▸ h)]

end Picker

end Identifier

namespace Mapping

theorem ofHeadersAt_warnings_eq_nil {headers : List Text} (firstColumn : Nat) {options : Options}
    (h : ∀ picked ∈ (pickerFor options).pickAll headers, picked.change = none) :
    (ofHeadersAt headers firstColumn options).warnings = [] := by
  rw [warnings, List.map_eq_nil_iff, ofHeadersAt, List.filterMap_eq_nil_iff]
  rintro ⟨picked, i⟩ hmem
  rw [Option.map_eq_none_iff]
  exact h picked (List.fst_mem_of_mem_zipIdx hmem)

/-- A mapping whose headers are the identifiers of a mapping with the same options keeps every one
of them, without a warning, when the fallback is left alone too. -/
theorem ofHeadersAt_again (headers : List Text) (firstColumn : Nat) {options : Options}
    (h : Identifier.sanitize Identifier.defaultFallback options.fallbackColumnName =
      options.fallbackColumnName) :
    let m := ofHeadersAt headers firstColumn options
    let again := ofHeadersAt m.identifiers firstColumn options
    again.identifiers = m.identifiers ∧ again.warnings = [] := by
  intro m again
  have hfallback : Identifier.IsStable (pickerFor options).fallback :=
    (Identifier.sanitize_eq_self_iff Identifier.defaultFallback_isStable).mp h
  have hpicked : (pickerFor options).pickAll m.identifiers =
      ((pickerFor options).pickAll headers).map fun picked => ⟨picked.identifier, none⟩ :=
    Identifier.Picker.pickAll_identifiers hfallback headers
  constructor
  · calc again.identifiers
      _ = ((pickerFor options).pickAll m.identifiers).map (·.identifier) := rfl
      _ = ((pickerFor options).pickAll headers).map (·.identifier) := by
        rw [hpicked, List.map_map]
        rfl
      _ = m.identifiers := rfl
  · apply ofHeadersAt_warnings_eq_nil
    rw [hpicked]
    intro picked hmem
    obtain ⟨source, -, rfl⟩ := List.mem_map.mp hmem
    rfl

theorem ofHeadersAt_again_numbered :
    let headers := ["Q2", "q2", "2023", "2023!", "--", "??", "Q2_2", "class"].map String.toList
    let options : Options := { fallbackColumnName := "Total".toList }
    let m := ofHeadersAt headers 24 options
    let again := ofHeadersAt m.identifiers 24 options
    Identifier.sanitize Identifier.defaultFallback options.fallbackColumnName =
        options.fallbackColumnName ∧
      m.identifiers = ["Q2", "q2_2", "_2023", "_2023_2", "Total", "Total2", "Q2_2_2",
        "class2"].map String.toList ∧
      again.identifiers = m.identifiers ∧ again.warnings = [] := by
  intro headers options m again
  have hfallback : Identifier.sanitize Identifier.defaultFallback options.fallbackColumnName =
      options.fallbackColumnName := by decide +kernel
  exact ⟨hfallback, by decide +kernel, ofHeadersAt_again headers 24 hfallback⟩

/-- A fallback that is not left alone is kept by the first mapping only. -/
example :
    let options : Options := { fallbackColumnName := "Total_".toList }
    let m := ofHeadersAt ["--".toList] 0 options
    m.identifiers = ["Total_".toList] ∧
      (ofHeadersAt m.identifiers 0 options).identifiers = ["Total".toList] := by decide +kernel

end Mapping

end ColumnFormula
