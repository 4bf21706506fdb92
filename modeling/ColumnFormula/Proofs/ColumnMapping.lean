import Mathlib
import ColumnFormula.Mapping
import ColumnFormula.Proofs.FreshIdentifiers
import ColumnFormula.Sheet.Basic

namespace ColumnFormula

namespace Mapping

theorem get?_eq_some_iff {m : Mapping} {letters identifier : Text} :
    m.get? letters = some identifier ↔ ∃ column, Column.index? letters = some column ∧
      m.firstColumn ≤ column ∧ m.identifiers[column - m.firstColumn]? = some identifier := by
  rw [get?, Option.bind_eq_bind, Option.bind_eq_some_iff]
  constructor
  · rintro ⟨column, hindex, h⟩
    split at h
    · rename_i hle
      exact ⟨column, hindex, hle, h⟩
    · contradiction
  · rintro ⟨column, hindex, hle, h⟩
    exact ⟨column, hindex, by rw [if_pos hle]; exact h⟩

theorem exists_of_get? {m : Mapping} {letters identifier : Text}
    (h : m.get? letters = some identifier) :
    ∃ i, letters = Column.letters (m.firstColumn + i) ∧ m.identifiers[i]? = some identifier := by
  obtain ⟨column, hindex, hle, hidentifier⟩ := get?_eq_some_iff.mp h
  refine ⟨column - m.firstColumn, ?_, hidentifier⟩
  rw [Nat.add_sub_cancel' hle]
  exact (Column.index?_eq_some_iff.mp hindex).1

theorem get?_letters {m : Mapping} {i : Nat} {identifier : Text}
    (hbound : m.firstColumn + i + 1 < Column.indexBound) (h : m.identifiers[i]? = some identifier) :
    m.get? (Column.letters (m.firstColumn + i)) = some identifier := by
  refine get?_eq_some_iff.mpr ⟨m.firstColumn + i, ?_, Nat.le_add_right _ _, ?_⟩
  · exact Column.index?_eq_some_iff.mpr ⟨rfl, hbound⟩
  · rwa [Nat.add_sub_cancel_left]

theorem get?_eq_some_iff_getElem? {m : Mapping}
    (hbound : m.firstColumn + m.identifiers.length < Column.indexBound)
    {letters identifier : Text} :
    m.get? letters = some identifier ↔
      ∃ i, letters = Column.letters (m.firstColumn + i) ∧ m.identifiers[i]? = some identifier := by
  constructor
  · exact exists_of_get?
  · rintro ⟨i, rfl, hidentifier⟩
    have hi := (List.getElem?_eq_some_iff.mp hidentifier).1
    exact get?_letters (by omega) hidentifier

theorem entries_length (m : Mapping) : m.entries.length = m.identifiers.length := by
  simp [entries]

theorem entries_getElem?_eq_some_iff {m : Mapping}
    (hbound : m.firstColumn + m.identifiers.length < Column.indexBound) {i : Nat}
    {letters identifier : Text} :
    m.entries[i]? = some (letters, identifier) ↔
      letters = Column.letters (m.firstColumn + i) ∧ m.identifiers[i]? = some identifier := by
  have hafter : i < m.identifiers.length →
      Column.after m.firstColumn i = m.firstColumn + i := by
    intro hi
    exact Column.after_of_lt (by omega)
  simp only [entries, List.getElem?_map, List.getElem?_zipIdx, Option.map_map,
    Option.map_eq_some_iff, Function.comp_apply, Nat.zero_add, Prod.mk.injEq]
  constructor
  · rintro ⟨s, hs, rfl, rfl⟩
    rw [hafter (List.getElem?_eq_some_iff.mp hs).1]
    exact ⟨rfl, hs⟩
  · rintro ⟨rfl, hidentifier⟩
    rw [← hafter (List.getElem?_eq_some_iff.mp hidentifier).1]
    exact ⟨identifier, hidentifier, rfl, rfl⟩

theorem ofHeadersAt_identifiers_length (headers : List Text) (firstColumn : Nat)
    (options : Options) :
    (ofHeadersAt headers firstColumn options).identifiers.length = headers.length := by
  simp [ofHeadersAt, Identifier.Picker.pickAll_length]

theorem ofHeadersAt_acceptable (headers : List Text) (firstColumn : Nat) {options : Options}
    {identifier : Text} (h : identifier ∈ (ofHeadersAt headers firstColumn options).identifiers) :
    Identifier.Acceptable options.reservedWords identifier := by
  simp only [ofHeadersAt, Identifier.Picker.pickAll_eq_answerAll] at h
  obtain ⟨picked, hpicked, rfl⟩ := List.mem_map.mp h
  obtain ⟨hvalid, hfree⟩ := Identifier.Picker.answerAll_isFree picked hpicked
  exact Identifier.Picker.acceptable_of_isFree hvalid hfree

theorem ofHeadersAt_isValid {headers : List Text} {firstColumn : Nat} {options : Options}
    {identifier : Text} (h : identifier ∈ (ofHeadersAt headers firstColumn options).identifiers) :
    Identifier.isValid identifier :=
  (ofHeadersAt_acceptable headers firstColumn h).valid

theorem ofHeadersAt_pairwise (headers : List Text) (firstColumn : Nat) (options : Options) :
    (ofHeadersAt headers firstColumn options).identifiers.Pairwise fun a b =>
      Text.sameIgnoringCase a b = false := by
  simp only [ofHeadersAt, Identifier.Picker.pickAll_eq_answerAll, List.pairwise_map]
  exact Identifier.Picker.answerAll_pairwise _ _

theorem ofHeadersAt_sameIgnoringCase {headers : List Text} {firstColumn : Nat} {options : Options}
    {i j : Nat} {a b : Text}
    (ha : (ofHeadersAt headers firstColumn options).identifiers[i]? = some a)
    (hb : (ofHeadersAt headers firstColumn options).identifiers[j]? = some b) (hne : i ≠ j) :
    Text.sameIgnoringCase a b = false := by
  have hpairwise := List.pairwise_iff_getElem.mp (ofHeadersAt_pairwise headers firstColumn options)
  obtain ⟨hi, rfl⟩ := List.getElem?_eq_some_iff.mp ha
  obtain ⟨hj, rfl⟩ := List.getElem?_eq_some_iff.mp hb
  rcases Nat.lt_or_gt_of_ne hne with hlt | hgt
  · exact hpairwise i j hi hj hlt
  · rw [Text.sameIgnoringCase_comm]
    exact hpairwise j i hj hi hgt

theorem columns_letters_eq (s : Sheet) (options : Options) :
    s.columns.map (·.letters) =
      (ofHeadersAt s.headers s.firstColumn options).entries.map (·.1) := by
  apply List.ext_getElem
  · simp [Sheet.columns, entries_length, ofHeadersAt_identifiers_length]
  · intro i h₁ h₂
    simp [Sheet.columns, Sheet.describe, entries, ofHeadersAt]

theorem mem_entries_fst_iff {m : Mapping}
    (hbound : m.firstColumn + m.identifiers.length < Column.indexBound) {letters : Text} :
    letters ∈ m.entries.map (·.1) ↔ (m.get? letters).isSome := by
  rw [Option.isSome_iff_exists, List.mem_map]
  constructor
  · rintro ⟨⟨letters, identifier⟩, hentry, rfl⟩
    obtain ⟨i, hi⟩ := List.mem_iff_getElem?.mp hentry
    obtain ⟨hletters, hidentifier⟩ := (entries_getElem?_eq_some_iff hbound).mp hi
    exact ⟨identifier, (get?_eq_some_iff_getElem? hbound).mpr ⟨i, hletters, hidentifier⟩⟩
  · rintro ⟨identifier, hget⟩
    obtain ⟨i, hletters, hidentifier⟩ := (get?_eq_some_iff_getElem? hbound).mp hget
    have hentry := (entries_getElem?_eq_some_iff hbound).mpr ⟨hletters, hidentifier⟩
    exact ⟨(letters, identifier), List.mem_of_getElem? hentry, rfl⟩

/-- The columns of headers from the first column on, and the identifiers of a mapping, one to one.
-/
structure Corresponds (m : Mapping) (headers : List Text) (firstColumn : Nat) : Prop where
  get?_iff : ∀ letters identifier, m.get? letters = some identifier ↔
    ∃ i < headers.length, letters = Column.letters (firstColumn + i) ∧
      m.identifiers[i]? = some identifier
  entries_length : m.entries.length = headers.length
  entries_iff : ∀ i letters identifier, m.entries[i]? = some (letters, identifier) ↔
    letters = Column.letters (firstColumn + i) ∧ m.identifiers[i]? = some identifier
  distinct : ∀ letters letters' identifier identifier', m.get? letters = some identifier →
    m.get? letters' = some identifier' → letters ≠ letters' →
    Text.sameIgnoringCase identifier identifier' = false
  /-- The letters of a sheet's columns are those that lead to an identifier. -/
  sheet_letters : ∀ sheet : Sheet, sheet.headers = headers → sheet.firstColumn = firstColumn →
    sheet.columns.map (·.letters) = m.entries.map (·.1) ∧
      ∀ letters, letters ∈ sheet.columns.map (·.letters) ↔ (m.get? letters).isSome

/-- The columns of a sheet and the identifiers made from its headers correspond one to one. -/
theorem ofHeadersAt_corresponds {headers : List Text} {firstColumn : Nat} (options : Options)
    (hbound : firstColumn + headers.length < Column.indexBound) :
    (ofHeadersAt headers firstColumn options).Corresponds headers firstColumn := by
  have hlength := ofHeadersAt_identifiers_length headers firstColumn options
  have hbound' : (ofHeadersAt headers firstColumn options).firstColumn +
      (ofHeadersAt headers firstColumn options).identifiers.length < Column.indexBound :=
    hlength.symm ▸ hbound
  constructor
  case get?_iff =>
    intro letters identifier
    rw [get?_eq_some_iff_getElem? hbound']
    constructor
    · rintro ⟨i, hletters, hidentifier⟩
      have hi := (List.getElem?_eq_some_iff.mp hidentifier).1
      exact ⟨i, hlength ▸ hi, hletters, hidentifier⟩
    · rintro ⟨i, -, hletters, hidentifier⟩
      exact ⟨i, hletters, hidentifier⟩
  case entries_length => rw [entries_length, hlength]
  case entries_iff =>
    intro i letters identifier
    exact entries_getElem?_eq_some_iff hbound'
  case distinct =>
    intro letters letters' identifier identifier' hget hget' hne
    obtain ⟨i, rfl, hi⟩ := exists_of_get? hget
    obtain ⟨j, rfl, hj⟩ := exists_of_get? hget'
    have hij : i ≠ j := by
      rintro rfl
      exact hne rfl
    exact ofHeadersAt_sameIgnoringCase hi hj hij
  case sheet_letters =>
    rintro sheet rfl rfl
    refine ⟨columns_letters_eq sheet options, ?_⟩
    intro letters
    rw [columns_letters_eq sheet options]
    exact mem_entries_fst_iff hbound'

theorem ofHeadersAt_corresponds_wide :
    let headers := ["Total $".toList, "total".toList, "--".toList]
    24 + headers.length < Column.indexBound ∧
      (ofHeadersAt headers 24 {}).entries = [("Y".toList, "Total".toList),
        ("Z".toList, "total2".toList), ("AA".toList, "Column".toList)] ∧
      (ofHeadersAt headers 24 {}).Corresponds headers 24 := by
  intro headers
  have hbound : 24 + headers.length < Column.indexBound := by decide
  exact ⟨hbound, by decide +kernel, ofHeadersAt_corresponds {} hbound⟩

end Mapping

end ColumnFormula
