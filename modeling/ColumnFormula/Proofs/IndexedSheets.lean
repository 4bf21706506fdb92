import Mathlib
import ColumnFormula.Proofs.RegistryLookup

namespace ColumnFormula.Registry

def insertAll (r : Registry) (sheets : List (Text × Mapping)) : Registry :=
  sheets.foldl (fun r s => r.insert s.1 s.2) r

theorem insertAll_sheets (r : Registry) (sheets : List (Text × Mapping)) :
    (r.insertAll sheets).sheets = r.sheets ++ sheets := by
  induction sheets generalizing r with
  | nil => exact (List.append_nil _).symm
  | cons s rest ih =>
      calc ((r.insert s.1 s.2).insertAll rest).sheets
        _ = (r.insert s.1 s.2).sheets ++ rest := ih _
        _ = r.sheets ++ s :: rest := List.append_assoc ..

/-- What look-ups answer when certain sheets have been inserted, one after the other. -/
structure Answers (sheets : List (Text × Mapping)) (at? : Nat → Option Mapping)
    (positionOf? : Text → Option Nat) (get? : Text → Option Mapping) : Prop where
  at?_eq : ∀ i, at? i = sheets[i]?.map (·.2)
  positionOf?_eq_some_iff : ∀ name i, positionOf? name = some i ↔
    IsLeast {j | ∃ s, sheets[j]? = some s ∧ Text.upperCase s.1 = Text.upperCase name} i
  positionOf?_eq_none_iff : ∀ name, positionOf? name = none ↔
    ∀ s ∈ sheets, Text.upperCase s.1 ≠ Text.upperCase name
  get?_eq : ∀ name, get? name = (positionOf? name).bind at?

theorem positionOf?_eq_none_iff {r : Registry} {name : Text} :
    r.positionOf? name = none ↔
      ∀ s ∈ r.sheets, Text.upperCase s.1 ≠ Text.upperCase name := by
  simp only [positionOf?, sameName, List.findIdx?_eq_none_iff, beq_eq_false_iff_ne]

theorem answers (r : Registry) : Answers r.sheets r.at? r.positionOf? r.get? :=
  ⟨fun _ => rfl, fun _ _ => positionOf?_eq_some_iff, fun _ => positionOf?_eq_none_iff, fun _ => rfl⟩

theorem at?_insertAll {r : Registry} {i : Nat} {m : Mapping} (h : r.at? i = some m)
    (later : List (Text × Mapping)) : (r.insertAll later).at? i = some m := by
  obtain ⟨s, hs, rfl⟩ := Option.map_eq_some_iff.mp h
  have hi := (List.getElem?_eq_some_iff.mp hs).1
  rw [at?, insertAll_sheets, List.getElem?_append_left hi, hs]
  rfl

theorem positionOf?_insertAll {r : Registry} {name : Text} {i : Nat}
    (h : r.positionOf? name = some i) (later : List (Text × Mapping)) :
    (r.insertAll later).positionOf? name = some i := by
  rw [positionOf?] at h
  rw [positionOf?, insertAll_sheets, List.findIdx?_append, h, Option.some_or]

theorem get?_insertAll {r : Registry} {name : Text} {m : Mapping} (h : r.get? name = some m)
    (later : List (Text × Mapping)) : (r.insertAll later).get? name = some m := by
  obtain ⟨i, hi, hm⟩ := Option.bind_eq_some_iff.mp h
  rw [get?, positionOf?_insertAll hi, Option.bind_some, at?_insertAll hm]

/-- A registry as an array of mappings, with a table of the first position of each name. -/
structure Indexed where
  mappings : Array Mapping := #[]
  /-- The names are in upper case. -/
  positions : Std.HashMap Text Nat := {}

namespace Indexed

/-- One more sheet at the end, and its position. A name that has a position keeps it. -/
def insert (t : Indexed) (name : Text) (mapping : Mapping) : Nat × Indexed :=
  (t.mappings.size,
    { mappings := t.mappings.push mapping
      positions := t.positions.insertIfNew (Text.upperCase name) t.mappings.size })

def insertAll (t : Indexed) : List (Text × Mapping) → List Nat × Indexed
  | [] => ([], t)
  | s :: rest =>
    let (position, next) := t.insert s.1 s.2
    let (positions, last) := next.insertAll rest
    (position :: positions, last)

def at? (t : Indexed) (position : Nat) : Option Mapping := t.mappings[position]?

def positionOf? (t : Indexed) (name : Text) : Option Nat := t.positions[Text.upperCase name]?

def get? (t : Indexed) (name : Text) : Option Mapping := (t.positionOf? name).bind t.at?

/-- The array and the table say what the list of sheets says. -/
structure Represents (t : Indexed) (r : Registry) : Prop where
  mappings : t.mappings.toList = r.sheets.map (·.2)
  positions : ∀ key : Text, t.positions[key]? = r.sheets.findIdx? fun s => Text.upperCase s.1 == key

theorem represents_empty : Represents {} {} := ⟨rfl, fun _ => Std.HashMap.getElem?_empty⟩

theorem getElem?_insertIfNew_or (positions : Std.HashMap Text Nat) (name key : Text) (n : Nat) :
    (positions.insertIfNew name n)[key]? =
      positions[key]?.or (if name == key then some n else none) := by
  rw [Std.HashMap.getElem?_insertIfNew]
  by_cases hkey : name == key
  · obtain rfl := beq_iff_eq.mp hkey
    cases hposition : positions[name]? with
    | none => simp [Std.HashMap.mem_iff_isSome_getElem?, hposition]
    | some position => simp [Std.HashMap.mem_iff_isSome_getElem?, hposition]
  · simp [hkey]

namespace Represents

variable {t : Indexed} {r : Registry}

theorem size (h : Represents t r) : t.mappings.size = r.size := by
  rw [← Array.length_toList, h.mappings, List.length_map, Registry.size]

theorem insert (h : Represents t r) (name : Text) (mapping : Mapping) :
    (t.insert name mapping).1 = r.size ∧
      Represents (t.insert name mapping).2 (r.insert name mapping) := by
  refine ⟨h.size, ?_, ?_⟩
  · simp [Indexed.insert, Registry.insert, h.mappings]
  · intro key
    have hlast : [(name, mapping)].findIdx? (fun s => Text.upperCase s.1 == key) =
        if Text.upperCase name == key then some 0 else none := List.findIdx?_singleton
    rw [Registry.insert, List.findIdx?_append, hlast, Indexed.insert, getElem?_insertIfNew_or,
      h.positions, h.size, Registry.size]
    split
    · simp
    · simp

theorem insertAll (h : Represents t r) (sheets : List (Text × Mapping)) :
    (t.insertAll sheets).1 = List.range' r.size sheets.length ∧
      Represents (t.insertAll sheets).2 (r.insertAll sheets) := by
  induction sheets generalizing t r with
  | nil => exact ⟨rfl, h⟩
  | cons s rest ih =>
      obtain ⟨hposition, hnext⟩ := h.insert s.1 s.2
      obtain ⟨hpositions, hlast⟩ := ih hnext
      have hsize : (r.insert s.1 s.2).size = r.size + 1 := List.length_append
      rw [hsize] at hpositions
      refine ⟨?_, hlast⟩
      calc (t.insertAll (s :: rest)).1
        _ = (t.insert s.1 s.2).1 :: ((t.insert s.1 s.2).2.insertAll rest).1 := rfl
        _ = List.range' r.size (rest.length + 1) := by
          rw [hposition, hpositions, List.range'_succ]

theorem at?_eq (h : Represents t r) : t.at? = r.at? := by
  funext position
  rw [Indexed.at?, ← Array.getElem?_toList, h.mappings, List.getElem?_map, Registry.at?]

theorem positionOf?_eq (h : Represents t r) : t.positionOf? = r.positionOf? := by
  funext name
  exact h.positions _

theorem get?_eq (h : Represents t r) : t.get? = r.get? := by
  funext name
  rw [Indexed.get?, h.positionOf?_eq, h.at?_eq, Registry.get?]

end Represents

end Indexed

/-- After any insertions into an empty registry, each of which returns how many there were before
it, a position leads to the mapping that was inserted there and a name to the first sheet that has
it in upper case. An array with a table of positions answers alike, and sheets that come later
change no answer. -/
theorem insertAll_answers (sheets later : List (Text × Mapping)) :
    let r := ({} : Registry).insertAll sheets
    let (positions, t) := ({} : Indexed).insertAll sheets
    positions = List.range sheets.length ∧ r.size = sheets.length ∧
      Answers sheets r.at? r.positionOf? r.get? ∧ Answers sheets t.at? t.positionOf? t.get? ∧
      (∀ i m, r.at? i = some m → (r.insertAll later).at? i = some m) ∧
      (∀ name i, r.positionOf? name = some i → (r.insertAll later).positionOf? name = some i) ∧
      ∀ name m, r.get? name = some m → (r.insertAll later).get? name = some m := by
  intro r
  have hsheets : r.sheets = sheets := insertAll_sheets {} sheets
  have hanswers : Answers sheets r.at? r.positionOf? r.get? := hsheets ▸ r.answers
  obtain ⟨hpositions, hrepresents⟩ := Indexed.represents_empty.insertAll sheets
  refine ⟨?_, congrArg List.length hsheets, hanswers, ?_, ?_, ?_, ?_⟩
  · rw [List.range_eq_range']
    exact hpositions
  · rw [hrepresents.at?_eq, hrepresents.positionOf?_eq, hrepresents.get?_eq]
    exact hanswers
  · exact fun i m h => at?_insertAll h later
  · exact fun name i h => positionOf?_insertAll h later
  · exact fun name m h => get?_insertAll h later

theorem insertAll_answers_folded :
    let roads : Mapping := .ofIdentifiers "Roads".toList ["Length".toList]
    let rates : Mapping := .ofIdentifiers "Rates".toList ["Rate".toList]
    let sheets := [("Straße".toList, roads), ("Rates".toList, rates)]
    let later := [("STRASSE".toList, rates)]
    let r := ({} : Registry).insertAll sheets
    (r.at? 1 = some rates ∧ (r.insertAll later).at? 1 = some rates) ∧
      (r.positionOf? "strasse".toList = some 0 ∧
        (r.insertAll later).positionOf? "strasse".toList = some 0) ∧
      r.get? "strasse".toList = some roads ∧
        (r.insertAll later).get? "strasse".toList = some roads := by
  intro roads rates sheets later r
  obtain ⟨-, -, -, -, hat, hposition, hget⟩ := insertAll_answers sheets later
  have h₁ : r.at? 1 = some rates := by decide +kernel
  have h₂ : r.positionOf? "strasse".toList = some 0 := by decide +kernel
  have h₃ : r.get? "strasse".toList = some roads := by decide +kernel
  exact ⟨⟨h₁, hat _ _ h₁⟩, ⟨h₂, hposition _ _ h₂⟩, h₃, hget _ _ h₃⟩

end ColumnFormula.Registry
