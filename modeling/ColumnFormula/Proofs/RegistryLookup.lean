import Mathlib
import ColumnFormula.Registry

namespace ColumnFormula.Registry

theorem positionOf?_eq_some_iff {r : Registry} {name : Text} {i : Nat} :
    r.positionOf? name = some i ↔
      IsLeast {j | ∃ s, r.sheets[j]? = some s ∧ Text.upperCase s.1 = Text.upperCase name} i := by
  simp only [positionOf?, sameName, List.findIdx?_eq_some_iff_getElem, beq_iff_eq]
  constructor
  · rintro ⟨hi, hsame, hfirst⟩
    refine ⟨⟨r.sheets[i], List.getElem?_eq_getElem hi, hsame⟩, ?_⟩
    rintro j ⟨s, hs, hname⟩
    obtain ⟨hj, rfl⟩ := List.getElem?_eq_some_iff.mp hs
    exact Nat.le_of_not_lt fun hlt => hfirst j hlt hname
  · rintro ⟨⟨s, hs, hname⟩, hleast⟩
    obtain ⟨hi, rfl⟩ := List.getElem?_eq_some_iff.mp hs
    refine ⟨hi, hname, ?_⟩
    intro j hlt hsame
    have hj : j < r.sheets.length := Nat.lt_trans hlt hi
    exact Nat.not_le_of_lt hlt (hleast ⟨_, List.getElem?_eq_getElem hj, hsame⟩)

theorem get?_eq_some_iff {r : Registry} {name : Text} {m : Mapping} :
    r.get? name = some m ↔ ∃ (j : Nat) (own : Text), r.sheets[j]? = some (own, m) ∧
      Text.upperCase own = Text.upperCase name ∧
      ∀ i < j, ∀ earlier, r.sheets[i]? = some earlier →
        Text.upperCase earlier.1 ≠ Text.upperCase name := by
  rw [get?, Option.bind_eq_some_iff]
  constructor
  · rintro ⟨j, hj, hm⟩
    obtain ⟨⟨⟨own, mapping⟩, hown, hsame⟩, hleast⟩ := positionOf?_eq_some_iff.mp hj
    rw [at?, hown] at hm
    obtain rfl := Option.some.inj hm
    refine ⟨j, own, hown, hsame, ?_⟩
    intro i hij earlier hearlier hname
    exact Nat.not_le_of_lt hij (hleast ⟨earlier, hearlier, hname⟩)
  · rintro ⟨j, own, hown, hsame, hfirst⟩
    refine ⟨j, positionOf?_eq_some_iff.mpr ⟨⟨_, hown, hsame⟩, ?_⟩, by rw [at?, hown]; rfl⟩
    rintro i ⟨earlier, hearlier, hname⟩
    exact Nat.le_of_not_lt fun hij => hfirst i hij earlier hearlier hname

theorem get?_congr (r : Registry) {name name' : Text}
    (h : Text.upperCase name = Text.upperCase name') : r.get? name = r.get? name' := by
  have hsame : (fun s : Text × Mapping => sameName s.1 name) = fun s => sameName s.1 name' := by
    funext s
    rw [sameName, sameName, h]
  rw [get?, get?, positionOf?, positionOf?, hsame]

theorem exists_mem_of_get? {r : Registry} {name : Text} {m : Mapping} (h : r.get? name = some m) :
    ∃ own, (own, m) ∈ r.sheets := by
  obtain ⟨j, own, hj, -⟩ := get?_eq_some_iff.mp h
  exact ⟨own, List.mem_of_getElem? hj⟩

end ColumnFormula.Registry
