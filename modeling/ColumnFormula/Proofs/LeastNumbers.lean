import ColumnFormula.Proofs.FreshIdentifiers

namespace ColumnFormula.Identifier

open Text

def Request.raw : Request → Text
  | .column raw => raw
  | .table raw => raw

namespace Picker

/-- The identifier that a request gets when it is free. -/
def base (p : Picker) : Request → Text
  | .column raw => sanitize p.fallback raw
  | .table raw => sanitizeTable raw

theorem answer_eq_claim (p : Picker) (request : Request) :
    p.answer request = p.claim (p.base request) request.raw := by
  cases request with
  | column raw => rfl
  | table raw => rfl

/-- The picker behind the answers to requests, one after the other. -/
def answered (p : Picker) (requests : List Request) : Picker :=
  requests.foldl (fun p request => (p.answer request).2) p

/-- The picker has the names of some further words, and of a number of requests, no two the same. -/
structure HasNames (words : List Text) (requests : Nat) (p : Picker) : Prop where
  reserved : p.reserved = words.map upperCase
  taken_length : p.taken.length = requests
  taken_nodup : p.taken.Nodup

theorem HasNames.answer {words : List Text} {n : Nat} {p : Picker} (h : HasNames words n p)
    (request : Request) : HasNames words (n + 1) (p.answer request).2 := by
  have hhands := p.answer_hands request
  have hnew : upperCase (p.answer request).1.identifier ∉ p.taken := fun hmem =>
    (isFree_iff.mp hhands.free).2 (List.mem_append_right _ hmem)
  rw [hhands.next_eq, take]
  exact ⟨h.reserved, congrArg (· + 1) h.taken_length, List.nodup_cons.mpr ⟨hnew, h.taken_nodup⟩⟩

theorem HasNames.answered {words : List Text} {n : Nat} {p : Picker} (h : HasNames words n p)
    (requests : List Request) : HasNames words (n + requests.length) (p.answered requests) := by
  induction requests generalizing n p with
  | nil => exact h
  | cons request rest ih =>
      have hrest := ih (h.answer request)
      rw [Nat.add_right_comm] at hrest
      exact hrest

theorem hasNames_withReserved (words : List Text) (fallback : Text) :
    HasNames words 0 (({ fallback } : Picker).withReserved words) :=
  ⟨List.nil_append _, rfl, List.nodup_nil⟩

theorem names_card_le (p : Picker) :
    p.names.card ≤ p.taken.toFinset.card + p.reserved.toFinset.card := by
  rw [names, List.toFinset_append, Nat.add_comm]
  exact Finset.card_union_le _ _

theorem stem_eq (base : Text) :
    stem base = if base.getLast?.any Char.isDigit then base ++ ['_'] else base := by
  rw [stem]
  cases base.getLast? with
  | none => rfl
  | some c => rfl

/-- After any requests, a request gets the identifier made from its text when that is free.
Otherwise it gets, with a warning, the identifier and the least number from two on that makes it
free, with an underscore between two digits. The number exceeds the count of names by two at most,
and counting up ends there. -/
theorem answer_isLeast (words : List Text) (fallback : Option Text) (requests : List Request)
    (request : Request) :
    let p := (({ fallback := fallback.getD defaultFallback } : Picker).withReserved words).answered
      requests
    let count := p.taken.toFinset.card + p.reserved.toFinset.card
    let base := p.base request
    let front := if base.getLast?.any Char.isDigit then base ++ ['_'] else base
    count < 2 ^ 32 - 2 →
      count = requests.length + (words.map upperCase).toFinset.card ∧
      (p.isFree base → (p.answer request).1 = ⟨base, none⟩) ∧
      (p.isFree base = false → ∃ k change,
        (p.answer request).1 = ⟨front ++ ofNat k, some change⟩ ∧
        IsLeast {k | 2 ≤ k ∧ p.isFree (front ++ ofNat k)} k ∧
        p.countUp? front 2 = some k ∧ k ≤ count + 2) := by
  intro p count base front hcount
  have hnames := (hasNames_withReserved words (fallback.getD defaultFallback)).answered requests
  refine ⟨?_, ?_, ?_⟩
  · have htaken : p.taken.toFinset.card = requests.length := by
      rw [List.toFinset_card_of_nodup hnames.taken_nodup, hnames.taken_length, Nat.zero_add]
    have hreserved : p.reserved = words.map upperCase := hnames.reserved
    rw [← htaken, ← hreserved]
  · intro hfree
    rw [answer_eq_claim, claim, if_pos hfree]
  · intro hfree
    have hfront : stem base = front := stem_eq base
    have hleast := p.suffix_isLeast front
    have hle : p.suffix front ≤ count + 2 :=
      (p.suffix_le front).trans (Nat.add_le_add_right p.names_card_le 2)
    rw [answer_eq_claim, claim, if_neg (by simp [base, hfree]), hfront, number_eq_suffix]
    have hbound : p.suffix front < numberBound := by
      rw [numberBound]
      omega
    exact ⟨p.suffix front, _, rfl, hleast, countUp?_of_isLeast hleast hbound, hle⟩

theorem answer_isLeast_numbered :
    let words := ["q2_3".toList]
    let requests : List Request := [.column "Q2".toList, .column "q2".toList]
    let p := (({ fallback := defaultFallback } : Picker).withReserved words).answered requests
    let count := p.taken.toFinset.card + p.reserved.toFinset.card
    let base := p.base (.table "Q2 ".toList)
    let front := if base.getLast?.any Char.isDigit then base ++ ['_'] else base
    count < 2 ^ 32 - 2 ∧ p.isFree base = false ∧ front = "Q2_".toList ∧
      (p.answer (.table "Q2 ".toList)).1.identifier = "Q2_4".toList ∧
      ∃ k change, (p.answer (.table "Q2 ".toList)).1 = ⟨front ++ ofNat k, some change⟩ ∧
        IsLeast {k | 2 ≤ k ∧ p.isFree (front ++ ofNat k)} k ∧
        p.countUp? front 2 = some k ∧ k ≤ count + 2 := by
  intro words requests p count base front
  have hcount : count < 2 ^ 32 - 2 := by decide +kernel
  have hfree : p.isFree base = false := by decide +kernel
  obtain ⟨-, -, hnumbered⟩ := answer_isLeast words none requests (.table "Q2 ".toList) hcount
  exact ⟨hcount, hfree, by decide +kernel, by decide +kernel, hnumbered hfree⟩

end Picker

end ColumnFormula.Identifier
