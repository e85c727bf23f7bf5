import Mathlib.Data.List.Range
import Mathlib.Data.Set.Insert

/-! A bounded linear search: visit positions in order and stop once enough are accepted.

What it finds is a prefix of all there is to find. A second part tells when the
prefix alone shows whether all of it is one value. The last parts are the search
for the first heaviest candidate, and searches that only some items let past them.
-/

set_option autoImplicit false

namespace Foundation

variable {β : Type} (accept : Nat → Option β) (maximum : Nat)

/-- Visit `remaining` positions from `position` on. The result is what was
accepted, after what had been found before, and the number of positions visited. -/
def search : (remaining position : Nat) → (found : List β) → List β × Nat
  | 0, _, found => (found, 0)
  | remaining + 1, position, found =>
      if found.length < maximum then
        let outcome := search remaining (position + 1) (found ++ (accept position).toList)
        (outcome.1, outcome.2 + 1)
      else (found, 0)

/-- The search finds a prefix of everything acceptable, cut at the maximum. -/
theorem search_found (remaining position : Nat) (found : List β) :
    (search accept maximum remaining position found).1 =
      found ++ ((List.range' position remaining).filterMap accept).take (maximum - found.length) := by
  induction remaining generalizing position found with
  | zero => simp [search]
  | succ remaining ih =>
    rw [List.range'_succ]
    -- a full list stops the search at once; otherwise the position is visited
    by_cases room : found.length < maximum
    · obtain ⟨left, counted⟩ := Nat.exists_eq_add_of_lt room
      cases verdict : accept position with
      | none => simp [search, room, ih, verdict]
      | some value =>
        have before : maximum - found.length = left + 1 := by omega
        have after : maximum - (found.length + 1) = left := by omega
        simp [search, room, ih, verdict, before, after]
    · have full : maximum - found.length = 0 := by omega
      simp [search, room, full]

theorem search_zero_found (remaining : Nat) :
    (search accept maximum remaining 0 []).1 =
      ((List.range remaining).filterMap accept).take maximum := by
  rw [search_found, List.range_eq_range']
  simp

theorem find?_getD_ne_iff {accepts : β → Bool} {none : β} (proper : ∀ value, accepts value = true → value ≠ none)
    (candidates : List β) :
    (candidates.find? accepts).getD none ≠ none ↔ ∃ value ∈ candidates, accepts value = true := by
  rw [← List.find?_isSome]
  cases found : candidates.find? accepts with
  | none => simp
  | some value => simpa using proper value (List.find?_some found)

theorem find?_map_range_eq_some {accepts : β → Bool} {value : Nat → β} {count : Nat} {found : β}
    (first : ((List.range count).map value).find? accepts = some found) :
    ∃ index < count, value index = found ∧ accepts (value index) = true ∧
      ∀ earlier < index, accepts (value earlier) = false := by
  rw [List.find?_map, Option.map_eq_some_iff] at first
  obtain ⟨index, first, same⟩ := first
  obtain ⟨accepted, member, before⟩ := List.find?_range_eq_some.mp first
  refine ⟨index, List.mem_range.mp member, same, accepted, fun earlier lower => ?_⟩
  have refused := before earlier lower
  rwa [Bool.not_eq_true'] at refused

/-- What must hold of the rest for a prefix to show whether all values are one. -/
def Decisive : (found rest : List β) → Prop
  | [], rest => ∀ value ∈ rest, ∃ other ∈ rest, other ≠ value
  | [value], rest => ∀ other ∈ rest, other = value
  | value :: second :: more, rest => ∃ other ∈ second :: more ++ rest, other ≠ value

instance decidableDecisive [DecidableEq β] : ∀ found rest : List β, Decidable (Decisive found rest)
  | [], rest => inferInstanceAs (Decidable (∀ value ∈ rest, ∃ other ∈ rest, other ≠ value))
  | [value], rest => inferInstanceAs (Decidable (∀ other ∈ rest, other = value))
  | value :: second :: more, rest => inferInstanceAs (Decidable (∃ other ∈ second :: more ++ rest, other ≠ value))

theorem unique_iff_decisive (found rest : List β) :
    (∀ value, found = [value] ↔ {other | other ∈ found ++ rest} = {value}) ↔ Decisive found rest := by
  simp only [Set.eq_singleton_iff_unique_mem, Set.mem_ofPred_eq]
  match found with
  | [] =>
    simp only [List.nil_append, Decisive]
    constructor
    · intro verdict value member
      by_contra none
      push Not at none
      exact nomatch (verdict value).mpr ⟨member, none⟩
    · intro differ value
      refine iff_of_false nofun fun ⟨member, same⟩ => ?_
      obtain ⟨other, also, different⟩ := differ value member
      exact different (same other also)
  | [first] =>
    simp only [List.cons_append, List.nil_append, Decisive, List.mem_cons, List.cons.injEq, and_true]
    constructor
    · intro verdict other member
      exact ((verdict first).mp rfl).2 other (Or.inr member)
    · intro same value
      constructor
      · rintro rfl
        exact ⟨Or.inl rfl, fun other member => member.elim id (same other)⟩
      · rintro ⟨_, all⟩
        exact all first (Or.inl rfl)
  | first :: second :: more =>
    simp only [Decisive, List.cons_append]
    constructor
    · intro verdict
      by_contra none
      push Not at none
      have all : ∀ other ∈ first :: second :: (more ++ rest), other = first :=
        List.forall_mem_cons.mpr ⟨rfl, none⟩
      exact nomatch (verdict first).mpr ⟨List.mem_cons_self, all⟩
    · rintro ⟨other, member, different⟩ value
      refine iff_of_false nofun fun ⟨_, same⟩ => different ?_
      have one := same first List.mem_cons_self
      exact (same other (List.mem_cons_of_mem _ member)).trans one.symm

/-- Keeping the heaviest candidate so far, the first of those that are equal. -/
def heaviest (weight : β → Nat) (best : β × Nat) (candidates : List β) : β × Nat :=
  candidates.foldl (fun best candidate =>
    if weight candidate > best.2 then (candidate, weight candidate) else best) best

theorem heaviest_spec (weight : β → Nat) (best : β × Nat) (candidates : List β) :
    best.2 ≤ (heaviest weight best candidates).2 ∧
      (∀ candidate ∈ candidates, weight candidate ≤ (heaviest weight best candidates).2) ∧
      (heaviest weight best candidates = best ∨
        ∃ candidate ∈ candidates, heaviest weight best candidates = (candidate, weight candidate)) := by
  induction candidates generalizing best with
  | nil => simp [heaviest]
  | cons candidate rest ih =>
    have step : heaviest weight best (candidate :: rest) =
        heaviest weight (if weight candidate > best.2 then (candidate, weight candidate) else best) rest := rfl
    rw [step]
    split
    next heavier =>
      obtain ⟨least, others, held⟩ := ih (candidate, weight candidate)
      refine ⟨Nat.le_of_lt (Nat.lt_of_lt_of_le heavier least), List.forall_mem_cons.mpr ⟨least, others⟩, Or.inr ?_⟩
      rcases held with same | ⟨other, member, same⟩
      · exact ⟨candidate, List.mem_cons_self, same⟩
      · exact ⟨other, List.mem_cons_of_mem _ member, same⟩
    next lighter =>
      obtain ⟨least, others, held⟩ := ih best
      refine ⟨least, List.forall_mem_cons.mpr ⟨by omega, others⟩, held.imp_right fun ⟨other, member, same⟩ => ?_⟩
      exact ⟨other, List.mem_cons_of_mem _ member, same⟩

/-- An item that ends a search, with none but passed ones before it. -/
def Reached (passed ends : β → Prop) (items : List β) : Prop :=
  ∃ before item after, items = before ++ item :: after ∧ ends item ∧ ∀ earlier ∈ before, passed earlier

variable {passed ends : β → Prop}

@[simp] theorem not_reached_nil : ¬Reached passed ends [] := by
  rintro ⟨before, item, after, split, _⟩
  simp at split

theorem reached_cons {first : β} {later : List β} :
    Reached passed ends (first :: later) ↔ ends first ∨ passed first ∧ Reached passed ends later := by
  constructor
  · rintro ⟨before, item, after, same, good, others⟩
    cases before with
    | nil =>
      cases same
      exact Or.inl good
    | cons head rest =>
      obtain ⟨rfl, rfl⟩ := List.cons.inj same
      obtain ⟨skipped, others⟩ := List.forall_mem_cons.mp others
      exact Or.inr ⟨skipped, rest, item, after, rfl, good, others⟩
  · rintro (good | ⟨skipped, before, item, after, rfl, good, others⟩)
    · exact ⟨[], first, later, rfl, good, nofun⟩
    · exact ⟨first :: before, item, after, rfl, good, List.forall_mem_cons.mpr ⟨skipped, others⟩⟩

end Foundation
