import Mathlib.Algebra.Ring.Nat
import Mathlib.Data.List.Perm.Basic

/-! The threads of a machine as the list of their local states.

One thread moves at a time, so a step replaces one local state. The rules tell
what a step does to all threads at once: to a property that each of them has,
to the items they hold together, to their weights, and to how many of them are
at a place.
-/

set_option autoImplicit false

namespace Foundation.Threads

variable {τ η : Type} {threads : List τ} {index : Nat} {before after : τ}

theorem forall_set {good : τ → Prop} (all : ∀ thread ∈ threads, good thread) (moved : good after) :
    ∀ thread ∈ threads.set index after, good thread := by
  intro thread member
  rcases List.mem_or_eq_of_mem_set member with kept | rfl
  · exact all thread kept
  · exact moved

theorem mem_set_of_ne {thread : τ} (found : threads[index]? = some before) (member : thread ∈ threads)
    (other : thread ≠ before) : thread ∈ threads.set index after := by
  obtain ⟨place, at_⟩ := List.mem_iff_getElem?.mp member
  refine List.mem_iff_getElem?.mpr ⟨place, ?_⟩
  rw [List.getElem?_set_ne, at_]
  rintro rfl
  exact other (Option.some.inj (at_.symm.trans found))

theorem forall_set_iff {good : τ → Prop} (found : threads[index]? = some before)
    (same : good after ↔ good before) :
    (∀ thread ∈ threads.set index after, good thread) ↔ ∀ thread ∈ threads, good thread := by
  obtain ⟨inside, at_⟩ := List.getElem?_eq_some_iff.mp found
  constructor
  · intro all
    have moved : good after := all after (List.mem_set inside after)
    have back : (threads.set index after).set index before = threads := by
      rw [List.set_set, ← at_, List.set_getElem_self]
    rw [← back]
    exact forall_set all (same.mp moved)
  · intro all
    exact forall_set all (same.mpr (all before (List.mem_of_getElem? found)))

/-- What all threads hold, where `holds` tells what one of them holds. -/
def held (holds : τ → List η) (threads : List τ) : List η := threads.flatMap holds

/-- The conservation rule: where the stepping thread and its surroundings hold
the same items before and after the step, all threads and the surroundings do. -/
theorem held_set_perm (holds : τ → List η) (found : threads[index]? = some before) {outside outside' : List η}
    (balance : (outside' ++ holds after).Perm (outside ++ holds before)) :
    (outside' ++ held holds (threads.set index after)).Perm (outside ++ held holds threads) := by
  induction threads generalizing index outside outside' with
  | nil => cases found
  | cons first later ih =>
    cases index with
    | zero =>
      cases found
      rw [List.set_cons_zero, held, held, List.flatMap_cons, List.flatMap_cons, ← List.append_assoc,
        ← List.append_assoc]
      exact balance.append_right _
    | succ index =>
      have rest := (ih found balance).append_left (holds first)
      rw [List.set_cons_succ, held, held, List.flatMap_cons, List.flatMap_cons]
      exact (List.perm_append_comm_assoc _ _ _).trans (rest.trans (List.perm_append_comm_assoc _ _ _))

theorem held_eq_nil {holds : τ → List η} (none : ∀ thread ∈ threads, holds thread = []) :
    held holds threads = [] := List.flatMap_eq_nil_iff.mpr none

theorem sum_set_add (weight : τ → Nat) (found : threads[index]? = some before) (after : τ) :
    ((threads.set index after).map weight).sum + weight before = (threads.map weight).sum + weight after := by
  induction threads generalizing index with
  | nil => cases found
  | cons first later ih =>
    cases index with
    | zero =>
      cases found
      rw [List.set_cons_zero, List.map_cons, List.map_cons, List.sum_cons, List.sum_cons]
      omega
    | succ index =>
      have rest := ih found
      rw [List.set_cons_succ, List.map_cons, List.map_cons, List.sum_cons, List.sum_cons]
      omega

theorem countP_set_add (place : τ → Bool) (found : threads[index]? = some before) (after : τ) :
    (threads.set index after).countP place + (place before).toNat =
      threads.countP place + (place after).toNat := by
  induction threads generalizing index with
  | nil => cases found
  | cons first later ih =>
    cases index with
    | zero =>
      cases found
      rw [List.set_cons_zero, List.countP_cons, List.countP_cons]
      cases place before <;> cases place after <;> simp
    | succ index =>
      have rest := ih found
      rw [List.set_cons_succ, List.countP_cons, List.countP_cons]
      omega

end Foundation.Threads
