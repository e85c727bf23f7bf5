import Mathlib.Order.Basic

/-! The leftmost of the longest runs of positions with a property.

A search visits the positions in order. It keeps the best run that has ended,
and the length of the run that is still open. A run in what is visited either
lies below the open one or inside it.
-/

set_option autoImplicit false

namespace Foundation

variable {holds : Nat → Prop}

def RunAt (holds : Nat → Prop) (start length : Nat) : Prop := ∀ position < length, holds (start + position)

structure LongestRun (holds : Nat → Prop) (start length : Nat) : Prop where
  run : RunAt holds start length
  longest : ∀ other size, RunAt holds other size → size ≤ length
  leftmost : ∀ other, RunAt holds other length → start ≤ other

/-- The search once every position below `index` is visited: the best run that
has ended, and the length of the open one, which ends at `index`. -/
structure RunSearch (holds : Nat → Prop) (index start length current : Nat) : Prop where
  within : start + length + current ≤ index
  run : RunAt holds start length
  running : RunAt holds (index - current) current
  bounded : current < index → ¬holds (index - current - 1)
  best : ∀ other size, RunAt holds other size → other + size + current ≤ index →
    size ≤ length ∧ (size = length → start ≤ other)

namespace RunSearch

theorem initial : RunSearch holds 0 0 0 0 where
  within := Nat.le_refl 0
  run := nofun
  running := nofun
  bounded := nofun
  best other size _ _ := by omega

variable {index start length current : Nat}

theorem below_or_inside (search : RunSearch holds index start length current) {other size : Nat}
    (run : RunAt holds other size) :
    other + size + current ≤ index ∨ index ≤ other + current := by
  by_contra across
  have within := search.within
  -- a run across the position before the open run would have the property there
  apply search.bounded (by omega)
  have held := run (index - current - 1 - other) (by omega)
  rwa [Nat.add_sub_cancel' (by omega)] at held

theorem extend (search : RunSearch holds index start length current) (here : holds index) :
    RunSearch holds (index + 1) start length (current + 1) where
  within := Nat.add_le_add_right search.within 1
  run := search.run
  running position below := by
    rw [Nat.add_sub_add_right]
    have within := search.within
    by_cases last : position = current
    · rwa [last, Nat.sub_add_cancel (by omega)]
    · exact search.running position (by omega)
  bounded := by
    intro before
    rw [Nat.add_sub_add_right]
    exact search.bounded (by omega)
  best other size run inside := search.best other size run (by omega)

theorem before_of_not {other size : Nat} (absent : ¬holds index) (run : RunAt holds other size)
    (inside : other + size ≤ index + 1) : size = 0 ∨ other + size ≤ index := by
  by_contra reaches
  apply absent
  have held := run (index - other) (by omega)
  rwa [Nat.add_sub_cancel' (by omega)] at held

theorem close_longer (search : RunSearch holds index start length current) (absent : ¬holds index)
    (longer : length < current) : RunSearch holds (index + 1) (index - current) current 0 where
  within := by
    have within := search.within
    omega
  run := search.running
  running := nofun
  bounded _ := absent
  best other size run inside := by
    have within := search.within
    rcases before_of_not absent run inside with empty | before
    · omega
    · rcases search.below_or_inside run with below | inner
      · have shorter := (search.best other size run below).1
        omega
      · omega

theorem close_shorter (search : RunSearch holds index start length current) (absent : ¬holds index)
    (shorter : current ≤ length) : RunSearch holds (index + 1) start length 0 where
  within := by
    have within := search.within
    omega
  run := search.run
  running := nofun
  bounded _ := absent
  best other size run inside := by
    have within := search.within
    have front := search.best 0 0 nofun (by omega)
    rcases before_of_not absent run inside with empty | before
    · omega
    · rcases search.below_or_inside run with below | inner
      · exact search.best other size run below
      · omega

/-- With nothing open and nothing to come, the best run is the leftmost of the longest. -/
theorem finish (search : RunSearch holds index start length 0) (none : ∀ position, index ≤ position → ¬holds position) :
    LongestRun holds start length := by
  have inside {other size : Nat} (run : RunAt holds other size) : size = 0 ∨ other + size ≤ index := by
    by_contra reaches
    have held := run (size - 1) (by omega)
    exact none _ (by omega) held
  have front := search.best 0 0 nofun (by omega)
  refine ⟨search.run, fun other size run => ?_, fun other run => ?_⟩
  · rcases inside run with empty | below
    · omega
    · exact (search.best other size run below).1
  · rcases inside run with empty | below
    · omega
    · exact (search.best other length run below).2 rfl

end RunSearch

end Foundation
