import Mathlib.Order.Basic

/-! Loops without a bound of their own.

A turn has its number and the state. It leaves the loop, fails, or puts
something out and goes on. `Loop` counts the turns of a loop that ends; one
that never does is in no relation to an outcome.
-/

set_option autoImplicit false

namespace Foundation

variable {σ ο ε : Type}

inductive Loop (turn : Nat → σ → Option (Except ε (ο × σ))) : Nat → σ → Nat → List ο → Except ε σ → Prop where
  | complete {number : Nat} {state : σ} (leaves : turn number state = none) : Loop turn number state 0 [] (.ok state)
  | failed {number : Nat} {state : σ} {error : ε} (fails : turn number state = some (.error error)) :
      Loop turn number state 1 [] (.error error)
  | next {number turns : Nat} {state after : σ} {out : ο} {outs : List ο} {outcome : Except ε σ}
      (passes : turn number state = some (.ok (out, after))) (rest : Loop turn (number + 1) after turns outs outcome) :
      Loop turn number state (turns + 1) (out :: outs) outcome

namespace Loop

variable {turn : Nat → σ → Option (Except ε (ο × σ))} {number turns : Nat} {state : σ} {outs : List ο}

theorem unique {outcome outcome' : Except ε σ} {turns' : Nat} {outs' : List ο}
    (first : Loop turn number state turns outs outcome) (second : Loop turn number state turns' outs' outcome') :
    turns' = turns ∧ outs' = outs ∧ outcome' = outcome := by
  induction first generalizing turns' outs' outcome' with
  | complete leaves =>
    cases second with
    | complete _ => exact ⟨rfl, rfl, rfl⟩
    | failed fails => rw [leaves] at fails; cases fails
    | next passes _ => rw [leaves] at passes; cases passes
  | failed fails =>
    cases second with
    | complete leaves => rw [fails] at leaves; cases leaves
    | failed again => rw [fails] at again; cases again; exact ⟨rfl, rfl, rfl⟩
    | next passes _ => rw [fails] at passes; cases passes
  | next passes _ ih =>
    cases second with
    | complete leaves => rw [passes] at leaves; cases leaves
    | failed fails => rw [passes] at fails; cases fails
    | next again rest =>
      rw [passes] at again
      cases again
      obtain ⟨same, outs, outcome⟩ := ih rest
      exact ⟨congrArg Nat.succ same, congrArg _ outs, outcome⟩

/-- A loop whose turns all lower a measure ends within as many turns. -/
theorem exists_of_decreasing (measure : σ → Nat)
    (active : ∀ number state, turn number state ≠ none → 0 < measure state)
    (decreases : ∀ number state out after, turn number state = some (.ok (out, after)) →
      measure after < measure state) (number : Nat) (state : σ) :
    ∃ turns outs outcome, Loop turn number state turns outs outcome ∧ turns ≤ measure state := by
  generalize bound : measure state = count
  induction count using Nat.strongRecOn generalizing number state with
  | ind count ih =>
    cases taken : turn number state with
    | none => exact ⟨0, [], .ok state, .complete taken, Nat.zero_le _⟩
    | some result =>
      have positive := active number state (by simp [taken])
      cases result with
      | error error => exact ⟨1, [], .error error, .failed taken, by omega⟩
      | ok passed =>
        have lower := decreases number state passed.1 passed.2 taken
        obtain ⟨turns, outs, outcome, rest, within⟩ := ih _ (bound ▸ lower) (number + 1) passed.2 rfl
        exact ⟨turns + 1, passed.1 :: outs, outcome, .next taken rest, by omega⟩

variable {inv : σ → Prop}

theorem invariant (kept : ∀ number state out after, inv state → turn number state = some (.ok (out, after)) → inv after)
    {outcome : Except ε σ} (loop : Loop turn number state turns outs outcome) (start : inv state) {last : σ}
    (ended : outcome = .ok last) : inv last ∧ ∃ number, turn number last = none := by
  induction loop with
  | complete leaves =>
    cases ended
    exact ⟨start, _, leaves⟩
  | failed fails => cases ended
  | next passes rest ih => exact ih (kept _ _ _ _ start passes) ended

theorem forall_outs {good : ο → Prop}
    (each : ∀ number state out after, turn number state = some (.ok (out, after)) → good out) {outcome : Except ε σ}
    (loop : Loop turn number state turns outs outcome) : ∀ out ∈ outs, good out := by
  induction loop with
  | complete leaves => exact nofun
  | failed fails => exact nofun
  | next passes rest ih => exact List.forall_mem_cons.mpr ⟨each _ _ _ _ passes, ih⟩

end Loop

end Foundation
