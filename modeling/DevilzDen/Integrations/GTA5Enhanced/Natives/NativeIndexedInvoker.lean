import DevilzDen.Integrations.GTA5Enhanced.Natives.NativeHandlerTable
import DevilzDen.Integrations.GTA5Enhanced.Natives.NativeInvoker

/-! The invoker with its second way to a handler, by index, and its counters.

The invoker refers to the handler table or to none. Neither way ends in a call:
`InvokeResolved` has no adapter yet, and counts every handler it is given as a
failure.
-/

set_option autoImplicit false

namespace DevilzDen.Integrations.GTA5Enhanced

open Backend Foundation

structure NativeIndexedInvoker where
  invoker : NativeInvoker := {}
  handlers : NativeHandlerTable := .empty
  /-- Whether the invoker was given the table. -/
  indexed : Bool := true
  indexedHits : UInt64 := 0

namespace NativeIndexedInvoker

def failed (state : NativeIndexedInvoker) : NativeIndexedInvoker := { state with invoker := state.invoker.failed }

/-- `Invoke` with an index, up to its call of `InvokeResolved`. -/
def resolveIndex (state : NativeIndexedInvoker) (index : UInt32) : Result Address × NativeIndexedInvoker :=
  let called := { state with invoker.stats.calls := state.invoker.stats.calls + 1 }
  if !called.invoker.manager.ready then
    (.error (Error.runtime "Indexed native invocation requested before Native_Manager is ready"), called.failed)
  else if !called.indexed then
    (.error (Error.runtime "Indexed native invocation requested without a Native_Handler_Table"), called.failed)
  else match called.handlers.get index with
    | none =>
        (.error ((Error.runtime "Indexed native handler is unresolved or unvalidated").withContext
          "NativeIndex" (decimal index.toNat)), called.failed)
    | some handler => (.ok handler, { called with indexedHits := called.indexedHits + 1 })

def invokeIndex (state : NativeIndexedInvoker) (index : UInt32) (argumentCount : Nat) :
    Result Unit × NativeIndexedInvoker :=
  match state.resolveIndex index with
  | (.error error, refused) => (.error error, refused)
  | (.ok handler, resolved) =>
      let runtimeHash := (resolved.handlers.runtimeHash index).getD {}
      let outcome := resolved.invoker.invokeResolved handler argumentCount runtimeHash
      (outcome.1, { resolved with invoker := outcome.2 })

inductive Call where
  | native (call : NativeInvoker.Call)
  | reset (count : Nat)
  | clear
  | set (index : UInt32) (runtimeHash : NativeHash) (handler : Address) (validated : Bool)
  | setIndexedHandlers (given : Bool)
  | invokeIndex (index : UInt32) (argumentCount : Nat)

def step (state : NativeIndexedInvoker) : Call → NativeIndexedInvoker
  | .native call => { state with invoker := state.invoker.step call }
  | .reset count => { state with handlers := state.handlers.reset count }
  | .clear => { state with handlers := state.handlers.clear }
  | .set index runtimeHash handler validated =>
      { state with handlers := (state.handlers.set index runtimeHash handler validated).2 }
  | .setIndexedHandlers given => { state with indexed := given }
  | .invokeIndex index argumentCount => (state.invokeIndex index argumentCount).2

/-- What an invocation resolves to; other calls resolve nothing. -/
def resolution (state : NativeIndexedInvoker) : Call → List (Result Address)
  | .native (.invoke canonical _) => [(state.invoker.resolveHandler canonical).1]
  | .invokeIndex index _ => [(state.resolveIndex index).1]
  | _ => []

/-! ## The counters -/

def hits (state : NativeIndexedInvoker) : UInt64 :=
  state.invoker.stats.cacheHits + state.invoker.stats.tableHits + state.indexedHits

def resolved (outcomes : List (Result Address)) : Nat := outcomes.countP Except.toBool

structure Counted (before after : NativeIndexedInvoker) (outcomes : List (Result Address)) : Prop where
  calls : after.invoker.stats.calls = before.invoker.stats.calls + UInt64.ofNat outcomes.length
  failures : after.invoker.stats.failures = before.invoker.stats.failures + UInt64.ofNat outcomes.length
  hits : after.hits = before.hits + UInt64.ofNat (resolved outcomes)

theorem Counted.of_same {before after : NativeIndexedInvoker} (stats : after.invoker.stats = before.invoker.stats)
    (indexedHits : after.indexedHits = before.indexedHits) : Counted before after [] where
  calls := by rw [stats]; exact (UInt64.add_zero _).symm
  failures := by rw [stats]; exact (UInt64.add_zero _).symm
  hits := by rw [NativeIndexedInvoker.hits, stats, indexedHits]; exact (UInt64.add_zero _).symm

theorem Counted.trans {first second third : NativeIndexedInvoker} {before after : List (Result Address)}
    (counted : Counted first second before) (later : Counted second third after) :
    Counted first third (before ++ after) where
  calls := by rw [later.calls, counted.calls, List.length_append, UInt64.ofNat_add, UInt64.add_assoc]
  failures := by rw [later.failures, counted.failures, List.length_append, UInt64.ofNat_add, UInt64.add_assoc]
  hits := by
    have both : resolved (before ++ after) = resolved before + resolved after := List.countP_append
    rw [later.hits, counted.hits, both, UInt64.ofNat_add, UInt64.add_assoc]

/-- Up to the call of `InvokeResolved`, an invocation counts one call, and one hit or one failure. -/
structure Accounted (before after : NativeIndexedInvoker) (outcome : Result Address) : Prop where
  calls : after.invoker.stats.calls = before.invoker.stats.calls + 1
  failures : after.invoker.stats.failures =
    before.invoker.stats.failures + if outcome.toBool then 0 else 1
  hits : after.hits = before.hits + if outcome.toBool then 1 else 0

/-- A handler that was found is counted as a failure after all. -/
theorem Accounted.counted {before after last : NativeIndexedInvoker} {outcome : Result Address}
    (accounted : Accounted before after outcome)
    (ends : last = if outcome.toBool then after.failed else after) : Counted before last [outcome] := by
  have hits : UInt64.ofNat (resolved [outcome]) = if outcome.toBool then 1 else 0 := by
    cases outcome <;> rfl
  have calls := accounted.calls
  have failures := accounted.failures
  have found := accounted.hits
  rw [← hits] at found
  cases outcome with
  | error error =>
    subst ends
    exact ⟨calls, failures, found⟩
  | ok handler =>
    subst ends
    refine ⟨calls, ?_, found⟩
    have counted : after.invoker.stats.failures + 1 = before.invoker.stats.failures + 1 :=
      congrArg (· + 1) (failures.trans (UInt64.add_zero _))
    exact counted

theorem accounted_resolveHandler (state : NativeIndexedInvoker) (canonical : NativeHash) :
    Accounted state { state with invoker := (state.invoker.resolveHandler canonical).2 }
      (state.invoker.resolveHandler canonical).1 := by
  have moved : ∀ first second third : UInt64, first + 1 + second + third = first + second + third + 1 := by
    intro first second third
    ac_rfl
  have passed : ∀ first second third : UInt64, first + (second + 1) + third = first + second + third + 1 := by
    intro first second third
    ac_rfl
  unfold NativeInvoker.resolveHandler NativeInvoker.failed
  dsimp only
  split
  · exact ⟨rfl, rfl, (UInt64.add_zero _).symm⟩
  · split
    · exact ⟨rfl, (UInt64.add_zero _).symm, moved _ _ _⟩
    · split
      · exact ⟨rfl, rfl, (UInt64.add_zero _).symm⟩
      · split
        · exact ⟨rfl, rfl, (UInt64.add_zero _).symm⟩
        · exact ⟨rfl, (UInt64.add_zero _).symm, passed _ _ _⟩

theorem accounted_resolveIndex (state : NativeIndexedInvoker) (index : UInt32) :
    Accounted state (state.resolveIndex index).2 (state.resolveIndex index).1 := by
  unfold resolveIndex
  dsimp only
  split
  · exact ⟨rfl, rfl, (UInt64.add_zero _).symm⟩
  · split
    · exact ⟨rfl, rfl, (UInt64.add_zero _).symm⟩
    · split
      · exact ⟨rfl, rfl, (UInt64.add_zero _).symm⟩
      · exact ⟨rfl, (UInt64.add_zero _).symm, (UInt64.add_assoc _ _ _).symm⟩

theorem counted_step (state : NativeIndexedInvoker) (call : Call) :
    Counted state (state.step call) (state.resolution call) := by
  cases call with
  | reset | clear | set | setIndexedHandlers => exact .of_same rfl rfl
  | invokeIndex index argumentCount =>
    apply (accounted_resolveIndex state index).counted
    rw [step, invokeIndex]
    split
    next error refused same => rw [same]; rfl
    next handler found same => rw [same]; rfl
  | native call =>
    cases call with
    | initializeBuild | shutdown | register | registerBatch | clear => exact .of_same rfl rfl
    | invoke canonical argumentCount =>
      apply (accounted_resolveHandler state canonical).counted
      rw [step, NativeInvoker.step, NativeInvoker.invoke]
      split
      next error refused same => rw [same]; rfl
      next handler found same => rw [same]; rfl

def resolutions (state : NativeIndexedInvoker) (calls : List Call) : List (Result Address) :=
  outputs (fun state call => (step state call, resolution state call)) state calls

theorem counted_run (state : NativeIndexedInvoker) (calls : List Call) :
    Counted state (run step state calls) (resolutions state calls) := by
  induction calls generalizing state with
  | nil => exact .of_same rfl rfl
  | cons call later ih => exact (counted_step state call).trans (ih _)

/-- No invocation of either kind succeeds. -/
theorem invoke_fails (state : NativeIndexedInvoker) (canonical : NativeHash) (index : UInt32) (argumentCount : Nat) :
    (state.invoker.invoke canonical argumentCount).1.toBool = false ∧
      (state.invokeIndex index argumentCount).1.toBool = false := by
  rw [NativeInvoker.invoke, invokeIndex]
  constructor
  · split <;> rfl
  · split <;> rfl

/-- In every run each invocation is counted once as a call and once as a failure,
and is a hit of exactly one kind when it has found a handler. -/
theorem counters_account_for_run (calls : List Call) :
    let state := run step {} calls
    let outcomes := resolutions {} calls
    state.invoker.stats.calls = UInt64.ofNat outcomes.length ∧
      state.invoker.stats.failures = state.invoker.stats.calls ∧
      state.invoker.stats.cacheHits + state.invoker.stats.tableHits + state.indexedHits =
        UInt64.ofNat (outcomes.countP Except.toBool) := by
  intro state outcomes
  have counted := counted_run {} calls
  have fromZero : ∀ count : UInt64, 0 + count = count := UInt64.zero_add
  refine ⟨counted.calls.trans (fromZero _), ?_, counted.hits.trans (fromZero _)⟩
  exact counted.failures.trans counted.calls.symm

/-! ## The way by index -/

def Writes (index : UInt32) : Call → Prop
  | .reset _ | .clear => True
  | .set other _ _ _ => other = index
  | _ => False

instance decidableWrites (index : UInt32) : DecidablePred (Writes index)
  | .reset _ | .clear => isTrue trivial
  | .set other _ _ _ => inferInstanceAs (Decidable (other = index))
  | .native _ | .setIndexedHandlers _ | .invokeIndex .. => isFalse id

def slotWritten (index : UInt32) (state : NativeIndexedInvoker) : Call → Option Address
  | .set _ _ handler validated => state.handlers.written index handler validated
  | _ => none

theorem get_step_of_writes (index : UInt32) (state : NativeIndexedInvoker) (call : Call) (writes : Writes index call) :
    (state.step call).handlers.get index = slotWritten index state call := by
  cases call with
  | reset count => exact NativeHandlerTable.get_reset state.handlers count index
  | clear => rfl
  | set other runtimeHash handler validated =>
    cases writes
    exact NativeHandlerTable.get_set_self _ _ _ _ _
  | native | setIndexedHandlers | invokeIndex => exact writes.elim

theorem handlers_invokeIndex (state : NativeIndexedInvoker) (index : UInt32) (argumentCount : Nat) :
    (state.invokeIndex index argumentCount).2.handlers = state.handlers := by
  have resolved : (state.resolveIndex index).2.handlers = state.handlers := by
    unfold resolveIndex
    dsimp only
    repeat' split
    all_goals rfl
  rw [invokeIndex]
  split
  next error refused same => rw [same] at resolved; exact resolved
  next handler found same => rw [same] at resolved; exact resolved

theorem get_step_of_not_writes (index : UInt32) (state : NativeIndexedInvoker) (call : Call)
    (leaves : ¬Writes index call) : (state.step call).handlers.get index = state.handlers.get index := by
  cases call with
  | reset | clear => exact absurd trivial leaves
  | set other runtimeHash handler validated =>
    exact NativeHandlerTable.get_set_of_ne _ (Ne.symm leaves) _ _ _
  | native | setIndexedHandlers => rfl
  | invokeIndex other argumentCount => rw [step, handlers_invokeIndex]

theorem resolveIndex_eq_ok_iff {state : NativeIndexedInvoker} {index : UInt32} {handler : Address} :
    (state.resolveIndex index).1 = .ok handler ↔
      state.invoker.manager.ready = true ∧ state.indexed = true ∧ state.handlers.get index = some handler := by
  unfold resolveIndex
  dsimp only
  cases ready : state.invoker.manager.ready with
  | false => simp
  | true =>
    cases indexed : state.indexed with
    | false => simp
    | true => cases found : state.handlers.get index <;> simp

/-- The last write to the slot was a validated handler that is not null, at an index that was in the table. -/
def LastSet (calls : List Call) (index : UInt32) (handler : Address) : Prop :=
  ∃ earlier runtimeHash later, Last (Writes index) calls earlier (.set index runtimeHash handler true) later ∧
    index.toNat < (run step {} earlier).handlers.size ∧ handler ≠ 0

/-- In every run an index leads to a handler exactly when the natives are ready,
the table is attached, and the slot's last write since the table was made put a
validated handler there: neither an invocation nor the other tables matter. -/
theorem index_resolves_iff (calls : List Call) (index : UInt32) (handler : Address) :
    ((run step {} calls).resolveIndex index).1 = .ok handler ↔
      (run step {} calls).invoker.manager.ready = true ∧ (run step {} calls).indexed = true ∧
        LastSet calls index handler := by
  have start : ({} : NativeIndexedInvoker).handlers.get index = none := rfl
  have slot := run_eq_some_iff_at (fun state : NativeIndexedInvoker => state.handlers.get index) start
    (get_step_of_writes index) (get_step_of_not_writes index) calls handler
  rw [resolveIndex_eq_ok_iff, slot]
  refine and_congr_right fun _ => and_congr_right fun _ => ?_
  constructor
  · rintro ⟨earlier, last, later, isLast, wrote⟩
    cases last with
    | set other runtimeHash address validated =>
      cases isLast.2.1
      rw [slotWritten, NativeHandlerTable.written] at wrote
      split at wrote
      next inside =>
        obtain ⟨small, rfl, present⟩ := inside
        cases wrote
        exact ⟨earlier, runtimeHash, later, isLast, small, present⟩
      next => cases wrote
    | reset | clear | native | setIndexedHandlers | invokeIndex => cases wrote
  · rintro ⟨earlier, runtimeHash, later, isLast, small, present⟩
    refine ⟨earlier, _, later, isLast, ?_⟩
    rw [slotWritten, NativeHandlerTable.written, if_pos ⟨small, rfl, present⟩]

end NativeIndexedInvoker

end DevilzDen.Integrations.GTA5Enhanced
