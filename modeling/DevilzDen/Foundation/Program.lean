import Mathlib.Logic.Function.Basic
import Mathlib.Data.List.Basic

/-! Programs made of atomic actions on one shared store, alone and interleaved.

A program performs an action, receives its reply and continues. `run` performs
a program without interruption. A pool of jobs is performed one action at a
time, in the order of a schedule that names a job at each step.

The main rule is `Separated.schedule_outcome`. Each job looks at the store
through its own view. Its own actions are functions of that view. An action of
another job may only settle the view: an idempotent clean-up that the job's
first action performs as well. Then no schedule can change what a job computes.
-/

set_option autoImplicit false

namespace Foundation

inductive Program (Action : Type) (Reply : Action → Type) (α : Type) where
  | done (value : α)
  | perform (action : Action) (next : Reply action → Program Action Reply α)

variable {Action : Type} {Reply : Action → Type} {α β σ ν ι : Type}

abbrev Handler (Action : Type) (Reply : Action → Type) (σ : Type) :=
  (action : Action) → σ → Reply action × σ

namespace Program

def bind : Program Action Reply α → (α → Program Action Reply β) → Program Action Reply β
  | .done value, next => next value
  | .perform action rest, next => .perform action fun reply => (rest reply).bind next

def run (handler : Handler Action Reply σ) : Program Action Reply α → σ → α × σ
  | .done value, store => (value, store)
  | .perform action next, store =>
      let answered := handler action store
      run handler (next answered.1) answered.2

/-- Every action the program can perform satisfies the predicate, whatever the replies. -/
def All (allowed : Action → Prop) : Program Action Reply α → Prop
  | .done _ => True
  | .perform action next => allowed action ∧ ∀ reply, (next reply).All allowed

@[simp] theorem run_done (handler : Handler Action Reply σ) (value : α) (store : σ) :
    run handler (.done value) store = (value, store) := rfl

@[simp] theorem run_perform (handler : Handler Action Reply σ) (action : Action)
    (next : Reply action → Program Action Reply α) (store : σ) :
    run handler (.perform action next) store =
      run handler (next (handler action store).1) (handler action store).2 := rfl

theorem run_bind (handler : Handler Action Reply σ) (program : Program Action Reply α)
    (next : α → Program Action Reply β) (store : σ) :
    run handler (program.bind next) store =
      run handler (next (run handler program store).1) (run handler program store).2 := by
  induction program generalizing store with
  | done value => rfl
  | perform action rest ih => exact ih _ _

theorem All.mono {allowed wider : Action → Prop} (weaker : ∀ action, allowed action → wider action)
    {program : Program Action Reply α} (all : program.All allowed) : program.All wider := by
  induction program with
  | done value => trivial
  | perform action next ih => exact ⟨weaker action all.1, fun reply => ih reply (all.2 reply)⟩

theorem all_bind {allowed : Action → Prop} {program : Program Action Reply α}
    {next : α → Program Action Reply β} (first : program.All allowed)
    (second : ∀ value, (next value).All allowed) : (program.bind next).All allowed := by
  induction program with
  | done value => exact second value
  | perform action rest ih => exact ⟨first.1, fun reply => ih reply (first.2 reply)⟩

end Program

section Pool

variable [DecidableEq ι] (handler : Handler Action Reply σ)

/-- What a schedule works on: the rest of each job, and the store they share. -/
structure Pool (Action : Type) (Reply : Action → Type) (ι σ α : Type) where
  jobs : ι → Program Action Reply α
  store : σ

/-- Perform the next action of one job; a finished job has none. -/
def Pool.step (pool : Pool Action Reply ι σ α) (job : ι) : Pool Action Reply ι σ α :=
  match pool.jobs job with
  | .done _ => pool
  | .perform action next =>
      let answered := handler action pool.store
      { jobs := Function.update pool.jobs job (next answered.1), store := answered.2 }

def Pool.runSchedule (pool : Pool Action Reply ι σ α) (schedule : List ι) : Pool Action Reply ι σ α :=
  schedule.foldl (Pool.step handler) pool

def Pool.result? (pool : Pool Action Reply ι σ α) (job : ι) : Option α :=
  match pool.jobs job with
  | .done value => some value
  | .perform _ _ => none

end Pool

/-- Jobs that share a store without disturbing one another. -/
structure Separated (handler : Handler Action Reply σ) (view : ι → σ → ν)
    (localHandler : ι → Handler Action Reply ν) (settle : ι → ν → ν)
    (own : ι → Action → Prop) : Prop where
  settle_idem : ∀ job seen, settle job (settle job seen) = settle job seen
  reply : ∀ job action store, own job action →
    (handler action store).1 = (localHandler job action (view job store)).1
  changes : ∀ job action store, own job action →
    view job (handler action store).2 = (localHandler job action (view job store)).2
  settled : ∀ job action seen, own job action → settle job seen = seen →
    settle job (localHandler job action seen).2 = (localHandler job action seen).2
  foreign : ∀ job other action store, other ≠ job → own other action →
    view job (handler action store).2 = view job store ∨
      view job (handler action store).2 = settle job (view job store)

/-- The first action leaves a settled view, and the same one from a view and
from the settled view. -/
def Opens (localHandler : Handler Action Reply ν) (settle : ν → ν) :
    Program Action Reply α → ν → Prop
  | .done _, _ => True
  | .perform action _, seen =>
      localHandler action (settle seen) = localHandler action seen ∧
        settle (localHandler action seen).2 = (localHandler action seen).2

namespace Separated

variable {handler : Handler Action Reply σ} {view : ι → σ → ν}
  {localHandler : ι → Handler Action Reply ν} {settle : ι → ν → ν} {own : ι → Action → Prop}

theorem run_view (separated : Separated handler view localHandler settle own) (job : ι)
    (program : Program Action Reply α) (mine : program.All (own job)) (store : σ) :
    (program.run handler store).1 = (program.run (localHandler job) (view job store)).1 ∧
      view job (program.run handler store).2 = (program.run (localHandler job) (view job store)).2 := by
  induction program generalizing store with
  | done value => exact ⟨rfl, rfl⟩
  | perform action next ih =>
    have replied := separated.reply job action store mine.1
    have changed := separated.changes job action store mine.1
    -- the reply and the new view are those of the local handler, so both runs continue alike
    simp only [Program.run_perform, ← replied, ← changed]
    exact ih _ (mine.2 _) _

theorem run_foreign (separated : Separated handler view localHandler settle own) {job other : ι}
    (different : other ≠ job) (program : Program Action Reply α) (theirs : program.All (own other))
    (store : σ) :
    view job (program.run handler store).2 = view job store ∨
      view job (program.run handler store).2 = settle job (view job store) := by
  induction program generalizing store with
  | done value => exact Or.inl rfl
  | perform action next ih =>
    -- once settled, the view stays settled: that is where idempotence is needed
    rcases separated.foreign job other action store different theirs.1 with kept | cleaned
    · rcases ih _ (theirs.2 _) (handler action store).2 with later | later
      · exact Or.inl (later.trans kept)
      · exact Or.inr (later.trans (congrArg (settle job) kept))
    · rcases ih _ (theirs.2 _) (handler action store).2 with later | later
      · exact Or.inr (later.trans cleaned)
      · refine Or.inr (later.trans ?_)
        rw [cleaned, separated.settle_idem]

theorem comap {ι' : Type} (separated : Separated handler view localHandler settle own) (name : ι' → ι)
    (distinct : Function.Injective name) :
    Separated handler (fun job => view (name job)) (fun job => localHandler (name job))
      (fun job => settle (name job)) (fun job => own (name job)) where
  settle_idem job := separated.settle_idem (name job)
  reply job := separated.reply (name job)
  changes job := separated.changes (name job)
  settled job := separated.settled (name job)
  foreign job other action store different :=
    separated.foreign (name job) (name other) action store (distinct.ne different)

/-- Settling the view of a job that starts with the clean-up does not change what it computes. -/
theorem run_settled {job : ι} {program : Program Action Reply α} {seen : ν}
    (insensitive : settle job seen = seen ∨ Opens (localHandler job) (settle job) program seen) :
    (program.run (localHandler job) (settle job seen)).1 = (program.run (localHandler job) seen).1 := by
  rcases insensitive with fixed | opens
  · rw [fixed]
  · cases program with
    | done value => rfl
    | perform action next => simp only [Program.run_perform, opens.1]

/-- What a schedule keeps for each job: its remaining actions are its own, its
view is settled unless it has yet to open, and alone it would still compute the target. -/
structure OnTarget (view : ι → σ → ν) (localHandler : ι → Handler Action Reply ν)
    (settle : ι → ν → ν) (own : ι → Action → Prop) (target : α)
    (pool : Pool Action Reply ι σ α) (job : ι) : Prop where
  mine : (pool.jobs job).All (own job)
  insensitive : settle job (view job pool.store) = view job pool.store ∨
    Opens (localHandler job) (settle job) (pool.jobs job) (view job pool.store)
  outcome : ((pool.jobs job).run (localHandler job) (view job pool.store)).1 = target

variable [DecidableEq ι]

theorem step_self (separated : Separated handler view localHandler settle own) {target : α}
    {pool : Pool Action Reply ι σ α} {job : ι}
    (onTarget : OnTarget view localHandler settle own target pool job) :
    OnTarget view localHandler settle own target (pool.step handler job) job := by
  obtain ⟨mine, insensitive, outcome⟩ := onTarget
  cases rest : pool.jobs job with
  | done value =>
    rw [Pool.step, rest]
    exact ⟨mine, insensitive, outcome⟩
  | perform action next =>
    rw [rest] at mine insensitive outcome
    have replied := separated.reply job action pool.store mine.1
    have changed := separated.changes job action pool.store mine.1
    rw [Pool.step, rest]
    refine ⟨?_, Or.inl ?_, ?_⟩
    · simpa using mine.2 _
    · rw [changed]
      rcases insensitive with fixed | opens
      · exact separated.settled job action _ mine.1 fixed
      · exact opens.2
    · simpa [replied, changed] using outcome

theorem step_other (separated : Separated handler view localHandler settle own) {target : α}
    {pool : Pool Action Reply ι σ α} {job other : ι} (different : other ≠ job)
    (theirs : (pool.jobs other).All (own other))
    (onTarget : OnTarget view localHandler settle own target pool job) :
    OnTarget view localHandler settle own target (pool.step handler other) job := by
  obtain ⟨mine, insensitive, outcome⟩ := onTarget
  cases rest : pool.jobs other with
  | done value =>
    rw [Pool.step, rest]
    exact ⟨mine, insensitive, outcome⟩
  | perform action next =>
    rw [rest] at theirs
    have unchanged : (pool.step handler other).jobs job = pool.jobs job := by
      rw [Pool.step, rest]
      exact Function.update_of_ne different.symm _ _
    have stored : (pool.step handler other).store = (handler action pool.store).2 := by
      rw [Pool.step, rest]
    -- a job that has not opened yet must compute the same from the settled view
    rcases separated.foreign job other action pool.store different theirs.1 with kept | cleaned
    · refine ⟨?_, ?_, ?_⟩ <;> rw [unchanged]
      · exact mine
      · rw [stored, kept]
        exact insensitive
      · rw [stored, kept]
        exact outcome
    · refine ⟨?_, Or.inl ?_, ?_⟩
      · rw [unchanged]
        exact mine
      · rw [stored, cleaned, separated.settle_idem]
      · rw [unchanged, stored, cleaned, run_settled insensitive]
        exact outcome

/-- No schedule changes what a job computes. -/
theorem schedule_outcome (separated : Separated handler view localHandler settle own)
    (target : ι → α) {pool : Pool Action Reply ι σ α}
    (start : ∀ job, OnTarget view localHandler settle own (target job) pool job)
    (schedule : List ι) {job : ι} {value : α}
    (finished : (pool.runSchedule handler schedule).result? job = some value) :
    value = target job := by
  have kept : ∀ job, OnTarget view localHandler settle own (target job)
      (pool.runSchedule handler schedule) job := by
    unfold Pool.runSchedule
    induction schedule generalizing pool with
    | nil => exact start
    | cons next later ih =>
      refine ih (fun job => ?_) finished
      by_cases same : next = job
      · subst same
        exact separated.step_self (start next)
      · exact separated.step_other same (start next).mine (start job)
  have outcome := (kept job).outcome
  unfold Pool.result? at finished
  split at finished
  next last ended =>
    rw [ended] at outcome
    rw [← Option.some.inj finished]
    exact outcome
  next => cases finished

end Separated

end Foundation
