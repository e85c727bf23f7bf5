import DevilzDen.Backend.Threading.QueueExecutor
import Mathlib.Data.Prod.Lex

/-! The thread manager: its executors, and their shutdown one after the other.

`Start`, `CreateDedicated` and `Stop` are called by one thread. Any thread submits
to an executor for as long as it is there. A destructor stops its executor once
more, which returns at once.
-/

set_option autoImplicit false

namespace DevilzDen.Backend

open Foundation

variable {τ : Type}

namespace QueueExecutor

/-! ## The shutdown of one executor -/

def workerWeight (worker : Worker τ) : Nat :=
  match worker.point with
  | .loopHead => 2
  | .dequeuing => 1
  | .running _ => 3
  | .exited => 0

def stopWeight (session : Session τ) : Nat :=
  match session.stopping with
  | .notCalled => session.executor.workers.length + 3
  | .requesting next => session.executor.workers.length - next + 2
  | .joining => 1
  | .returned => 0

def rank (session : Session τ) : Nat :=
  3 * session.executor.queue.length + (session.executor.workers.map workerWeight).sum + stopWeight session

theorem rank_work {session : Session τ} (refusing : session.executor.accepting = false) {index : Nat}
    {worker : Worker τ} (found : session.executor.workers[index]? = some worker) (goes : worker.point ≠ .exited) :
    rank (session.work index) < rank session := by
  have moved (after : Worker τ) (queue : List (WorkItem τ)) :
      stopWeight { session with
          executor := { session.executor with workers := session.executor.workers.set index after, queue } } =
        stopWeight session := by
    unfold stopWeight
    dsimp only
    rw [List.length_set]
  have sums := Threads.sum_set_add workerWeight found
  obtain ⟨stopRequested, point⟩ := worker
  unfold Session.work
  rw [found]
  cases point with
  | loopHead =>
    have summed := sums { stopRequested, point := if stopRequested then .exited else .dequeuing }
    have same := moved { stopRequested, point := if stopRequested then .exited else .dequeuing }
      session.executor.queue
    have light : workerWeight (⟨stopRequested, if stopRequested then .exited else .dequeuing⟩ : Worker τ) ≤ 1 := by
      cases stopRequested <;> simp [workerWeight]
    have heavy : workerWeight ({ stopRequested, point := .loopHead } : Worker τ) = 2 := rfl
    simp only [rank, moveWorker] at same summed ⊢
    omega
  | dequeuing =>
    dsimp only
    have heavy : workerWeight ({ stopRequested, point := .dequeuing } : Worker τ) = 1 := rfl
    cases queue : session.executor.queue with
    | nil =>
      dsimp only
      rw [if_neg (by simp [refusing])]
      have summed := sums { stopRequested, point := .exited }
      have same := moved { stopRequested, point := .exited } session.executor.queue
      have light : workerWeight ({ stopRequested, point := .exited } : Worker τ) = 0 := rfl
      simp only [rank, moveWorker] at same summed ⊢
      omega
    | cons item later =>
      dsimp only
      have summed := sums { stopRequested, point := .running item }
      have same := moved { stopRequested, point := .running item } later
      have light : workerWeight ({ stopRequested, point := .running item } : Worker τ) = 3 := rfl
      simp only [rank, moveWorker, queue, List.length_cons] at same summed ⊢
      omega
  | running item =>
    have summed := sums { stopRequested, point := .loopHead }
    have same := moved { stopRequested, point := .loopHead } session.executor.queue
    have light : workerWeight ({ stopRequested, point := .loopHead } : Worker τ) = 2 := rfl
    have heavy : workerWeight ({ stopRequested, point := .running item } : Worker τ) = 3 := rfl
    have step : stopWeight { session with
        executor := session.executor.moveWorker index { stopRequested, point := .loopHead }
        executed := session.executed ++ [item] } = stopWeight session := same
    simp only [rank, moveWorker] at step summed ⊢
    omega
  | exited => exact absurd rfl goes

theorem Consistent.approaches {session : Session τ} (consistent : Consistent session)
    (goes : session.stopping ≠ .returned) :
    rank session.stop < rank session ∨ ∃ index, rank (session.work index) < rank session := by
  unfold Session.stop
  cases point : session.stopping with
  | notCalled =>
    left
    dsimp only
    split <;> simp only [rank, stopWeight, point] <;> omega
  | requesting next =>
    left
    dsimp only
    cases found : session.executor.workers[next]? with
    | none =>
      simp only [rank, stopWeight, point]
      omega
    | some worker =>
      have inside := (List.getElem?_eq_some_iff.mp found).1
      have summed := Threads.sum_set_add workerWeight found { worker with stopRequested := true }
      have same : workerWeight { worker with stopRequested := true } = workerWeight worker := rfl
      simp only [rank, stopWeight, point, moveWorker, List.length_set]
      omega
  | joining =>
    dsimp only
    split
    next all =>
      left
      simp only [rank, stopWeight, point, List.map_nil, List.sum_nil]
      omega
    next waits =>
      right
      rw [List.all_eq_true] at waits
      obtain ⟨worker, member, stays⟩ : ∃ worker ∈ session.executor.workers, worker.exited ≠ true := by
        by_contra none
        exact waits fun worker member => not_not.mp fun stays => none ⟨worker, member, stays⟩
      obtain ⟨index, found⟩ := List.mem_iff_getElem?.mp member
      have refusing := consistent.refusing (point ▸ StopPoint.noConfusion)
      exact ⟨index, rank_work refusing found fun exited => stays (worker.exited_iff.mpr exited)⟩
  | returned => exact absurd point goes

end QueueExecutor

namespace ThreadManager

inductive StopStage where
  | idle
  | dedicated (next : Nat)
  | io
  | workers
  | releasing
  deriving DecidableEq, Repr

/-- The manager with all its executors. `released` holds the executors that were
destroyed, as they were then. -/
structure Session (τ : Type) where
  workers : Option (QueueExecutor.Session τ) := none
  io : Option (QueueExecutor.Session τ) := none
  dedicated : List (QueueExecutor.Session τ) := []
  stage : StopStage := .idle
  released : List (QueueExecutor.Session τ) := []
  deriving DecidableEq, Repr

/-- How an executor is referred to. -/
inductive Place where
  | workers
  | io
  | dedicated (index : Nat)
  deriving DecidableEq, Repr

namespace Session

def executors (session : Session τ) : List (QueueExecutor.Session τ) :=
  session.workers.toList ++ session.io.toList ++ session.dedicated

/-- `Start`, with what `hardware_concurrency` returns. -/
def start (session : Session τ) (hardware : Nat) : Session τ :=
  match session.workers with
  | some _ => session
  | none => { session with workers := some (.started (max 2 hardware - 1)), io := some (.started 2) }

def createDedicated (session : Session τ) : Session τ :=
  { session with dedicated := session.dedicated ++ [.started 1] }

def within (session : Session τ) (place : Place)
    (step : QueueExecutor.Session τ → QueueExecutor.Session τ) : Session τ :=
  match place with
  | .workers => { session with workers := session.workers.map step }
  | .io => { session with io := session.io.map step }
  | .dedicated index =>
      match session.dedicated[index]? with
      | none => session
      | some executor => { session with dedicated := session.dedicated.set index (step executor) }

def stop (session : Session τ) : Session τ :=
  match session.stage with
  | .idle => { session with stage := .dedicated 0 }
  | .dedicated next =>
      match session.dedicated[next]? with
      | none =>
          { session with dedicated := [], stage := .io, released := session.released ++ session.dedicated }
      | some executor =>
          if executor.stopping = .returned then { session with stage := .dedicated (next + 1) }
          else session.within (.dedicated next) (·.stop)
  | .io =>
      match session.io with
      | none => { session with stage := .workers }
      | some executor =>
          if executor.stopping = .returned then { session with stage := .workers }
          else session.within .io (·.stop)
  | .workers =>
      match session.workers with
      | none => { session with stage := .releasing }
      | some executor =>
          if executor.stopping = .returned then { session with stage := .releasing }
          else session.within .workers (·.stop)
  | .releasing =>
      { session with
        workers := none
        io := none
        stage := .idle
        released := session.released ++ session.io.toList ++ session.workers.toList }

end Session

inductive Move (τ : Type) where
  | start (hardware : Nat)
  | createDedicated
  | stop
  | submit (place : Place) (task : Option τ)
  | enqueue (place : Place) (call : Nat)
  | work (place : Place) (index : Nat)

/-- The calls of `Start` and `CreateDedicated` do not overlap with that of `Stop`. -/
def Session.step (session : Session τ) : Move τ → Session τ
  | .start hardware => if session.stage = .idle then session.start hardware else session
  | .createDedicated => if session.stage = .idle then session.createDedicated else session
  | .stop => session.stop
  | .submit place task => session.within place (·.submit task)
  | .enqueue place call => session.within place (·.enqueue call)
  | .work place index => session.within place (·.work index)

/-! ## The executors at any time -/

/-- An executor that is there accepts tasks until it is stopped. -/
structure Live (executor : QueueExecutor.Session τ) : Prop where
  consistent : QueueExecutor.Consistent executor
  accepts : executor.stopping = .notCalled → executor.executor.accepting = true

/-- No thread is left, and each accepted task was executed once, or is still queued. -/
structure Accounted (executor : QueueExecutor.Session τ) : Prop where
  joined : executor.executor.workers = []
  tasks : (executor.executed ++ executor.executor.queue).Perm executor.accepted

theorem Live.accounted {executor : QueueExecutor.Session τ} (live : Live executor)
    (returned : executor.stopping = .returned) : Accounted executor := by
  have joined := live.consistent.dismissed returned
  have conserved := live.consistent.conserved
  rw [joined, Threads.held, List.flatMap_nil, List.append_nil] at conserved
  exact ⟨joined, conserved⟩

theorem live_started (workerCount : Nat) : Live (.started workerCount : QueueExecutor.Session τ) :=
  ⟨QueueExecutor.started_consistent workerCount, fun _ => rfl⟩

structure Use (step : QueueExecutor.Session τ → QueueExecutor.Session τ) : Prop where
  lives : ∀ executor, Live executor → Live (step executor)
  stopping : ∀ executor, (step executor).stopping = executor.stopping

theorem use_submit (task : Option τ) : Use (·.submit task : QueueExecutor.Session τ → QueueExecutor.Session τ) := by
  constructor
  · rintro executor ⟨consistent, accepts⟩
    refine ⟨consistent.submit task, ?_⟩
    cases task with
    | none => exact accepts
    | some task => exact accepts
  · intro executor
    cases task <;> rfl

theorem use_enqueue (call : Nat) : Use (·.enqueue call : QueueExecutor.Session τ → QueueExecutor.Session τ) := by
  constructor
  · rintro executor ⟨consistent, accepts⟩
    refine ⟨consistent.enqueue call, ?_⟩
    obtain ⟨submitting, refused | ⟨_, item, added⟩⟩ := QueueExecutor.enqueue_cases executor call
    · rw [refused]
      exact accepts
    · rw [added]
      exact accepts
  · intro executor
    obtain ⟨submitting, refused | ⟨_, item, added⟩⟩ := QueueExecutor.enqueue_cases executor call
    · rw [refused]
    · rw [added]

theorem use_work (index : Nat) : Use (·.work index : QueueExecutor.Session τ → QueueExecutor.Session τ) := by
  have stopping : ∀ executor : QueueExecutor.Session τ, (executor.work index).stopping = executor.stopping := by
    intro executor
    rcases QueueExecutor.work_cases executor index with kept | ⟨before, after, moved⟩
    · rw [kept]
    · exact moved.stopping
  refine ⟨fun executor live => ⟨live.consistent.work index, fun notCalled => ?_⟩, stopping⟩
  rw [QueueExecutor.work_accepting]
  rw [stopping] at notCalled
  exact live.accepts notCalled

theorem stop_called (executor : QueueExecutor.Session τ) :
    executor.stop.stopping ≠ .notCalled ∧
      (executor.stopping = .returned → executor.stop.stopping = .returned) := by
  unfold QueueExecutor.Session.stop
  cases point : executor.stopping with
  | notCalled =>
    dsimp only
    split <;> exact ⟨nofun, nofun⟩
  | requesting next =>
    dsimp only
    split <;> exact ⟨nofun, nofun⟩
  | joining =>
    dsimp only
    split
    · exact ⟨nofun, nofun⟩
    · rw [point]
      exact ⟨nofun, nofun⟩
  | returned =>
    dsimp only
    rw [point]
    exact ⟨nofun, fun _ => rfl⟩

theorem Live.stop {executor : QueueExecutor.Session τ} (live : Live executor) : Live executor.stop :=
  ⟨live.consistent.stop, fun notCalled => absurd notCalled (stop_called executor).1⟩

/-- What the stage of `Stop` tells of the executors that it has passed. -/
def Passed (session : Session τ) : Prop :=
  match session.stage with
  | .idle => True
  | .dedicated next =>
      ∀ index < next, ∀ executor, session.dedicated[index]? = some executor → executor.stopping = .returned
  | .io => session.dedicated = []
  | .workers => session.dedicated = [] ∧ ∀ executor ∈ session.io, executor.stopping = .returned
  | .releasing => session.dedicated = [] ∧ (∀ executor ∈ session.io, executor.stopping = .returned) ∧
      ∀ executor ∈ session.workers, executor.stopping = .returned

structure Sound (session : Session τ) : Prop where
  live : ∀ executor ∈ session.executors, Live executor
  accepting : session.stage = .idle → ∀ executor ∈ session.executors, executor.stopping = .notCalled
  passed : Passed session
  released : ∀ executor ∈ session.released, Accounted executor

theorem mem_executors {session : Session τ} {executor : QueueExecutor.Session τ} :
    executor ∈ session.executors ↔
      session.workers = some executor ∨ session.io = some executor ∨ executor ∈ session.dedicated := by
  simp only [Session.executors, List.mem_append, Option.mem_toList, or_assoc]

theorem within_stage (session : Session τ) (place : Place)
    (step : QueueExecutor.Session τ → QueueExecutor.Session τ) :
    (session.within place step).stage = session.stage ∧ (session.within place step).released = session.released := by
  unfold Session.within
  cases place with
  | workers => exact ⟨rfl, rfl⟩
  | io => exact ⟨rfl, rfl⟩
  | dedicated index =>
    dsimp only
    split <;> exact ⟨rfl, rfl⟩

theorem mem_within {session : Session τ} {place : Place}
    {step : QueueExecutor.Session τ → QueueExecutor.Session τ} {executor : QueueExecutor.Session τ}
    (member : executor ∈ (session.within place step).executors) :
    ∃ old ∈ session.executors, executor = old ∨ executor = step old := by
  have same (listed : executor ∈ session.executors) :
      ∃ old ∈ session.executors, executor = old ∨ executor = step old := ⟨executor, listed, Or.inl rfl⟩
  rw [mem_executors] at member
  cases place with
  | workers =>
    rcases member with here | io | dedicated
    · obtain ⟨old, found, rfl⟩ := Option.map_eq_some_iff.mp here
      exact ⟨old, mem_executors.mpr (Or.inl found), Or.inr rfl⟩
    · exact same (mem_executors.mpr (Or.inr (Or.inl io)))
    · exact same (mem_executors.mpr (Or.inr (Or.inr dedicated)))
  | io =>
    rcases member with workers | here | dedicated
    · exact same (mem_executors.mpr (Or.inl workers))
    · obtain ⟨old, found, rfl⟩ := Option.map_eq_some_iff.mp here
      exact ⟨old, mem_executors.mpr (Or.inr (Or.inl found)), Or.inr rfl⟩
    · exact same (mem_executors.mpr (Or.inr (Or.inr dedicated)))
  | dedicated index =>
    unfold Session.within at member
    dsimp only at member
    split at member
    · exact same (mem_executors.mpr member)
    next old found =>
      rcases member with workers | io | dedicated
      · exact same (mem_executors.mpr (Or.inl workers))
      · exact same (mem_executors.mpr (Or.inr (Or.inl io)))
      · rcases List.mem_or_eq_of_mem_set dedicated with kept | rfl
        · exact same (mem_executors.mpr (Or.inr (Or.inr kept)))
        · exact ⟨old, mem_executors.mpr (Or.inr (Or.inr (List.mem_of_getElem? found))), Or.inr rfl⟩

theorem Passed.within {session : Session τ} (passed : Passed session) (place : Place)
    {step : QueueExecutor.Session τ → QueueExecutor.Session τ}
    (kept : ∀ executor, executor.stopping = .returned → (step executor).stopping = .returned) :
    Passed (session.within place step) := by
  have mapped {part : Option (QueueExecutor.Session τ)} (all : ∀ executor ∈ part, executor.stopping = .returned) :
      ∀ executor ∈ part.map step, executor.stopping = .returned := by
    intro executor member
    obtain ⟨old, found, rfl⟩ := Option.map_eq_some_iff.mp member
    exact kept old (all old found)
  cases place with
  | workers =>
    unfold Passed at passed ⊢
    rw [(within_stage session .workers step).1]
    cases stage : session.stage <;> rw [stage] at passed
    case releasing => exact ⟨passed.1, passed.2.1, mapped passed.2.2⟩
    all_goals exact passed
  | io =>
    unfold Passed at passed ⊢
    rw [(within_stage session .io step).1]
    cases stage : session.stage <;> rw [stage] at passed
    case workers => exact ⟨passed.1, mapped passed.2⟩
    case releasing => exact ⟨passed.1, mapped passed.2.1, passed.2.2⟩
    all_goals exact passed
  | dedicated index =>
    unfold Session.within
    dsimp only
    cases found : session.dedicated[index]? with
    | none => exact passed
    | some old =>
      have absent : ¬session.dedicated = [] := List.ne_nil_of_mem (List.mem_of_getElem? found)
      unfold Passed at passed ⊢
      dsimp only
      cases stage : session.stage <;> rw [stage] at passed
      case idle => exact passed
      case dedicated next =>
        intro other before executor at_
        rw [List.getElem?_set] at at_
        split at at_
        next same =>
          subst same
          split at at_
          · cases at_
            exact kept old (passed index before old found)
          · cases at_
        next => exact passed other before executor at_
      case io => exact absurd passed absent
      case workers => exact absurd passed.1 absent
      case releasing => exact absurd passed.1 absent

theorem Sound.use {session : Session τ} (sound : Sound session) (place : Place)
    {step : QueueExecutor.Session τ → QueueExecutor.Session τ} (use : Use step) :
    Sound (session.within place step) := by
  obtain ⟨stage, released⟩ := within_stage session place step
  refine ⟨fun executor member => ?_, fun idle executor member => ?_,
    sound.passed.within place fun executor returned => (use.stopping executor).trans returned, ?_⟩
  · obtain ⟨old, listed, rfl | rfl⟩ := mem_within member
    · exact sound.live _ listed
    · exact use.lives old (sound.live old listed)
  · rw [stage] at idle
    obtain ⟨old, listed, rfl | rfl⟩ := mem_within member
    · exact sound.accepting idle _ listed
    · exact (use.stopping old).trans (sound.accepting idle old listed)
  · rw [released]
    exact sound.released

/-- While an executor is stopped, no stage is passed and none is accepting. -/
theorem Sound.stopping {session : Session τ} (sound : Sound session) (place : Place)
    (busy : session.stage ≠ .idle) : Sound (session.within place (·.stop)) := by
  obtain ⟨stage, released⟩ := within_stage session place (·.stop)
  refine ⟨fun executor member => ?_, fun idle => absurd (stage.symm.trans idle) busy,
    sound.passed.within place fun executor => (stop_called executor).2, ?_⟩
  · obtain ⟨old, listed, rfl | rfl⟩ := mem_within member
    · exact sound.live _ listed
    · exact (sound.live old listed).stop
  · rw [released]
    exact sound.released

theorem Sound.stop {session : Session τ} (sound : Sound session) : Sound session.stop := by
  have passed := sound.passed
  unfold Passed at passed
  unfold Session.stop
  cases stage : session.stage with
  | idle => exact ⟨sound.live, nofun, fun index less => absurd less (Nat.not_lt_zero index), sound.released⟩
  | dedicated next =>
    rw [stage] at passed
    dsimp only at passed ⊢
    cases found : session.dedicated[next]? with
    | none =>
      refine ⟨fun executor member => ?_, nofun, rfl, fun executor member => ?_⟩
      · rcases mem_executors.mp member with workers | io | dedicated
        · exact sound.live executor (mem_executors.mpr (Or.inl workers))
        · exact sound.live executor (mem_executors.mpr (Or.inr (Or.inl io)))
        · cases dedicated
      · rcases List.mem_append.mp member with earlier | now
        · exact sound.released executor earlier
        · obtain ⟨index, at_⟩ := List.mem_iff_getElem?.mp now
          have inside := (List.getElem?_eq_some_iff.mp at_).1
          have returned := passed index (by rw [List.getElem?_eq_none_iff] at found; omega) executor at_
          exact (sound.live executor (mem_executors.mpr (Or.inr (Or.inr now)))).accounted returned
    | some executor =>
      dsimp only
      split
      next returned =>
        refine ⟨sound.live, nofun, fun index less other at_ => ?_, sound.released⟩
        rcases Nat.lt_succ_iff_lt_or_eq.mp less with before | rfl
        · exact passed index before other at_
        · cases found.symm.trans at_
          exact returned
      · exact sound.stopping (.dedicated next) (by rw [stage]; exact StopStage.noConfusion)
  | io =>
    rw [stage] at passed
    dsimp only at passed ⊢
    split
    next found =>
      refine ⟨sound.live, nofun, ⟨passed, fun executor member => ?_⟩, sound.released⟩
      cases found.symm.trans member
    next executor found =>
      split
      next returned =>
        refine ⟨sound.live, nofun, ⟨passed, fun other member => ?_⟩, sound.released⟩
        cases found.symm.trans member
        exact returned
      · exact sound.stopping .io (by rw [stage]; exact StopStage.noConfusion)
  | workers =>
    rw [stage] at passed
    dsimp only at passed ⊢
    split
    next found =>
      refine ⟨sound.live, nofun, ⟨passed.1, passed.2, fun executor member => ?_⟩, sound.released⟩
      cases found.symm.trans member
    next executor found =>
      split
      next returned =>
        refine ⟨sound.live, nofun, ⟨passed.1, passed.2, fun other member => ?_⟩, sound.released⟩
        cases found.symm.trans member
        exact returned
      · exact sound.stopping .workers (by rw [stage]; exact StopStage.noConfusion)
  | releasing =>
    rw [stage] at passed
    obtain ⟨none, io, workers⟩ := passed
    have empty : ∀ executor : QueueExecutor.Session τ, executor ∉ (([] : List (QueueExecutor.Session τ)) ++ []) ++
        session.dedicated := by
      intro executor member
      rw [none] at member
      cases member
    refine ⟨fun executor member => absurd member (empty executor),
      fun _ executor member => absurd member (empty executor), trivial, fun executor member => ?_⟩
    simp only [List.mem_append, Option.mem_toList] at member
    rcases member with (earlier | ours) | ours
    · exact sound.released executor earlier
    · exact (sound.live executor (mem_executors.mpr (Or.inr (Or.inl ours)))).accounted (io executor ours)
    · exact (sound.live executor (mem_executors.mpr (Or.inl ours))).accounted (workers executor ours)

theorem Sound.grown {session after : Session τ} (sound : Sound session) (idle : session.stage = .idle)
    (stage : after.stage = .idle) (released : after.released = session.released)
    (each : ∀ executor ∈ after.executors,
      executor ∈ session.executors ∨ ∃ workerCount, executor = .started workerCount) : Sound after := by
  refine ⟨fun executor member => ?_, fun _ executor member => ?_, ?_, ?_⟩
  · rcases each executor member with old | ⟨workerCount, rfl⟩
    · exact sound.live executor old
    · exact live_started workerCount
  · rcases each executor member with old | ⟨workerCount, rfl⟩
    · exact sound.accepting idle executor old
    · rfl
  · unfold Passed
    rw [stage]
    trivial
  · rw [released]
    exact sound.released

theorem Sound.preserved (session : Session τ) (move : Move τ) (sound : Sound session) :
    Sound (session.step move) := by
  cases move with
  | start hardware =>
    rw [Session.step]
    split
    next idle =>
      unfold Session.start
      split
      · exact sound
      next absent =>
        refine sound.grown idle idle rfl fun executor member => ?_
        rcases mem_executors.mp member with workers | io | dedicated
        · exact Or.inr ⟨_, (Option.some.inj workers).symm⟩
        · exact Or.inr ⟨_, (Option.some.inj io).symm⟩
        · exact Or.inl (mem_executors.mpr (Or.inr (Or.inr dedicated)))
    · exact sound
  | createDedicated =>
    rw [Session.step]
    split
    next idle =>
      refine sound.grown idle idle rfl fun executor member => ?_
      rcases mem_executors.mp member with workers | io | dedicated
      · exact Or.inl (mem_executors.mpr (Or.inl workers))
      · exact Or.inl (mem_executors.mpr (Or.inr (Or.inl io)))
      · rcases List.mem_append.mp dedicated with earlier | new
        · exact Or.inl (mem_executors.mpr (Or.inr (Or.inr earlier)))
        · exact Or.inr ⟨1, List.mem_singleton.mp new⟩
    · exact sound
  | stop => exact sound.stop
  | submit place task => exact sound.use place (use_submit task)
  | enqueue place call => exact sound.use place (use_enqueue call)
  | work place index => exact sound.use place (use_work index)

theorem sound_initial : Sound ({} : Session τ) := ⟨nofun, fun _ => nofun, trivial, nofun⟩

/-- In every run, an executor that the manager destroys has no thread left, and
each task that it accepted was executed once, or is still queued. While no call
of `Stop` is under way, every executor accepts tasks. -/
theorem executors_accounted (moves : List (Move τ)) :
    let session := run Session.step {} moves
    (∀ executor ∈ session.released, Accounted executor) ∧
      (session.stage = .idle → ∀ executor ∈ session.executors, executor.executor.accepting = true) := by
  intro session
  have sound : Sound session := run_invariant Sound.preserved sound_initial moves
  refine ⟨sound.released, fun idle executor listed => ?_⟩
  exact (sound.live executor listed).accepts (sound.accepting idle executor listed)

/-! ## The return of `Stop` -/

/-- The steps of `Stop` and of the executors' workers. -/
inductive Own : Move τ → Prop where
  | stop : Own .stop
  | work (place : Place) (index : Nat) : Own (.work place index)

/-- `Stop` has returned, and no executor is left. -/
def Stopped (session : Session τ) : Prop := session.stage = .idle ∧ session.executors = []

instance decidableStopped (session : Session τ) : Decidable (Stopped session) :=
  inferInstanceAs (Decidable (_ ∧ _))

theorem Stopped.within {session : Session τ} (stopped : Stopped session) (place : Place)
    (step : QueueExecutor.Session τ → QueueExecutor.Session τ) : Stopped (session.within place step) := by
  obtain ⟨idle, none⟩ := stopped
  simp only [Session.executors, List.append_eq_nil_iff, Option.toList_eq_nil_iff] at none
  obtain ⟨⟨workers, io⟩, dedicated⟩ := none
  refine ⟨(within_stage session place step).1.trans idle, ?_⟩
  cases place <;> simp [Session.within, Session.executors, workers, io, dedicated]

/-- How far `Stop` is from its return, in executors that it has to stop. -/
def Session.stages (session : Session τ) : Nat :=
  match session.stage with
  | .idle => 0
  | .dedicated next => session.dedicated.length - next + 4
  | .io => 3
  | .workers => 2
  | .releasing => 1

def Session.current (session : Session τ) : Option (Place × QueueExecutor.Session τ) :=
  match session.stage with
  | .idle | .releasing => none
  | .dedicated next => session.dedicated[next]?.map fun executor => (.dedicated next, executor)
  | .io => session.io.map fun executor => (.io, executor)
  | .workers => session.workers.map fun executor => (.workers, executor)

def Session.rank (session : Session τ) : Nat ×ₗ Nat :=
  toLex (session.stages, session.current.elim 0 fun current => QueueExecutor.rank current.2)

theorem rank_within {session : Session τ} {place : Place} {executor : QueueExecutor.Session τ}
    (current : session.current = some (place, executor))
    {step : QueueExecutor.Session τ → QueueExecutor.Session τ}
    (lower : QueueExecutor.rank (step executor) < QueueExecutor.rank executor) :
    (session.within place step).rank < session.rank := by
  have moved : (session.within place step).stages = session.stages ∧
      (session.within place step).current = some (place, step executor) := by
    unfold Session.current at current
    unfold Session.stages Session.current
    rw [(within_stage session place step).1]
    cases stage : session.stage with
    | idle | releasing =>
      rw [stage] at current
      cases current
    | dedicated next =>
      rw [stage] at current
      obtain ⟨other, found, same⟩ := Option.map_eq_some_iff.mp current
      cases same
      obtain ⟨inside, at_⟩ := List.getElem?_eq_some_iff.mp found
      simp [Session.within, inside, at_]
    | io =>
      rw [stage] at current
      obtain ⟨other, found, same⟩ := Option.map_eq_some_iff.mp current
      cases same
      simp [Session.within, found]
    | workers =>
      rw [stage] at current
      obtain ⟨other, found, same⟩ := Option.map_eq_some_iff.mp current
      cases same
      simp [Session.within, found]
  unfold Session.rank
  rw [moved.1, moved.2, current]
  exact Prod.Lex.toLex_lt_toLex.mpr (Or.inr ⟨rfl, lower⟩)

/-- The executor that is being stopped comes nearer to its end, by a step of `Stop` or of one of its workers. -/
theorem Sound.nearer {session : Session τ} (sound : Sound session) {place : Place}
    {executor : QueueExecutor.Session τ} (current : session.current = some (place, executor))
    (listed : executor ∈ session.executors) (goes : executor.stopping ≠ .returned)
    (stops : session.stop = session.within place (·.stop)) :
    ∃ move, Own move ∧ (session.step move).stage = session.stage ∧ (session.step move).rank < session.rank := by
  rcases (sound.live executor listed).consistent.approaches goes with lower | ⟨index, lower⟩
  · refine ⟨.stop, .stop, ?_⟩
    rw [Session.step, stops]
    exact ⟨(within_stage session place _).1, rank_within current lower⟩
  · exact ⟨.work place index, .work place index, (within_stage session place _).1, rank_within current lower⟩

theorem Sound.advances {session : Session τ} (sound : Sound session) (busy : session.stage ≠ .idle) :
    ∃ move, Own move ∧ (session.step move).rank < session.rank ∧
      ((session.step move).stage = .idle → (session.step move).executors = []) := by
  have onward (move : Move τ) (own : Own move) (stage : (session.step move).stage ≠ .idle)
      (fewer : (session.step move).stages < session.stages) :
      ∃ move, Own move ∧ (session.step move).rank < session.rank ∧
        ((session.step move).stage = .idle → (session.step move).executors = []) :=
    ⟨move, own, Prod.Lex.toLex_lt_toLex.mpr (Or.inl fewer), fun idle => absurd idle stage⟩
  have inside {place : Place} {executor : QueueExecutor.Session τ}
      (current : session.current = some (place, executor)) (listed : executor ∈ session.executors)
      (goes : executor.stopping ≠ .returned) (stops : session.stop = session.within place (·.stop)) :
      ∃ move, Own move ∧ (session.step move).rank < session.rank ∧
        ((session.step move).stage = .idle → (session.step move).executors = []) := by
    obtain ⟨move, own, stage, lower⟩ := sound.nearer current listed goes stops
    exact ⟨move, own, lower, fun idle => absurd (stage.symm.trans idle) busy⟩
  cases stage : session.stage with
  | idle => exact absurd stage busy
  | dedicated next =>
    cases found : session.dedicated[next]? with
    | none =>
      refine onward .stop .stop ?_ ?_ <;> simp [Session.step, Session.stop, Session.stages, stage, found]
    | some executor =>
      by_cases returned : executor.stopping = .returned
      · have less := (List.getElem?_eq_some_iff.mp found).1
        refine onward .stop .stop ?_ ?_
        · simp [Session.step, Session.stop, stage, found, returned]
        · simp only [Session.step, Session.stop, Session.stages, stage, found, returned, if_true]
          omega
      · have current : session.current = some (.dedicated next, executor) := by
          simp [Session.current, stage, found]
        have listed := mem_executors.mpr (Or.inr (Or.inr (List.mem_of_getElem? found)))
        apply inside current listed returned
        simp [Session.stop, stage, found, returned]
  | io =>
    cases found : session.io with
    | none => refine onward .stop .stop ?_ ?_ <;> simp [Session.step, Session.stop, Session.stages, stage, found]
    | some executor =>
      by_cases returned : executor.stopping = .returned
      · refine onward .stop .stop ?_ ?_ <;>
          simp [Session.step, Session.stop, Session.stages, stage, found, returned]
      · have current : session.current = some (.io, executor) := by
          simp [Session.current, stage, found]
        have listed := mem_executors.mpr (Or.inr (Or.inl found))
        apply inside current listed returned
        simp [Session.stop, stage, found, returned]
  | workers =>
    cases found : session.workers with
    | none => refine onward .stop .stop ?_ ?_ <;> simp [Session.step, Session.stop, Session.stages, stage, found]
    | some executor =>
      by_cases returned : executor.stopping = .returned
      · refine onward .stop .stop ?_ ?_ <;>
          simp [Session.step, Session.stop, Session.stages, stage, found, returned]
      · have current : session.current = some (.workers, executor) := by
          simp [Session.current, stage, found]
        have listed := mem_executors.mpr (Or.inl found)
        apply inside current listed returned
        simp [Session.stop, stage, found, returned]
  | releasing =>
    have passed := sound.passed
    rw [Passed, stage] at passed
    refine ⟨.stop, .stop, Prod.Lex.toLex_lt_toLex.mpr (Or.inl ?_), fun _ => ?_⟩
    · simp [Session.step, Session.stop, Session.stages, stage]
    · simp [Session.step, Session.stop, Session.executors, stage, passed.1]

/-- Whatever happens before and meanwhile, a call of `Stop` needs only its own steps and those of the
workers, whose tasks come to an end, to return; then no executor is left. -/
theorem shutdown_returns (moves : List (Move τ)) (stopping : (run Session.step {} moves).stage ≠ .idle) :
    ∃ more, (∀ move ∈ more, Own move) ∧ Stopped (run Session.step {} (moves ++ more)) := by
  have start : Sound (run Session.step {} moves) ∧ ((run Session.step {} moves).stage = .idle →
      (run Session.step {} moves).executors = []) :=
    ⟨run_invariant Sound.preserved sound_initial moves, fun idle => absurd idle stopping⟩
  have advances (session : Session τ) (inv : Sound session ∧ (session.stage = .idle → session.executors = [])) :
      Stopped session ∨ ∃ move, Own move ∧
        (Sound (session.step move) ∧ ((session.step move).stage = .idle → (session.step move).executors = [])) ∧
          (session.step move).rank < session.rank := by
    obtain ⟨sound, ended⟩ := inv
    by_cases idle : session.stage = .idle
    · exact Or.inl ⟨idle, ended idle⟩
    · obtain ⟨move, own, lower, empty⟩ := sound.advances idle
      exact Or.inr ⟨move, own, ⟨sound.preserved session move, empty⟩, lower⟩
  obtain ⟨more, guarded, stopped⟩ : ∃ more,
      Guarded Session.step (fun _ => Own) (run Session.step {} moves) more ∧
        Stopped (run Session.step (run Session.step {} moves) more) :=
    exists_run_of_rank Session.rank advances start
  refine ⟨more, guarded.forall, ?_⟩
  rwa [run_append]

def stoppedBusy : List (Move Nat) :=
  [.start 4, .createDedicated, .submit .workers (some 1), .enqueue .workers 0, .submit .io (some 2), .enqueue .io 0,
    .submit (.dedicated 0) (some 3), .enqueue (.dedicated 0) 0, .stop]

theorem shutdown_returns_busy :
    ∃ more, (∀ move ∈ more, Own move) ∧ Stopped (run Session.step {} (stoppedBusy ++ more)) :=
  shutdown_returns stoppedBusy (by decide)

end ThreadManager

end DevilzDen.Backend
