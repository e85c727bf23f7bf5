import DevilzDen.Backend.Error
import DevilzDen.Foundation.Run
import DevilzDen.Foundation.Threads

/-! The executor: producers, a queue under a lock, and worker threads.

A move is one thread's next atomic step: drawing a task id, a section under the
lock, a look at the stop token, or running a task. Waiting at the condition
variable is a step that changes nothing. Notifications are left out, since a
waiting worker may look again at any time. What a task throws is swallowed.
-/

set_option autoImplicit false

namespace DevilzDen.Backend

open Foundation

abbrev TaskId := UInt64

variable {τ : Type}

structure WorkItem (τ : Type) where
  id : TaskId
  task : τ
  deriving DecidableEq, Repr

inductive WorkerPoint (τ : Type) where
  | loopHead
  | dequeuing
  | running (item : WorkItem τ)
  | exited
  deriving DecidableEq, Repr

structure Worker (τ : Type) where
  stopRequested : Bool := false
  point : WorkerPoint τ := .loopHead
  deriving DecidableEq, Repr

def Worker.exited (worker : Worker τ) : Bool := worker.point matches .exited

theorem Worker.exited_iff (worker : Worker τ) : worker.exited = true ↔ worker.point = .exited := by
  unfold Worker.exited
  cases worker.point <;> simp

structure QueueExecutor (τ : Type) where
  queue : List (WorkItem τ) := []
  workers : List (Worker τ)
  nextTask : TaskId := 0
  accepting : Bool := true
  deriving DecidableEq, Repr

namespace QueueExecutor

def create (workerCount : Nat) : QueueExecutor τ where
  workers := List.replicate (max 1 workerCount) {}

/-- `Submit` up to the lock. An exception is its text. -/
def draw (executor : QueueExecutor τ) (task : Option τ) : Except Text (WorkItem τ × QueueExecutor τ) :=
  match task with
  | none => .error (text "Cannot submit an empty task")
  | some task =>
      let id := executor.nextTask + 1
      .ok (⟨id, task⟩, { executor with nextTask := id })

def enqueue (executor : QueueExecutor τ) (item : WorkItem τ) : Except Text (QueueExecutor τ) :=
  if !executor.accepting then .error (text "Executor is stopped")
  else .ok { executor with queue := executor.queue ++ [item] }

theorem enqueue_of_accepting {executor : QueueExecutor τ} (accepting : executor.accepting = true)
    (item : WorkItem τ) :
    executor.enqueue item = .ok { executor with queue := executor.queue ++ [item] } := by
  simp [enqueue, accepting]

def moveWorker (executor : QueueExecutor τ) (index : Nat) (worker : Worker τ) : QueueExecutor τ :=
  { executor with workers := executor.workers.set index worker }

end QueueExecutor

/-- Where the call of `Stop` stands; `requesting` names the worker to ask next. -/
inductive StopPoint where
  | notCalled
  | requesting (next : Nat)
  | joining
  | returned
  deriving DecidableEq, Repr

namespace QueueExecutor

/-- An executor with the calls in progress on it. `submitting` holds the tasks
between their id and the lock. `accepted` and `executed` are the history: the
tasks for which `Submit` returned, and those that were run. -/
structure Session (τ : Type) where
  executor : QueueExecutor τ
  submitting : List (WorkItem τ) := []
  stopping : StopPoint := .notCalled
  accepted : List (WorkItem τ) := []
  executed : List (WorkItem τ) := []
  deriving DecidableEq, Repr

namespace Session

def started (workerCount : Nat) : Session τ where executor := create workerCount

def submit (session : Session τ) (task : Option τ) : Session τ :=
  match session.executor.draw task with
  | .error _ => session
  | .ok (item, executor) => { session with executor, submitting := session.submitting ++ [item] }

def enqueue (session : Session τ) (call : Nat) : Session τ :=
  match session.submitting[call]? with
  | none => session
  | some item =>
      let returned := { session with submitting := session.submitting.eraseIdx call }
      match session.executor.enqueue item with
      | .error _ => returned
      | .ok executor => { returned with executor, accepted := session.accepted ++ [item] }

def work (session : Session τ) (index : Nat) : Session τ :=
  match session.executor.workers[index]? with
  | none => session
  | some worker =>
      match worker.point with
      | .loopHead =>
          let point := if worker.stopRequested then .exited else .dequeuing
          { session with executor := session.executor.moveWorker index { worker with point } }
      | .dequeuing =>
          match session.executor.queue with
          | [] =>
              -- the wait goes on, or it ends with nothing to take, which ends the loop
              if !worker.stopRequested && session.executor.accepting then session
              else { session with executor := session.executor.moveWorker index { worker with point := .exited } }
          | item :: later =>
              let taken := session.executor.moveWorker index { worker with point := .running item }
              { session with executor := { taken with queue := later } }
      | .running item =>
          { session with
            executor := session.executor.moveWorker index { worker with point := .loopHead }
            executed := session.executed ++ [item] }
      | .exited => session

/-- The next step of `Stop`: refuse tasks, ask the workers one by one, join them all. -/
def stop (session : Session τ) : Session τ :=
  match session.stopping with
  | .notCalled =>
      if !session.executor.accepting && session.executor.workers.isEmpty then
        { session with stopping := .returned }
      else { session with executor.accepting := false, stopping := .requesting 0 }
  | .requesting next =>
      match session.executor.workers[next]? with
      | none => { session with stopping := .joining }
      | some worker =>
          { session with
            executor := session.executor.moveWorker next { worker with stopRequested := true }
            stopping := .requesting (next + 1) }
  | .joining =>
      if session.executor.workers.all (·.exited) then
        { session with executor.workers := [], stopping := .returned }
      else session
  | .returned => session

end Session

inductive Move (τ : Type) where
  | submit (task : Option τ)
  | enqueue (call : Nat)
  | work (index : Nat)
  | stop

def Session.step (session : Session τ) : Move τ → Session τ
  | .submit task => session.submit task
  | .enqueue call => session.enqueue call
  | .work index => session.work index
  | .stop => session.stop

/-! ## No accepted task is lost -/

def inHand (worker : Worker τ) : List (WorkItem τ) :=
  match worker.point with
  | .running item => [item]
  | _ => []

structure Moved (session : Session τ) (index : Nat) (before after : Worker τ) (next : Session τ) : Prop where
  found : session.executor.workers[index]? = some before
  awake : before.point ≠ .exited
  workers : next.executor.workers = session.executor.workers.set index after
  accepting : next.executor.accepting = session.executor.accepting
  stopping : next.stopping = session.stopping
  accepted : next.accepted = session.accepted
  token : after.stopRequested = before.stopRequested
  balance : ((next.executed ++ next.executor.queue) ++ inHand after).Perm
    ((session.executed ++ session.executor.queue) ++ inHand before)
  leaves : after.point = .exited → next.executor.queue = session.executor.queue ∧
    (before.point = .loopHead ∧ before.stopRequested = true ∨
      session.executor.queue = [] ∧ (before.stopRequested = true ∨ session.executor.accepting = false))

theorem work_cases (session : Session τ) (index : Nat) :
    session.work index = session ∨ ∃ before after, Moved session index before after (session.work index) := by
  unfold Session.work
  split
  · exact Or.inl rfl
  next worker found =>
    obtain ⟨stopRequested, point⟩ := worker
    cases point with
    | loopHead =>
      refine Or.inr ⟨_, _, found, nofun, rfl, rfl, rfl, rfl, rfl, ?_, ?_⟩
      · cases stopRequested <;> exact List.Perm.refl _
      · cases stopRequested with
        | false => exact nofun
        | true => exact fun _ => ⟨rfl, Or.inl ⟨rfl, rfl⟩⟩
    | dequeuing =>
      dsimp only
      split
      next empty =>
        split
        · exact Or.inl rfl
        next ended =>
          refine Or.inr ⟨_, _, found, nofun, rfl, rfl, rfl, rfl, rfl, List.Perm.refl _,
            fun _ => ⟨rfl, Or.inr ⟨empty, ?_⟩⟩⟩
          cases stopRequested with
          | true => exact Or.inl rfl
          | false => exact Or.inr (by simpa using ended)
      next item later queued =>
        refine Or.inr ⟨_, _, found, nofun, rfl, rfl, rfl, rfl, rfl, ?_,
          nofun⟩
        rw [queued, inHand, inHand, List.append_nil, List.append_assoc]
        exact List.perm_append_comm.append_left _
    | running item =>
      refine Or.inr ⟨_, _, found, nofun, rfl, rfl, rfl, rfl, rfl, ?_,
        nofun⟩
      rw [inHand, inHand, List.append_nil, List.append_assoc, List.append_assoc]
      exact List.perm_append_comm.append_left _
    | exited => exact Or.inl rfl

theorem enqueue_cases (session : Session τ) (call : Nat) :
    ∃ submitting, session.enqueue call = { session with submitting } ∨
      session.executor.accepting = true ∧ ∃ item, session.enqueue call =
        { session with
          executor.queue := session.executor.queue ++ [item]
          submitting
          accepted := session.accepted ++ [item] } := by
  unfold Session.enqueue
  split
  · exact ⟨session.submitting, Or.inl rfl⟩
  next item calling =>
    refine ⟨session.submitting.eraseIdx call, ?_⟩
    by_cases accepting : session.executor.accepting = true
    · rw [QueueExecutor.enqueue, if_neg (by simp [accepting])]
      exact Or.inr ⟨accepting, item, rfl⟩
    · rw [QueueExecutor.enqueue, if_pos (by simp [accepting])]
      exact Or.inl rfl

/-- Accepted tasks are executed, queued or in a worker's hands. Workers are
asked to stop, and leave, only once no task is accepted any more. -/
structure Consistent (session : Session τ) : Prop where
  conserved : ((session.executed ++ session.executor.queue) ++
    Threads.held inHand session.executor.workers).Perm session.accepted
  refusing : session.stopping ≠ .notCalled → session.executor.accepting = false
  asked : ∀ worker ∈ session.executor.workers, worker.stopRequested = true →
    session.executor.accepting = false
  left : ∀ worker ∈ session.executor.workers, worker.point = .exited → session.executor.accepting = false
  manned : session.executor.workers = [] → session.stopping = .returned
  dismissed : session.stopping = .returned → session.executor.workers = []

theorem started_consistent (workerCount : Nat) : Consistent (Session.started workerCount : Session τ) where
  conserved := by
    have idle : Threads.held inHand (List.replicate (max 1 workerCount) ({} : Worker τ)) = [] :=
      Threads.held_eq_nil fun worker member => by rw [List.eq_of_mem_replicate member]; rfl
    exact List.Perm.of_eq idle
  refusing called := absurd rfl called
  asked worker member stop := by rw [List.eq_of_mem_replicate member] at stop; cases stop
  left worker member exited := by rw [List.eq_of_mem_replicate member] at exited; cases exited
  manned none := by simp [Session.started, create] at none
  dismissed returned := by cases returned

theorem Consistent.moved {session next : Session τ} {index : Nat} {before after : Worker τ}
    (consistent : Consistent session) (moved : Moved session index before after next) : Consistent next where
  conserved := by
    rw [moved.workers, moved.accepted]
    exact (Threads.held_set_perm inHand moved.found moved.balance).trans consistent.conserved
  refusing called := by
    rw [moved.accepting]
    exact consistent.refusing (moved.stopping ▸ called)
  asked := by
    rw [moved.workers, moved.accepting]
    exact Threads.forall_set consistent.asked fun stop =>
      consistent.asked before (List.mem_of_getElem? moved.found) (moved.token ▸ stop)
  left := by
    rw [moved.workers, moved.accepting]
    apply Threads.forall_set consistent.left
    intro leaving
    rcases (moved.leaves leaving).2 with ⟨_, stop⟩ | ⟨_, stop | shut⟩
    · exact consistent.asked before (List.mem_of_getElem? moved.found) stop
    · exact consistent.asked before (List.mem_of_getElem? moved.found) stop
    · exact shut
  manned none := by
    rw [moved.workers, List.set_eq_nil_iff] at none
    exact moved.stopping.trans (consistent.manned none)
  dismissed returned := by
    have none := consistent.dismissed (moved.stopping.symm.trans returned)
    have found := moved.found
    rw [none] at found
    cases found

theorem Consistent.work {session : Session τ} (consistent : Consistent session) (index : Nat) :
    Consistent (session.work index) := by
  rcases work_cases session index with kept | ⟨before, after, moved⟩
  · rw [kept]
    exact consistent
  · exact consistent.moved moved

theorem Consistent.underway {session : Session τ} (consistent : Consistent session) (nextTask : TaskId)
    (submitting : List (WorkItem τ)) :
    Consistent { session with executor.nextTask := nextTask, submitting } :=
  ⟨consistent.conserved, consistent.refusing, consistent.asked, consistent.left, consistent.manned,
    consistent.dismissed⟩

theorem Consistent.submit {session : Session τ} (consistent : Consistent session) (task : Option τ) :
    Consistent (session.submit task) := by
  cases task with
  | none => exact consistent
  | some task => exact consistent.underway _ _

theorem Consistent.accept {session : Session τ} (consistent : Consistent session)
    (accepting : session.executor.accepting = true) (item : WorkItem τ) :
    Consistent { session with
      executor.queue := session.executor.queue ++ [item]
      accepted := session.accepted ++ [item] } := by
  -- while tasks are accepted, nothing is said of `Stop` or of workers that leave
  have shut {goal : Prop} (refusing : session.executor.accepting = false) : goal :=
    absurd (accepting.symm.trans refusing) Bool.noConfusion
  refine ⟨?_, fun called => shut (consistent.refusing called),
    fun worker member stop => shut (consistent.asked worker member stop),
    fun worker member exited => shut (consistent.left worker member exited),
    consistent.manned, consistent.dismissed⟩
  refine List.Perm.trans ?_ (consistent.conserved.append_right [item])
  simp only [List.append_assoc]
  exact (List.perm_append_comm.append_left _).append_left _

theorem Consistent.enqueue {session : Session τ} (consistent : Consistent session) (call : Nat) :
    Consistent (session.enqueue call) := by
  obtain ⟨submitting, refused | ⟨accepting, item, added⟩⟩ := enqueue_cases session call
  · rw [refused]
    exact consistent.underway _ _
  · rw [added]
    exact (consistent.accept accepting item).underway session.executor.nextTask submitting

theorem Consistent.stop {session : Session τ} (consistent : Consistent session) :
    Consistent session.stop := by
  unfold Session.stop
  split
  next point =>
    split
    next done =>
      rw [Bool.and_eq_true, Bool.not_eq_true', List.isEmpty_iff] at done
      exact ⟨consistent.conserved, fun _ => done.1, consistent.asked, consistent.left, fun _ => rfl,
        fun _ => done.2⟩
    next =>
      refine ⟨consistent.conserved, fun _ => rfl, fun _ _ _ => rfl, fun _ _ _ => rfl, fun none => ?_, nofun⟩
      exact absurd (point.symm.trans (consistent.manned none)) nofun
  next index point =>
    have shut := consistent.refusing (point ▸ nofun)
    split
    next =>
      refine ⟨consistent.conserved, fun _ => shut, consistent.asked, consistent.left, fun none => ?_, nofun⟩
      exact absurd (point.symm.trans (consistent.manned none)) nofun
    next worker found =>
      refine ⟨?_, fun _ => shut, fun _ _ _ => shut, fun _ _ _ => shut, fun none => ?_, nofun⟩
      · -- the request changes nothing of what the worker holds
        have same : ((session.executed ++ session.executor.queue) ++
            inHand { worker with stopRequested := true }).Perm
              ((session.executed ++ session.executor.queue) ++ inHand worker) := List.Perm.refl _
        exact (Threads.held_set_perm inHand found same).trans consistent.conserved
      · rw [moveWorker, List.set_eq_nil_iff] at none
        exact absurd (point.symm.trans (consistent.manned none)) nofun
  next point =>
    split
    next left =>
      refine ⟨?_, fun _ => consistent.refusing (point ▸ nofun), nofun, nofun, fun _ => rfl, fun _ => rfl⟩
      have empty : Threads.held inHand session.executor.workers = [] := by
        apply Threads.held_eq_nil
        intro worker member
        rw [inHand, worker.exited_iff.mp (List.all_eq_true.mp left worker member)]
      have conserved := consistent.conserved
      rw [empty] at conserved
      exact conserved
    next => exact consistent
  next => exact consistent

theorem Consistent.preserved {session : Session τ} (consistent : Consistent session) (move : Move τ) :
    Consistent (session.step move) := by
  cases move with
  | submit task => exact consistent.submit task
  | enqueue call => exact consistent.enqueue call
  | work index => exact consistent.work index
  | stop => exact consistent.stop

/-- Every accepted task has been executed once when `Stop` returns. -/
def NothingLost (session : Session τ) : Prop :=
  session.stopping = .returned → session.executed.Perm session.accepted

/-- A worker that sees its stop request leaves an empty queue, or a colleague that is still there. -/
def Respects (session : Session τ) : Move τ → Prop
  | .work index => ∀ worker, session.executor.workers[index]? = some worker →
      worker.point = .loopHead → worker.stopRequested = true →
      session.executor.queue = [] ∨ ∃ other colleague, other ≠ index ∧
        session.executor.workers[other]? = some colleague ∧ colleague.point ≠ .exited
  | _ => True

def AllLeft (session : Session τ) : Prop := ∀ worker ∈ session.executor.workers, worker.point = .exited

/-- The last worker leaves no task behind. -/
def Served (session : Session τ) : Prop := AllLeft session → session.executor.queue = []

def Stranded (session : Session τ) : Prop := AllLeft session ∧ session.executor.queue ≠ []

theorem stop_left (session : Session τ) :
    session.stop.executor.queue = session.executor.queue ∧ (AllLeft session.stop ↔ AllLeft session) := by
  unfold Session.stop
  split
  · split <;> exact ⟨rfl, Iff.rfl⟩
  · split
    · exact ⟨rfl, Iff.rfl⟩
    next worker found => exact ⟨rfl, Threads.forall_set_iff found Iff.rfl⟩
  · split
    next all =>
      have left : AllLeft session := fun worker member =>
        worker.exited_iff.mp (List.all_eq_true.mp all worker member)
      exact ⟨rfl, fun _ => left, fun _ => nofun⟩
    next => exact ⟨rfl, Iff.rfl⟩
  · exact ⟨rfl, Iff.rfl⟩

/-- Whoever moves, the last worker to leave serves the queue first. -/
theorem Served.preserved {session : Session τ} (consistent : Consistent session) (served : Served session)
    {move : Move τ} (respects : Respects session move) : Served (session.step move) := by
  cases move with
  | submit task => cases task <;> exact served
  | enqueue call =>
    obtain ⟨submitting, refused | ⟨accepting, item, added⟩⟩ := enqueue_cases session call
    · rw [Session.step, refused]
      exact served
    · rw [Session.step, added]
      intro left
      -- a task was accepted, so a worker is still there
      obtain ⟨worker, member⟩ : ∃ worker, worker ∈ session.executor.workers := by
        by_contra none
        rw [not_exists, ← List.eq_nil_iff_forall_not_mem] at none
        have returned := consistent.manned none
        have shut := consistent.refusing (returned ▸ nofun)
        exact absurd (accepting.symm.trans shut) nofun
      exact absurd (accepting.symm.trans (consistent.left worker member (left worker member))) nofun
  | work index =>
    rcases work_cases session index with kept | ⟨before, after, moved⟩
    · rw [Session.step, kept]
      exact served
    · intro left
      have here : after ∈ (session.work index).executor.workers := by
        rw [moved.workers]
        exact List.mem_set (List.getElem?_eq_some_iff.mp moved.found).1 _
      obtain ⟨queue, why⟩ := moved.leaves (left after here)
      rw [Session.step, queue]
      rcases why with ⟨point, stop⟩ | ⟨empty, _⟩
      · rcases respects before moved.found point stop with empty | ⟨other, colleague, apart, found, awake⟩
        · exact empty
        · have still : colleague ∈ (session.work index).executor.workers := by
            rw [moved.workers]
            exact List.mem_of_getElem? ((List.getElem?_set_ne apart.symm).trans found)
          exact absurd (left colleague still) awake
      · exact empty
  | stop =>
    obtain ⟨queue, same⟩ := stop_left session
    intro left
    rw [Session.step, queue]
    exact served (same.mp left)

/-- A worker that leaves against the rule strands what is queued. -/
theorem stranded_of_not_respects {session : Session τ} {move : Move τ} (violates : ¬Respects session move) :
    Stranded (session.step move) := by
  cases move with
  | submit | enqueue | stop => exact absurd trivial violates
  | work index =>
    simp only [Respects, not_forall, not_or, not_exists, not_and, not_not] at violates
    obtain ⟨⟨stopRequested, point⟩, found, rfl, rfl, queued, alone⟩ := violates
    have left : session.work index =
        { session with executor := session.executor.moveWorker index ⟨true, .exited⟩ } := by
      rw [Session.work, found]
      rfl
    rw [Session.step, left]
    refine ⟨fun worker member => ?_, queued⟩
    obtain ⟨other, at_⟩ := List.mem_iff_getElem?.mp member
    rw [moveWorker, List.getElem?_set] at at_
    split at at_
    next same =>
      split at at_
      · cases at_; rfl
      · cases at_
    next apart => exact alone other worker (Ne.symm apart) at_

theorem Stranded.preserved {session : Session τ} (stranded : Stranded session) (move : Move τ) :
    Stranded (session.step move) := by
  cases move with
  | submit task => cases task <;> exact stranded
  | enqueue call =>
    obtain ⟨submitting, refused | ⟨_, item, added⟩⟩ := enqueue_cases session call
    · rw [Session.step, refused]
      exact stranded
    · rw [Session.step, added]
      exact ⟨stranded.1, List.append_ne_nil_of_left_ne_nil stranded.2 _⟩
  | work index =>
    rcases work_cases session index with kept | ⟨before, after, moved⟩
    · rw [Session.step, kept]
      exact stranded
    · exact absurd (stranded.1 before (List.mem_of_getElem? moved.found)) moved.awake
  | stop =>
    obtain ⟨queue, same⟩ := stop_left session
    exact ⟨same.mpr stranded.1, queue ▸ stranded.2⟩

theorem Consistent.nothingLost_iff {session : Session τ} (consistent : Consistent session)
    (returned : session.stopping = .returned) :
    session.executed.Perm session.accepted ↔ session.executor.queue = [] := by
  have conserved := consistent.conserved
  rw [consistent.dismissed returned, Threads.held, List.flatMap_nil, List.append_nil] at conserved
  constructor
  · intro all
    have lengths := (all.trans conserved.symm).length_eq
    rw [List.length_append] at lengths
    exact List.length_eq_zero_iff.mp (by omega)
  · intro empty
    rw [empty, List.append_nil] at conserved
    exact conserved

theorem Consistent.nothingLost {session : Session τ} (consistent : Consistent session)
    (served : Served session) : NothingLost session := by
  intro returned
  have dismissed := consistent.dismissed returned
  exact (consistent.nothingLost_iff returned).mpr (served fun worker member => by
    rw [dismissed] at member
    cases member)

/-- Nothing is executed that was not accepted. Nothing accepted is lost in a run
whose last worker always empties the queue, and a run in which `Stop` returns
loses nothing only if it is such a run. -/
theorem accepted_executed_iff (workerCount : Nat) (moves : List (Move τ)) :
    let started : Session τ := Session.started workerCount
    let session := run Session.step started moves
    session.executed.Subperm session.accepted ∧
      (Guarded Session.step Respects started moves → Always Session.step NothingLost started moves) ∧
      (session.stopping = .returned →
        (session.executed.Perm session.accepted ↔ Guarded Session.step Respects started moves)) := by
  intro started session
  have initially : Consistent started ∧ Served started := ⟨started_consistent workerCount, fun _ => rfl⟩
  have preserved : ∀ (session : Session τ) move, Consistent session ∧ Served session →
      Respects session move → Consistent (session.step move) ∧ Served (session.step move) :=
    fun _ move holds respects => ⟨holds.1.preserved move, holds.2.preserved holds.1 respects⟩
  have consistent : Consistent session :=
    run_invariant (fun _ move consistent => consistent.preserved move) initially.1 moves
  refine ⟨?_, Guarded.always preserved (fun _ holds => holds.1.nothingLost holds.2) initially, fun returned => ?_⟩
  · exact ((List.sublist_append_left _ _).trans (List.sublist_append_left _ _)).subperm.trans
      consistent.conserved.subperm
  · constructor
    · intro all
      rcases guarded_or_run preserved (fun _ _ _ => stranded_of_not_respects)
        (fun _ move stranded => stranded.preserved move) initially moves with guarded | stranded
      · exact guarded
      · exact absurd ((consistent.nothingLost_iff returned).mp all) stranded.2
    · intro guarded
      exact (Guarded.invariant preserved initially guarded).1.nothingLost
        (Guarded.invariant preserved initially guarded).2 returned

/-- One worker takes the first of two tasks, and `Stop` asks it to stop before it has run. -/
def stoppedWhileBusy : List (Move Nat) :=
  [.submit (some 10), .enqueue 0, .submit (some 20), .enqueue 0, .work 0, .work 0, .stop, .stop, .stop,
    .work 0, .work 0, .stop]

theorem queued_task_never_executed :
    let session := run Session.step (Session.started 1) stoppedWhileBusy
    session.stopping = .returned ∧ session.accepted = [⟨1, 10⟩, ⟨2, 20⟩] ∧ session.executed = [⟨1, 10⟩] ∧
      ¬NothingLost session := by
  refine ⟨rfl, rfl, rfl, fun nothing => ?_⟩
  have lengths := (nothing rfl).length_eq
  revert lengths
  decide

/-! ## What is still to be run -/

def running (session : Session τ) (index : Nat) : Option (WorkItem τ) :=
  match session.executor.workers[index]? with
  | some ⟨_, .running item⟩ => some item
  | _ => none

def outstanding (session : Session τ) : List (WorkItem τ) :=
  session.executor.queue ++ Threads.held inHand session.executor.workers

theorem work_executed (session : Session τ) (index : Nat) :
    (session.work index).executed = session.executed ++ (running session index).toList := by
  unfold Session.work running
  cases session.executor.workers[index]? with
  | none => simp
  | some worker =>
    obtain ⟨stopRequested, point⟩ := worker
    cases point with
    | loopHead | exited => simp
    | running item => simp
    | dequeuing =>
      dsimp only
      split
      · split <;> simp
      · simp

theorem work_accepted (session : Session τ) (index : Nat) :
    (session.work index).accepted = session.accepted := by
  rcases work_cases session index with kept | ⟨before, after, moved⟩
  · rw [kept]
  · exact moved.accepted

theorem work_accepting (session : Session τ) (index : Nat) :
    (session.work index).executor.accepting = session.executor.accepting := by
  rcases work_cases session index with kept | ⟨before, after, moved⟩
  · rw [kept]
  · exact moved.accepting

theorem stop_history (session : Session τ) :
    session.stop.executed = session.executed ∧ session.stop.accepted = session.accepted := by
  unfold Session.stop
  split
  · split <;> exact ⟨rfl, rfl⟩
  · split <;> exact ⟨rfl, rfl⟩
  · split <;> exact ⟨rfl, rfl⟩
  · exact ⟨rfl, rfl⟩

theorem Consistent.outstanding_perm {before after : Session τ} (earlier : Consistent before)
    (later : Consistent after) {ran taken : List (WorkItem τ)} (executed : after.executed = before.executed ++ ran)
    (accepted : after.accepted = before.accepted ++ taken) :
    (ran ++ outstanding after).Perm (outstanding before ++ taken) := by
  have now := later.conserved
  rw [executed, accepted, List.append_assoc, List.append_assoc] at now
  have old := earlier.conserved.append_right taken
  rw [List.append_assoc, List.append_assoc] at old
  have same := now.trans old.symm
  rw [List.perm_append_left_iff] at same
  rwa [outstanding, outstanding, List.append_assoc]

def toQueue (session : Session τ) : Nat :=
  match session.executor.workers with
  | ⟨_, .loopHead⟩ :: _ => 1
  | ⟨_, .running _⟩ :: _ => 2
  | _ => 0

/-- How far a wanted task is from a worker's hands, if the first worker takes it there. -/
def distance (wanted : WorkItem τ → Bool) (session : Session τ) : Nat :=
  if (Threads.held inHand session.executor.workers).any wanted then 0
  else 3 * session.executor.queue.findIdx wanted + toQueue session + 1

theorem distance_le (wanted : WorkItem τ → Bool) (session : Session τ) :
    distance wanted session ≤ 3 * session.executor.queue.findIdx wanted + toQueue session + 1 := by
  unfold distance
  split <;> omega

theorem exists_running {session : Session τ} {wanted : WorkItem τ → Bool}
    (inHands : (Threads.held inHand session.executor.workers).any wanted = true) :
    ∃ index, (running session index).any wanted := by
  obtain ⟨item, member, isWanted⟩ := List.any_eq_true.mp inHands
  obtain ⟨⟨stopRequested, point⟩, found, holds⟩ := List.mem_flatMap.mp member
  obtain ⟨index, at_⟩ := List.mem_iff_getElem?.mp found
  refine ⟨index, ?_⟩
  cases point with
  | running other =>
    rw [inHand, List.mem_singleton] at holds
    rw [running, at_, ← holds]
    exact isWanted
  | loopHead | dequeuing | exited => cases holds

theorem Consistent.exists_work_closer {session : Session τ} (consistent : Consistent session)
    (accepting : session.executor.accepting = true) {wanted : WorkItem τ → Bool}
    (awaited : ∃ item ∈ outstanding session, wanted item) :
    ∃ index, (running session index).any wanted ∨
      distance wanted (session.work index) < distance wanted session := by
  have shut {goal : Prop} (refusing : session.executor.accepting = false) : goal :=
    absurd (accepting.symm.trans refusing) Bool.noConfusion
  by_cases inHands : (Threads.held inHand session.executor.workers).any wanted = true
  · obtain ⟨index, runs⟩ := exists_running inHands
    exact ⟨index, Or.inl runs⟩
  · have far : distance wanted session = 3 * session.executor.queue.findIdx wanted + toQueue session + 1 :=
      if_neg inHands
    obtain ⟨item, member, isWanted⟩ := awaited
    have queued : item ∈ session.executor.queue := by
      rcases List.mem_append.mp member with queued | held
      · exact queued
      · exact absurd (List.any_eq_true.mpr ⟨item, held, isWanted⟩) inHands
    refine ⟨0, Or.inr ?_⟩
    rw [far]
    cases workers : session.executor.workers with
    | nil =>
      have returned := consistent.manned workers
      exact shut (consistent.refusing (returned ▸ nofun))
    | cons first others =>
      have member : first ∈ session.executor.workers := workers ▸ List.mem_cons_self
      obtain ⟨stopRequested, point⟩ := first
      cases point with
      | loopHead =>
        cases stopRequested with
        | true => exact shut (consistent.asked _ member rfl)
        | false =>
          apply Nat.lt_of_le_of_lt (distance_le wanted _)
          simp [Session.work, moveWorker, toQueue, workers]
      | dequeuing =>
        cases queue : session.executor.queue with
        | nil =>
          rw [queue] at queued
          cases queued
        | cons next later =>
          by_cases isNext : wanted next = true
          · -- it is in the worker's hands now
            have held : distance wanted (session.work 0) = 0 :=
              if_pos (by simp [Session.work, moveWorker, workers, queue, Threads.held, inHand, isNext])
            omega
          · apply Nat.lt_of_le_of_lt (distance_le wanted _)
            simp [Session.work, moveWorker, toQueue, workers, queue, List.findIdx_cons, isNext]
            omega
      | running other =>
        apply Nat.lt_of_le_of_lt (distance_le wanted _)
        simp [Session.work, moveWorker, toQueue, workers]
      | exited => exact shut (consistent.left _ member rfl)

end QueueExecutor

end DevilzDen.Backend
