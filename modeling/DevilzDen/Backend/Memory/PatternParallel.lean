import DevilzDen.Backend.Memory.PatternBatchScanner
import DevilzDen.Backend.Threading.QueueExecutor
import Mathlib.Data.Prod.Lex

/-! `ResolveParallel` against the life of the thread manager.

The call submits a job for each request to the shared workers and waits for the
promises in order, while other threads start and stop the manager, submit tasks
of their own and run what is queued. An executor is known by its number, so
that a reference to one that is gone can be told. What a scan comes to, be it a
result or an exception of the validator, is part of the worker's move. Saving
the cache afterwards does not change the outcome and is left out.
-/

set_option autoImplicit false

namespace DevilzDen.Backend

open Foundation

/-- The shared workers; the other executors take no part. -/
structure ThreadManager (τ : Type) where
  executor : Option (QueueExecutor.Session τ) := none
  created : Nat := 0
  deriving DecidableEq, Repr

namespace ThreadManager

variable {τ : Type}

def start (manager : ThreadManager τ) (workerCount : Nat) : ThreadManager τ :=
  match manager.executor with
  | some _ => manager
  | none => { executor := some (.started workerCount), created := manager.created + 1 }

/-- `Workers`: the reference it returns is the executor's number. -/
def workers (manager : ThreadManager τ) : Except Text Nat :=
  match manager.executor with
  | none => .error (text "ThreadManager is not started")
  | some _ => .ok manager.created

/-- The executor that a reference leads to, while it exists. -/
def refer (manager : ThreadManager τ) (number : Nat) : Option (QueueExecutor.Session τ) :=
  if number = manager.created then manager.executor else none

theorem refer_eq_some {manager : ThreadManager τ} {number : Nat} {shared : QueueExecutor.Session τ}
    (found : manager.refer number = some shared) : number = manager.created ∧ manager.executor = some shared := by
  unfold refer at found
  split at found
  next current => exact ⟨current, found⟩
  next => cases found

/-- The next step of `Stop`: of that of the executor, and then its destruction, with what is still queued. -/
def stop (manager : ThreadManager τ) : ThreadManager τ × List (WorkItem τ) :=
  match manager.executor with
  | none => (manager, [])
  | some session =>
      if session.stopping = .returned then ({ manager with executor := none }, session.executor.queue)
      else ({ manager with executor := some session.stop }, [])

end ThreadManager

namespace PatternParallel

/-- The tasks on the shared workers: a job of the call, by the place of its request, or another one. -/
inductive Task where
  | job (index : Nat)
  | other
  deriving DecidableEq, Repr

inductive Scanned where
  | resolved (resolution : PatternResolution)
  | failed (error : Error)
  | threw (what : Text)
  | threwUnknown
  deriving DecidableEq, Repr

def workerError (message : String) (name : Text) : Error :=
  Error.withContext { code := .taskExecutionFailed, category := .threading, message := text message } "Pattern" name

def jobResult (name : Text) : Scanned → Result PatternResolution
  | .resolved resolution => .ok resolution
  | .failed error => .error error
  | .threw what => .error ((workerError "Pattern worker threw an exception" name).withContext "Exception" what)
  | .threwUnknown => .error (workerError "Pattern worker threw an unknown exception" name)

inductive Promise where
  | pending
  | kept (result : Result PatternResolution)
  | broken
  deriving DecidableEq, Repr

/-- A promise is settled once: a second attempt throws, and the worker swallows that. -/
def settle (promises : List Promise) (index : Nat) (settled : Promise) : List Promise :=
  match promises[index]? with
  | some .pending => promises.set index settled
  | _ => promises

/-- A task that is destroyed breaks its promise. -/
def breakPromise (promises : List Promise) (item : WorkItem Task) : List Promise :=
  match item.task with
  | .job index => settle promises index .broken
  | .other => promises

/-- Where the call stands. An exception is its text; a use of a destroyed executor is `dangling`. -/
inductive CallPoint where
  | obtaining
  | submitting (number : Nat)
  | locking (number : Nat) (item : WorkItem Task)
  | notifying (number : Nat)
  | waiting (resolutions : List PatternResolution)
  | returned (result : Result (List PatternResolution))
  | threw (what : Text)
  | dangling
  deriving DecidableEq, Repr

structure Session where
  /-- The names of the requests. -/
  requests : List Text
  threads : ThreadManager Task := {}
  promises : List Promise := []
  call : CallPoint := .obtaining
  deriving DecidableEq, Repr

def Session.begun (requests : List Text) : Session where
  requests
  call := if requests = [] then .returned (.ok []) else .obtaining

def callStep (session : Session) : Session :=
  match session.call with
  | .obtaining =>
      if session.promises.length = session.requests.length then { session with call := .waiting [] }
      else
        let promised := { session with promises := session.promises ++ [Promise.pending] }
        match session.threads.workers with
        | .error what => { promised with call := .threw what }
        | .ok number => { promised with call := .submitting number }
  | .submitting number =>
      match session.threads.refer number with
      | none => { session with call := .dangling }
      | some shared =>
          match shared.executor.draw (some (.job (session.promises.length - 1))) with
          | .error what => { session with call := .threw what }
          | .ok (item, executor) =>
              { session with
                threads.executor := some { shared with executor }
                call := .locking number item }
  | .locking number item =>
      match session.threads.refer number with
      | none => { session with call := .dangling }
      | some shared =>
          match shared.executor.enqueue item with
          | .error what => { session with call := .threw what }
          | .ok executor =>
              { session with
                threads.executor := some { shared with executor, accepted := shared.accepted ++ [item] }
                call := .notifying number }
  | .notifying number =>
      -- `Submit` has given up its mutex, and wakes a worker
      match session.threads.refer number with
      | none => { session with call := .dangling }
      | some _ => { session with call := .obtaining }
  | .waiting resolutions =>
      match session.promises[resolutions.length]? with
      | none => { session with call := .returned (.ok resolutions) }
      | some .pending => session
      | some .broken => { session with call := .threw (text "broken promise") }
      | some (.kept (.error error)) => { session with call := .returned (.error error) }
      | some (.kept (.ok resolution)) => { session with call := .waiting (resolutions ++ [resolution]) }
  | .returned _ | .threw _ | .dangling => session

def work (session : Session) (index : Nat) (scanned : Scanned) : Session :=
  match session.threads.executor with
  | none => session
  | some shared =>
      let moved := { session with threads.executor := some (shared.work index) }
      match QueueExecutor.running shared index with
      | some ⟨_, .job place⟩ =>
          let result := jobResult (session.requests[place]?.getD []) scanned
          { moved with promises := settle session.promises place (.kept result) }
      | _ => moved

inductive Move where
  | start (workerCount : Nat)
  | stop
  | submit
  | enqueue (call : Nat)
  | work (index : Nat) (scanned : Scanned)
  | call
  deriving DecidableEq, Repr

def Session.onExecutor (session : Session) (move : QueueExecutor.Move Task) : Session :=
  { session with threads.executor := session.threads.executor.map (·.step move) }

def step (session : Session) : Move → Session
  | .start workerCount => { session with threads := session.threads.start workerCount }
  | .stop =>
      let (threads, destroyed) := session.threads.stop
      { session with threads, promises := destroyed.foldl breakPromise session.promises }
  | .submit => session.onExecutor (.submit (some .other))
  | .enqueue call => session.onExecutor (.enqueue call)
  | .work index scanned => work session index scanned
  | .call => callStep session

/-! ## What a step does to the promises -/

structure Advanced (before after : List Promise) : Prop where
  length : after.length = before.length
  settled : ∀ index : Nat, before[index]? ≠ some Promise.pending → after[index]? = before[index]?

theorem Advanced.refl (promises : List Promise) : Advanced promises promises := ⟨rfl, fun _ _ => rfl⟩

theorem Advanced.trans {first second third : List Promise} (early : Advanced first second)
    (late : Advanced second third) : Advanced first third where
  length := late.length.trans early.length
  settled index apart := by
    have same := early.settled index apart
    rw [late.settled index (by rwa [same]), same]

theorem Advanced.pending {before after : List Promise} (advanced : Advanced before after) {index : Nat}
    (waits : after[index]? = some Promise.pending) : before[index]? = some Promise.pending := by
  by_contra apart
  exact apart ((advanced.settled index apart).symm.trans waits)

theorem settle_advanced (promises : List Promise) (index : Nat) (settled : Promise) :
    Advanced promises (settle promises index settled) := by
  unfold settle
  split
  next waits =>
    refine ⟨List.length_set, fun other apart => ?_⟩
    rw [List.getElem?_set_ne]
    intro same
    exact apart (same ▸ waits)
  next => exact Advanced.refl promises

theorem settle_settles {promises : List Promise} {index : Nat} {settled : Promise} (apart : settled ≠ .pending) :
    (settle promises index settled)[index]? ≠ some Promise.pending := by
  unfold settle
  split
  next waits =>
    obtain ⟨inside, _⟩ := List.getElem?_eq_some_iff.mp waits
    rw [List.getElem?_set_self inside]
    simpa using apart
  next other => exact other

theorem settle_intact {promises : List Promise} {place : Nat} {settled : Promise}
    (intact : ∀ index : Nat, promises[index]? ≠ some Promise.broken) (apart : settled ≠ .broken) (index : Nat) :
    (settle promises place settled)[index]? ≠ some Promise.broken := by
  unfold settle
  split
  next =>
    rw [List.getElem?_set]
    split
    · split <;> simp [apart]
    · exact intact index
  next => exact intact index

theorem breakPromise_advanced (promises : List Promise) (item : WorkItem Task) :
    Advanced promises (breakPromise promises item) := by
  unfold breakPromise
  split
  · exact settle_advanced promises _ _
  · exact Advanced.refl promises

theorem foldl_breakPromise_advanced (promises : List Promise) (destroyed : List (WorkItem Task)) :
    Advanced promises (destroyed.foldl breakPromise promises) := by
  induction destroyed generalizing promises with
  | nil => exact Advanced.refl promises
  | cons item later ih => exact (breakPromise_advanced promises item).trans (ih _)

structure Beside (before after : Session) : Prop where
  requests : after.requests = before.requests
  call : after.call = before.call
  promises : Advanced before.promises after.promises

theorem work_beside (session : Session) (index : Nat) (scanned : Scanned) :
    Beside session (work session index scanned) := by
  unfold work
  split
  · exact ⟨rfl, rfl, Advanced.refl _⟩
  next shared _ =>
    dsimp only
    split
    · exact ⟨rfl, rfl, settle_advanced _ _ _⟩
    · exact ⟨rfl, rfl, Advanced.refl _⟩

theorem step_beside (session : Session) (move : Move) (apart : move ≠ .call) :
    Beside session (step session move) := by
  cases move with
  | start | submit | enqueue => exact ⟨rfl, rfl, Advanced.refl _⟩
  | stop => exact ⟨rfl, rfl, foldl_breakPromise_advanced _ _⟩
  | work index scanned => exact work_beside session index scanned
  | call => exact absurd rfl apart

/-! ## When the call reports through its result -/

/-- The promises from the first one on are kept with these resolutions. -/
def Collected (promises : List Promise) (resolutions : List PatternResolution) : Prop :=
  ∀ (index : Nat) resolution, resolutions[index]? = some resolution →
    promises[index]? = some (Promise.kept (.ok resolution))

/-- The call has not thrown, nor used what is gone, and a success has the
resolution of each request, in order. -/
def Reports (session : Session) : Prop :=
  match session.call with
  | .threw _ | .dangling => False
  | .returned (.ok resolutions) =>
      resolutions.length = session.requests.length ∧ Collected session.promises resolutions
  | _ => True

/-- The manager is started where the call asks for it; the executor it then has
is there where the call uses it, and accepts where it submits; and no promise it
waits for is broken. -/
def Respects (session : Session) : Move → Prop
  | .call =>
      match session.call with
      | .obtaining => session.promises.length = session.requests.length ∨ session.threads.executor.isSome
      | .submitting number => (session.threads.refer number).isSome
      | .locking number _ => (session.threads.refer number).any (·.executor.accepting)
      | .notifying number => (session.threads.refer number).isSome
      | .waiting resolutions => session.promises[resolutions.length]? ≠ some Promise.broken
      | .returned _ | .threw _ | .dangling => True
  | _ => True

inductive CallTaken (session : Session) : Session → Prop where
  | submitted (point : session.call = .obtaining) (all : session.promises.length = session.requests.length) :
      CallTaken session { session with call := .waiting [] }
  | promised {shared : QueueExecutor.Session Task} (point : session.call = .obtaining)
      (fewer : session.promises.length ≠ session.requests.length)
      (there : session.threads.executor = some shared) :
      CallTaken session { session with
        promises := session.promises ++ [Promise.pending]
        call := .submitting session.threads.created }
  | drew {number : Nat} {shared : QueueExecutor.Session Task} (point : session.call = .submitting number)
      (there : session.threads.executor = some shared) :
      CallTaken session { session with
        threads.executor := some { shared with executor.nextTask := shared.executor.nextTask + 1 }
        call := .locking number ⟨shared.executor.nextTask + 1, .job (session.promises.length - 1)⟩ }
  | queued {number : Nat} {item : WorkItem Task} {shared : QueueExecutor.Session Task}
      (point : session.call = .locking number item) (there : session.threads.executor = some shared)
      (accepting : shared.executor.accepting = true) :
      CallTaken session { session with
        threads.executor := some { shared with
          executor.queue := shared.executor.queue ++ [item]
          accepted := shared.accepted ++ [item] }
        call := .notifying number }
  | notified {number : Nat} (point : session.call = .notifying number) :
      CallTaken session { session with call := .obtaining }
  | succeeded {resolutions : List PatternResolution} (point : session.call = .waiting resolutions)
      (beyond : session.promises[resolutions.length]? = none) :
      CallTaken session { session with call := .returned (.ok resolutions) }
  | blocked {resolutions : List PatternResolution} (point : session.call = .waiting resolutions)
      (waits : session.promises[resolutions.length]? = some Promise.pending) : CallTaken session session
  | failed {resolutions : List PatternResolution} {error : Error} (point : session.call = .waiting resolutions)
      (kept : session.promises[resolutions.length]? = some (Promise.kept (.error error))) :
      CallTaken session { session with call := .returned (.error error) }
  | collected {resolutions : List PatternResolution} {resolution : PatternResolution}
      (point : session.call = .waiting resolutions)
      (kept : session.promises[resolutions.length]? = some (Promise.kept (.ok resolution))) :
      CallTaken session { session with call := .waiting (resolutions ++ [resolution]) }
  | ended (done : (∃ result, session.call = .returned result) ∨ (∃ what, session.call = .threw what) ∨
      session.call = .dangling) : CallTaken session session

theorem callStep_taken {session : Session} (respects : Respects session .call) :
    CallTaken session (callStep session) := by
  unfold Respects at respects
  unfold callStep
  cases point : session.call with
  | obtaining =>
    rw [point] at respects
    dsimp only at respects ⊢
    split
    next all => exact .submitted point all
    next fewer =>
      obtain ⟨shared, there⟩ := Option.isSome_iff_exists.mp (respects.resolve_left fewer)
      rw [ThreadManager.workers, there]
      exact .promised point fewer there
  | submitting number =>
    rw [point] at respects
    obtain ⟨shared, found⟩ := Option.isSome_iff_exists.mp respects
    simp only [found, QueueExecutor.draw]
    exact .drew point (ThreadManager.refer_eq_some found).2
  | locking number item =>
    rw [point] at respects
    obtain ⟨shared, found, accepting⟩ := (Option.any_eq_true _ _).mp respects
    simp only [found, QueueExecutor.enqueue_of_accepting accepting]
    exact .queued point (ThreadManager.refer_eq_some found).2 accepting
  | notifying number =>
    rw [point] at respects
    obtain ⟨shared, found⟩ := Option.isSome_iff_exists.mp respects
    simp only [found]
    exact .notified point
  | waiting resolutions =>
    rw [point] at respects
    dsimp only at respects ⊢
    split
    next beyond => exact .succeeded point beyond
    next waits => exact .blocked point waits
    next broken => exact absurd broken respects
    next failed => exact .failed point failed
    next kept => exact .collected point kept
  | returned result => exact .ended (Or.inl ⟨result, point⟩)
  | threw what => exact .ended (Or.inr (Or.inl ⟨what, point⟩))
  | dangling => exact .ended (Or.inr (Or.inr point))

def Placed (session : Session) : Prop :=
  match session.call with
  | .obtaining | .notifying _ => session.promises.length ≤ session.requests.length
  | .submitting _ | .locking _ _ =>
      0 < session.promises.length ∧ session.promises.length ≤ session.requests.length
  | .waiting resolutions =>
      session.promises.length = session.requests.length ∧ Collected session.promises resolutions
  | .returned (.ok resolutions) =>
      resolutions.length = session.requests.length ∧ Collected session.promises resolutions
  | .returned (.error _) => True
  | .threw _ | .dangling => False

theorem begun_placed (requests : List Text) : Placed (Session.begun requests) := by
  unfold Session.begun Placed
  by_cases none : requests = []
  · simp [none, Collected]
  · simp [none]

theorem Placed.reports {session : Session} (placed : Placed session) : Reports session := by
  unfold Placed at placed
  unfold Reports
  split <;> simp_all

theorem Collected.advanced {before after : List Promise} {resolutions : List PatternResolution}
    (collected : Collected before resolutions) (advanced : Advanced before after) :
    Collected after resolutions := by
  intro index resolution found
  have kept := collected index resolution found
  rw [advanced.settled index (by simp [kept]), kept]

theorem Collected.length_le {promises : List Promise} {resolutions : List PatternResolution}
    (collected : Collected promises resolutions) : resolutions.length ≤ promises.length := by
  by_contra longer
  rw [Nat.not_le] at longer
  have kept := collected promises.length _ (List.getElem?_eq_getElem longer)
  rw [List.getElem?_eq_none (Nat.le_refl _)] at kept
  cases kept

theorem Collected.snoc {promises : List Promise} {resolutions : List PatternResolution}
    {resolution : PatternResolution} (collected : Collected promises resolutions)
    (kept : promises[resolutions.length]? = some (Promise.kept (.ok resolution))) :
    Collected promises (resolutions ++ [resolution]) := by
  intro index other found
  rw [List.getElem?_append] at found
  split at found
  · exact collected index other found
  next beyond =>
    rw [List.getElem?_singleton] at found
    split at found
    next last =>
      obtain rfl : index = resolutions.length := by omega
      cases found
      exact kept
    next => cases found

theorem Placed.beside {before after : Session} (placed : Placed before) (beside : Beside before after) :
    Placed after := by
  unfold Placed at placed ⊢
  rw [beside.call, beside.requests, beside.promises.length]
  cases point : before.call with
  | waiting resolutions =>
    rw [point] at placed
    exact ⟨placed.1, placed.2.advanced beside.promises⟩
  | returned result =>
    rw [point] at placed
    cases result with
    | ok resolutions => exact ⟨placed.1, placed.2.advanced beside.promises⟩
    | error => trivial
  | obtaining | submitting | locking | notifying | threw | dangling => rwa [point] at placed

theorem Placed.call {session : Session} (placed : Placed session) (respects : Respects session .call) :
    Placed (callStep session) := by
  have taken := callStep_taken respects
  generalize callStep session = after at taken ⊢
  cases taken with
  | submitted point all => exact ⟨all, nofun⟩
  | promised point fewer there =>
    rw [Placed, point] at placed
    simp only [Placed, List.length_append, List.length_singleton]
    omega
  | drew point there =>
    rw [Placed, point] at placed
    exact placed
  | queued point there accepting =>
    rw [Placed, point] at placed
    exact placed.2
  | notified point =>
    rw [Placed, point] at placed
    exact placed
  | succeeded point beyond =>
    rw [Placed, point] at placed
    rw [List.getElem?_eq_none_iff] at beyond
    exact ⟨(Nat.le_antisymm placed.2.length_le beyond).trans placed.1, placed.2⟩
  | blocked point waits => exact placed
  | failed point kept => trivial
  | collected point kept =>
    rw [Placed, point] at placed
    exact ⟨placed.1, placed.2.snoc kept⟩
  | ended => exact placed

theorem Placed.preserved (session : Session) (move : Move) (placed : Placed session)
    (respects : Respects session move) : Placed (step session move) := by
  by_cases own : move = .call
  · subst own
    exact placed.call respects
  · exact placed.beside (step_beside session move own)

theorem respects_of_reports (session : Session) (move : Move) (_ : Placed session)
    (reports : Reports (step session move)) : Respects session move := by
  cases move with
  | start | stop | submit | enqueue | work => trivial
  | call =>
    rw [step] at reports
    unfold callStep at reports
    unfold Respects
    cases point : session.call with
    | obtaining =>
      by_contra violates
      rw [not_or, Bool.not_eq_true, Option.isSome_eq_false_iff, Option.isNone_iff_eq_none] at violates
      obtain ⟨fewer, none⟩ := violates
      simp only [point, fewer, ThreadManager.workers, none] at reports
      exact reports
    | submitting number | notifying number =>
      by_contra violates
      rw [Bool.not_eq_true, Option.isSome_eq_false_iff, Option.isNone_iff_eq_none] at violates
      simp only [point, violates] at reports
      exact reports
    | locking number item =>
      cases found : session.threads.refer number with
      | none =>
        simp only [point, found] at reports
        exact reports.elim
      | some shared =>
        by_contra violates
        simp only [found, Option.any_some, Bool.not_eq_true] at violates
        simp only [point, found, QueueExecutor.enqueue, violates] at reports
        exact reports
    | waiting resolutions =>
      intro broken
      simp only [point, broken] at reports
      exact reports
    | returned | threw | dangling => trivial

theorem reports_iff_guarded (requests : List Text) (moves : List Move) :
    Always step Reports (Session.begun requests) moves ↔
      Guarded step Respects (Session.begun requests) moves :=
  always_iff_guarded Placed Placed.preserved (fun _ => Placed.reports) respects_of_reports
    (begun_placed requests) moves

/-! ## The call returns -/

/-- The job of a promise is queued or in a worker's hands. -/
def WithWorkers (session : Session) (index : Nat) : Prop :=
  ∃ shared, session.threads.executor = some shared ∧
    ∃ item ∈ QueueExecutor.outstanding shared, item.task = .job index

def BeingSubmitted (session : Session) (index : Nat) : Prop :=
  index + 1 = session.promises.length ∧
    match session.call with
    | .submitting _ => True
    | .locking _ item => item.task = .job index
    | _ => False

theorem BeingSubmitted.beside {before after : Session} {index : Nat} (own : BeingSubmitted before index)
    (beside : Beside before after) : BeingSubmitted after index := by
  unfold BeingSubmitted at own ⊢
  rwa [beside.promises.length, beside.call]

/-- No promise is left behind: while it is pending, its job is still to be run. -/
structure Attended (session : Session) : Prop where
  consistent : ∀ shared, session.threads.executor = some shared → QueueExecutor.Consistent shared
  upcoming : ∀ index : Nat, session.promises[index]? = some Promise.pending →
    WithWorkers session index ∨ BeingSubmitted session index

theorem outstanding_of_history {before after : QueueExecutor.Session Task}
    (earlier : QueueExecutor.Consistent before) (later : QueueExecutor.Consistent after)
    {ran taken : List (WorkItem Task)} (executed : after.executed = before.executed ++ ran)
    (accepted : after.accepted = before.accepted ++ taken) {item : WorkItem Task}
    (member : item ∈ QueueExecutor.outstanding before) :
    item ∈ ran ∨ item ∈ QueueExecutor.outstanding after := by
  have kept := (earlier.outstanding_perm later executed accepted).symm.subset
    (List.mem_append_left taken member)
  exact List.mem_append.mp kept

theorem Attended.moved {before after : Session} (attended : Attended before) (beside : Beside before after)
    (move : QueueExecutor.Move Task)
    (executor : after.threads.executor = before.threads.executor.map (·.step move))
    (kept : ∀ shared, before.threads.executor = some shared → ∀ (index : Nat),
      after.promises[index]? = some Promise.pending →
      ∀ item ∈ QueueExecutor.outstanding shared, item.task = .job index →
      item ∈ QueueExecutor.outstanding (shared.step move)) :
    Attended after where
  consistent shared found := by
    rw [executor, Option.map_eq_some_iff] at found
    obtain ⟨old, there, rfl⟩ := found
    exact (attended.consistent old there).preserved move
  upcoming index waits := by
    rcases attended.upcoming index (beside.promises.pending waits) with ⟨shared, found, item, member, task⟩ | own
    · refine Or.inl ⟨shared.step move, ?_, item, kept shared found index waits item member task, task⟩
      rw [executor, found, Option.map_some]
    · exact Or.inr (own.beside beside)

theorem begun_attended (requests : List Text) : Attended (Session.begun requests) where
  consistent shared found := by cases found
  upcoming index waits := by cases waits

theorem Attended.start {session : Session} (attended : Attended session) (workerCount : Nat) :
    Attended (step session (.start workerCount)) := by
  unfold step ThreadManager.start
  cases there : session.threads.executor with
  | some shared => exact attended
  | none =>
    refine ⟨fun shared found => ?_, fun index waits => ?_⟩
    · cases found
      exact QueueExecutor.started_consistent workerCount
    · rcases attended.upcoming index waits with ⟨shared, found, _⟩ | own
      · rw [there] at found
        cases found
      · exact Or.inr own

theorem Attended.onExecutor {session : Session} (attended : Attended session) (move : QueueExecutor.Move Task)
    (history : ∀ shared : QueueExecutor.Session Task, (shared.step move).executed = shared.executed ∧
      ∃ taken, (shared.step move).accepted = shared.accepted ++ taken) :
    Attended (session.onExecutor move) := by
  have beside : Beside session (session.onExecutor move) := ⟨rfl, rfl, Advanced.refl _⟩
  apply attended.moved beside move rfl
  intro shared found index _ item member _
  have consistent := attended.consistent shared found
  obtain ⟨executed, taken, accepted⟩ := history shared
  have kept := outstanding_of_history consistent (consistent.preserved move)
    (executed.trans (List.append_nil _).symm) accepted member
  exact kept.resolve_left (List.not_mem_nil)

/-- A job whose promise is pending after the tasks are destroyed is none of them. -/
theorem task_ne_of_pending {promises : List Promise} {destroyed : List (WorkItem Task)} {index : Nat}
    (waits : (destroyed.foldl breakPromise promises)[index]? = some Promise.pending) {item : WorkItem Task}
    (member : item ∈ destroyed) : item.task ≠ .job index := by
  intro task
  obtain ⟨earlier, later, rfl⟩ := List.append_of_mem member
  rw [List.foldl_append, List.foldl_cons] at waits
  have settled := (foldl_breakPromise_advanced _ later).pending waits
  simp only [breakPromise, task] at settled
  have apart : Promise.broken ≠ .pending := nofun
  exact settle_settles apart settled

theorem Attended.stop {session : Session} (attended : Attended session) : Attended (step session .stop) := by
  have beside := step_beside session .stop nofun
  unfold step ThreadManager.stop at beside ⊢
  cases there : session.threads.executor with
  | none => exact attended
  | some shared =>
    have consistent := attended.consistent shared there
    rw [there] at beside
    dsimp only at beside ⊢
    split
    next returned =>
      rw [if_pos returned] at beside
      refine ⟨fun _ found => ?_, fun index waits => ?_⟩
      · cases found
      rcases attended.upcoming index (beside.promises.pending waits) with ⟨_, found, item, member, task⟩ | own
      · -- the workers are joined, so the job was in the queue, and is destroyed
        cases there.symm.trans found
        rw [QueueExecutor.outstanding, consistent.dismissed returned] at member
        exact absurd task (task_ne_of_pending waits (by simpa [Threads.held] using member))
      · exact Or.inr (own.beside beside)
    next =>
      have moved := attended.onExecutor .stop fun shared =>
        ⟨(QueueExecutor.stop_history shared).1, [],
          (QueueExecutor.stop_history shared).2.trans (List.append_nil _).symm⟩
      unfold Session.onExecutor at moved
      rw [there] at moved
      exact moved

theorem work_executor (session : Session) (index : Nat) (scanned : Scanned) :
    (work session index scanned).threads.executor = session.threads.executor.map (·.work index) := by
  unfold work
  split
  next none => rw [none, Option.map_none]
  next shared found =>
    rw [found, Option.map_some]
    dsimp only
    split <;> rfl

theorem work_settles {session : Session} {shared : QueueExecutor.Session Task} {index place : Nat}
    {item : WorkItem Task} (found : session.threads.executor = some shared)
    (runs : QueueExecutor.running shared index = some item) (task : item.task = .job place) (scanned : Scanned) :
    (work session index scanned).promises[place]? ≠ some Promise.pending := by
  obtain ⟨id, _⟩ := item
  subst task
  simp only [work, found, runs]
  have apart : Promise.kept (jobResult (session.requests[place]?.getD []) scanned) ≠ .pending := nofun
  exact settle_settles apart

theorem Attended.worked {session : Session} (attended : Attended session) (index : Nat) (scanned : Scanned) :
    Attended (work session index scanned) := by
  apply attended.moved (work_beside session index scanned) (.work index) (work_executor session index scanned)
  intro shared found place waits item member task
  have consistent := attended.consistent shared found
  have kept := outstanding_of_history consistent (consistent.work index)
    (QueueExecutor.work_executed shared index)
    ((QueueExecutor.work_accepted shared index).trans (List.append_nil _).symm) member
  apply kept.resolve_left
  intro runs
  rw [Option.mem_toList] at runs
  exact work_settles found runs task scanned waits

def CallPoint.Submits : CallPoint → Prop
  | .submitting _ | .locking _ _ => True
  | _ => False

theorem Attended.withWorkers {session : Session} (attended : Attended session)
    (idle : ¬session.call.Submits) {index : Nat}
    (waits : session.promises[index]? = some Promise.pending) : WithWorkers session index := by
  apply (attended.upcoming index waits).resolve_right
  rintro ⟨_, own⟩
  cases point : session.call with
  | submitting | locking =>
    rw [point] at idle
    exact idle trivial
  | obtaining | notifying | waiting | returned | threw | dangling => rwa [point] at own

theorem Attended.call {session : Session} (attended : Attended session) (respects : Respects session .call) :
    Attended (callStep session) := by
  have taken := callStep_taken respects
  have idle : ∀ {call : CallPoint}, session.call = call → ¬call.Submits → ¬session.call.Submits :=
    fun point apart => point ▸ apart
  generalize callStep session = after at taken ⊢
  cases taken with
  | submitted point _ | notified point | succeeded point _ | failed point _ | collected point _ =>
    exact ⟨attended.consistent, fun _ waits => Or.inl (attended.withWorkers (idle point id) waits)⟩
  | promised point fewer there =>
    refine ⟨attended.consistent, fun index waits => ?_⟩
    dsimp only at waits
    rw [List.getElem?_append] at waits
    split at waits
    next => exact Or.inl (attended.withWorkers (idle point id) waits)
    next beyond =>
      -- the promise that was just made
      obtain ⟨inside, _⟩ := List.getElem?_eq_some_iff.mp waits
      simp only [List.length_singleton] at inside
      refine Or.inr ⟨?_, trivial⟩
      simp only [List.length_append, List.length_singleton]
      omega
  | drew point there =>
    refine ⟨fun other same => ?_, fun index waits => ?_⟩
    · cases same
      exact (attended.consistent _ there).underway _ _
    · rcases attended.upcoming index waits with ⟨_, same, item, member, task⟩ | ⟨last, _⟩
      · cases there.symm.trans same
        exact Or.inl ⟨_, rfl, item, member, task⟩
      · refine Or.inr ⟨last, ?_⟩
        simp [← last]
  | @queued _ item shared point there accepting =>
    refine ⟨fun other same => ?_, fun index waits => Or.inl ?_⟩
    · cases same
      exact (attended.consistent shared there).accept accepting item
    · rcases attended.upcoming index waits with ⟨_, same, older, member, task⟩ | ⟨last, own⟩
      · cases there.symm.trans same
        refine ⟨_, rfl, older, ?_, task⟩
        rcases List.mem_append.mp member with queued | held
        · exact List.mem_append_left _ (List.mem_append_left _ queued)
        · exact List.mem_append_right _ held
      · rw [point] at own
        refine ⟨_, rfl, item, ?_, own⟩
        exact List.mem_append_left _ (List.mem_append_right _ List.mem_cons_self)
  | blocked | ended => exact attended

theorem Attended.preserved (session : Session) (move : Move) (attended : Attended session)
    (respects : Respects session move) : Attended (step session move) := by
  cases move with
  | start workerCount => exact attended.start workerCount
  | stop => exact attended.stop
  | submit => exact attended.onExecutor (.submit (some .other)) fun _ => ⟨rfl, [], (List.append_nil _).symm⟩
  | enqueue call =>
    apply attended.onExecutor (.enqueue call)
    intro shared
    obtain ⟨submitting, refused | ⟨_, item, added⟩⟩ := QueueExecutor.enqueue_cases shared call
    · rw [QueueExecutor.Session.step, refused]
      exact ⟨rfl, [], (List.append_nil _).symm⟩
    · rw [QueueExecutor.Session.step, added]
      exact ⟨rfl, [item], rfl⟩
  | work index scanned => exact attended.worked index scanned
  | call => exact attended.call respects

/-- The shared workers accept tasks, the call refers to them, and no promise is broken. -/
structure Serviced (session : Session) : Prop where
  accepting : session.threads.executor.any (·.executor.accepting) = true
  current : match session.call with
    | .submitting number | .locking number _ | .notifying number => number = session.threads.created
    | _ => True
  intact : ∀ index : Nat, session.promises[index]? ≠ some Promise.broken

theorem Serviced.respects {session : Session} (serviced : Serviced session) : Respects session .call := by
  obtain ⟨shared, there, accepting⟩ := (Option.any_eq_true _ _).mp serviced.accepting
  have current := serviced.current
  unfold Respects
  cases point : session.call with
  | obtaining => exact Or.inr (by rw [there, Option.isSome_some])
  | submitting number | notifying number =>
    rw [point] at current
    simp only [ThreadManager.refer, if_pos current, there, Option.isSome_some]
  | locking number item =>
    rw [point] at current
    simp only [ThreadManager.refer, if_pos current, there, Option.any_some, accepting]
  | waiting resolutions => exact serviced.intact _
  | returned | threw | dangling => trivial

theorem Serviced.call {session : Session} (serviced : Serviced session) : Serviced (callStep session) := by
  obtain ⟨shared, found, accepts⟩ := (Option.any_eq_true _ _).mp serviced.accepting
  have current := serviced.current
  have taken := callStep_taken serviced.respects
  generalize callStep session = after at taken ⊢
  cases taken with
  | promised point fewer there =>
    refine ⟨serviced.accepting, rfl, fun index broken => ?_⟩
    dsimp only at broken
    rw [List.getElem?_append] at broken
    split at broken
    next => exact serviced.intact index broken
    next => simp [List.getElem?_singleton] at broken
  | drew point there =>
    cases found.symm.trans there
    rw [point] at current
    exact ⟨accepts, current, serviced.intact⟩
  | queued point there accepting =>
    rw [point] at current
    exact ⟨accepting, current, serviced.intact⟩
  | submitted | notified | succeeded | failed | collected => exact ⟨serviced.accepting, trivial, serviced.intact⟩
  | blocked | ended => exact serviced

theorem Serviced.worked {session : Session} (serviced : Serviced session) (index : Nat) (scanned : Scanned) :
    Serviced (work session index scanned) := by
  obtain ⟨shared, there, accepting⟩ := (Option.any_eq_true _ _).mp serviced.accepting
  have current := serviced.current
  have stillAccepting := (QueueExecutor.work_accepting shared index).trans accepting
  unfold work
  rw [there]
  dsimp only
  split
  next id place runs => exact ⟨stillAccepting, current, settle_intact serviced.intact nofun⟩
  next => exact ⟨stillAccepting, current, serviced.intact⟩

/-- What is left for the call: a request takes four steps to submit and one to collect. -/
def toCollect (session : Session) : Nat :=
  let missing := session.requests.length - session.promises.length
  match session.call with
  | .obtaining => session.requests.length + 2 + 4 * missing
  | .submitting _ => session.requests.length + 2 + 4 * missing + 3
  | .locking _ _ => session.requests.length + 2 + 4 * missing + 2
  | .notifying _ => session.requests.length + 2 + 4 * missing + 1
  | .waiting resolutions => session.requests.length + 1 - resolutions.length
  | _ => 0

/-- What is left for the workers until the promise that the call waits for is settled. -/
def toSettle (session : Session) : Nat :=
  match session.call, session.threads.executor with
  | .waiting resolutions, some shared =>
      if session.promises[resolutions.length]? = some .pending then
        1 + QueueExecutor.distance (·.task = .job resolutions.length) shared
      else 0
  | _, _ => 0

/-- What the call still needs, while the shared workers serve it. -/
structure Underway (session : Session) : Prop where
  placed : Placed session
  attended : Attended session
  serviced : Serviced session

theorem Underway.call {session : Session} (underway : Underway session) : Underway (callStep session) where
  placed := underway.placed.call underway.serviced.respects
  attended := underway.attended.call underway.serviced.respects
  serviced := underway.serviced.call

theorem Underway.worked {session : Session} (underway : Underway session) (index : Nat) (scanned : Scanned) :
    Underway (work session index scanned) where
  placed := underway.placed.beside (work_beside session index scanned)
  attended := underway.attended.worked index scanned
  serviced := underway.serviced.worked index scanned

theorem Underway.toCollect_lt {session : Session} (underway : Underway session)
    (unreturned : ∀ result, session.call ≠ .returned result)
    (unblocked : ∀ resolutions, session.call = .waiting resolutions →
      session.promises[resolutions.length]? ≠ some Promise.pending) :
    toCollect (callStep session) < toCollect session := by
  have placed := underway.placed
  have taken := callStep_taken underway.serviced.respects
  generalize callStep session = after at taken ⊢
  cases taken with
  | submitted point all =>
    simp only [toCollect, point, all, List.length_nil]
    omega
  | promised point fewer there =>
    rw [Placed, point] at placed
    simp only [toCollect, point, List.length_append, List.length_singleton]
    omega
  | drew point there =>
    simp only [toCollect, point]
    omega
  | queued point there accepting | notified point =>
    simp only [toCollect, point]
    omega
  | succeeded point _ | failed point _ =>
    rw [Placed, point] at placed
    have inside := placed.2.length_le
    simp only [toCollect, point]
    omega
  | blocked point waits => exact absurd waits (unblocked _ point)
  | collected point kept =>
    rw [Placed, point] at placed
    have inside := (placed.2.snoc kept).length_le
    simp only [toCollect, point, List.length_append, List.length_singleton] at inside ⊢
    omega
  | ended done =>
    rw [Placed] at placed
    rcases done with ⟨result, point⟩ | ⟨what, point⟩ | point
    · exact absurd point (unreturned result)
    · rw [point] at placed
      exact placed.elim
    · rw [point] at placed
      exact placed.elim

theorem Underway.exists_toSettle_lt {session : Session} (underway : Underway session)
    {resolutions : List PatternResolution} (point : session.call = .waiting resolutions)
    (waits : session.promises[resolutions.length]? = some Promise.pending) (scanned : Scanned) :
    ∃ index, toSettle (work session index scanned) < toSettle session := by
  obtain ⟨shared, there, accepting⟩ := (Option.any_eq_true _ _).mp underway.serviced.accepting
  have consistent := underway.attended.consistent shared there
  obtain ⟨_, same, item, member, task⟩ := underway.attended.withWorkers (by rw [point]; exact id) waits
  cases there.symm.trans same
  let wanted : WorkItem Task → Bool := (·.task = .job resolutions.length)
  have awaited : ∃ item ∈ QueueExecutor.outstanding shared, wanted item := ⟨item, member, decide_eq_true task⟩
  obtain ⟨index, closer⟩ := consistent.exists_work_closer accepting awaited
  refine ⟨index, ?_⟩
  have still : (work session index scanned).call = .waiting resolutions :=
    (work_beside session index scanned).call.trans point
  have moved := work_executor session index scanned
  rw [there, Option.map_some] at moved
  simp only [toSettle, point, there, waits, still, moved, if_true]
  split
  next pending =>
    have closer := closer.resolve_left fun runs => by
      obtain ⟨item, found, own⟩ := (Option.any_eq_true _ _).mp runs
      exact work_settles there found (of_decide_eq_true own) scanned pending
    exact Nat.add_lt_add_left closer 1
  next => omega

theorem Beside.toCollect {before after : Session} (beside : Beside before after) :
    toCollect after = toCollect before := by
  unfold PatternParallel.toCollect
  rw [beside.requests, beside.promises.length, beside.call]

def Returned (session : Session) : Prop := ∃ result, session.call = .returned result

theorem Underway.advances (state : Session) (underway : Underway state) :
    Returned state ∨ ∃ move, Respects state move ∧ Underway (step state move) ∧
      toLex (toCollect (step state move), toSettle (step state move)) < toLex (toCollect state, toSettle state) := by
  by_cases returned : Returned state
  · exact Or.inl returned
  · refine Or.inr ?_
    by_cases blocked : ∃ resolutions, state.call = .waiting resolutions ∧
        state.promises[resolutions.length]? = some Promise.pending
    · obtain ⟨resolutions, point, waits⟩ := blocked
      obtain ⟨index, closer⟩ := underway.exists_toSettle_lt point waits .threwUnknown
      refine ⟨.work index .threwUnknown, trivial, underway.worked index _, ?_⟩
      rw [Prod.Lex.toLex_lt_toLex]
      exact Or.inr ⟨(work_beside state index _).toCollect, closer⟩
    · refine ⟨.call, underway.serviced.respects, underway.call, ?_⟩
      rw [Prod.Lex.toLex_lt_toLex]
      refine Or.inl (underway.toCollect_lt (fun result point => returned ⟨result, point⟩) ?_)
      exact fun resolutions point waits => blocked ⟨resolutions, point, waits⟩

/-- A call reports through its result exactly in the runs in which the manager is
started where it asks for the workers, the executor it got accepts each of its
jobs, and no promise it waits for is broken. In such a run it can always be
brought to return while the workers still serve it. -/
theorem resolveParallel_reports_iff (requests : List Text) (moves : List Move) :
    (Always step Reports (Session.begun requests) moves ↔
      Guarded step Respects (Session.begun requests) moves) ∧
    (Guarded step Respects (Session.begun requests) moves →
      Serviced (run step (Session.begun requests) moves) →
      ∃ later, Guarded step Respects (Session.begun requests) (moves ++ later) ∧
        Returned (run step (Session.begun requests) (moves ++ later))) := by
  refine ⟨reports_iff_guarded requests moves, fun guarded serviced => ?_⟩
  have underway : Underway (run step (Session.begun requests) moves) := {
    placed := Guarded.invariant Placed.preserved (begun_placed requests) guarded
    attended := Guarded.invariant Attended.preserved (begun_attended requests) guarded
    serviced }
  obtain ⟨later, ahead, returned⟩ :=
    exists_run_of_rank (fun session => toLex (toCollect session, toSettle session)) Underway.advances underway
  rw [← run_append] at returned
  exact ⟨later, guarded_append.mpr ⟨guarded, ahead⟩, returned⟩

/-- The manager is stopped while the job of the only request is queued. -/
def stoppedWhileQueued : List Move :=
  [.start 1, .call, .call, .call, .call, .call, .stop, .stop, .stop, .work 0 .threwUnknown, .stop, .stop, .call]

theorem resolveParallel_throws :
    ¬Always step Reports (Session.begun [text "pattern"]) [.call] ∧
      ¬Always step Reports (Session.begun [text "pattern"]) stoppedWhileQueued := by
  have unstarted : (run step (Session.begun [text "pattern"]) [.call]).call =
      .threw (text "ThreadManager is not started") := rfl
  have stopped : (run step (Session.begun [text "pattern"]) stoppedWhileQueued).call =
      .threw (text "broken promise") := rfl
  constructor
  · intro always
    have reports := always _ [] (List.append_nil _).symm
    rw [Reports, unstarted] at reports
    exact reports
  · intro always
    have reports := always _ [] (List.append_nil _).symm
    rw [Reports, stopped] at reports
    exact reports

end PatternParallel

end DevilzDen.Backend
