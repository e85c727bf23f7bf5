import DevilzDen.Backend.Error
import DevilzDen.Foundation.Run

/-! The asynchronous logger: producers, a queue, one worker and the sinks it writes to.

A move is one thread's next atomic step: drawing a sequence number, a section
under the lock, or a look at the worker. `Start` and `Stop` come from one
controlling thread, so their calls do not overlap. A sink is the list of the
records it was given. Times, thread ids and source locations are left out of
the records: no modelled function reads them.
-/

set_option autoImplicit false

namespace DevilzDen.Backend

open Foundation

inductive LogLevel where
  | trace
  | debug
  | info
  | notice
  | warning
  | error
  | critical
  | fatal
  deriving DecidableEq, Repr

structure LogRecord where
  sequence : UInt64 := 0
  level : LogLevel := .info
  message : Text := []
  service : Text := []
  error : Option Error := none
  deriving DecidableEq, Repr

namespace LoggerService

/-- The two loops of `Worker`. -/
inductive WorkerLoop where
  | serving
  | draining
  deriving DecidableEq, Repr

inductive WorkerPoint where
  | taking (loop : WorkerLoop)
  | dispatching (loop : WorkerLoop) (record : LogRecord)
  | finished
  deriving DecidableEq, Repr

structure Worker where
  stopRequested : Bool := false
  point : WorkerPoint := .taking .serving
  deriving DecidableEq, Repr

end LoggerService

structure LoggerService where
  sequence : UInt64 := 0
  queue : List LogRecord := []
  sinks : List (List LogRecord) := []
  worker : Option LoggerService.Worker := none
  accepting : Bool := false
  deriving DecidableEq, Repr

namespace LoggerService

def addSink (service : LoggerService) : LoggerService := { service with sinks := service.sinks ++ [[]] }

def start (service : LoggerService) : LoggerService :=
  if service.accepting then service else { service with accepting := true, worker := some {} }

/-- `Log` and `LogError` up to the lock. -/
def makeRecord (service : LoggerService) (level : LogLevel) (message serviceName : Text) (error : Option Error) :
    LogRecord × LoggerService :=
  let sequence := service.sequence + 1
  (⟨sequence, level, message, serviceName, error⟩, { service with sequence })

def log (service : LoggerService) (level : LogLevel) (message serviceName : Text) : LogRecord × LoggerService :=
  service.makeRecord level message serviceName none

def logError (service : LoggerService) (level : LogLevel) (error : Error) (serviceName : Text) :
    LogRecord × LoggerService :=
  service.makeRecord level error.message serviceName (some error)

def dispatch (service : LoggerService) (record : LogRecord) : LoggerService :=
  { service with sinks := service.sinks.map (· ++ [record]) }

def work (service : LoggerService) : LoggerService :=
  match service.worker with
  | none => service
  | some worker =>
      match worker.point with
      | .taking loop =>
          match service.queue, loop with
          | record :: later, _ =>
              { service with
                queue := later
                worker := some { worker with point := .dispatching loop record } }
          | [], .serving =>
              -- the wait goes on, or it ends with nothing to take, which ends the first loop
              if !worker.stopRequested && service.accepting then service
              else { service with worker := some { worker with point := .taking .draining } }
          | [], .draining => { service with worker := some { worker with point := .finished } }
      | .dispatching loop record =>
          { service.dispatch record with worker := some { worker with point := .taking loop } }
      | .finished => service

inductive Control where
  | idle
  | requesting
  | joining
  | flushing
  deriving DecidableEq, Repr

/-- The logger with the calls in progress on it. `logging` holds the records
that wait for the lock. `opened` and `pushed` are the history of the current
cycle: what the sinks held at its `Start`, and what was queued since. -/
structure Session where
  service : LoggerService := {}
  logging : List LogRecord := []
  control : Control := .idle
  opened : List (List LogRecord) := []
  pushed : List LogRecord := []
  deriving DecidableEq, Repr

namespace Session

/-- `Start`, from a controlling thread that is not in `Stop`. -/
def start (session : Session) : Session :=
  if session.control ≠ .idle ∨ session.service.accepting then session
  else { session with
    service := session.service.start
    opened := session.service.sinks
    pushed := [] }

def stop (session : Session) : Session :=
  match session.control with
  | .idle =>
      if !session.service.accepting && session.service.worker.isNone then session
      else { session with service.accepting := false, control := .requesting }
  | .requesting =>
      match session.service.worker with
      | none => { session with control := .flushing }
      | some worker =>
          { session with
            service.worker := some { worker with stopRequested := true }
            control := .joining }
  | .joining =>
      match session.service.worker with
      | none => { session with control := .flushing }
      | some worker =>
          if worker.point = .finished then { session with service.worker := none, control := .flushing }
          else session
  -- flushing the sinks writes nothing to them
  | .flushing => { session with control := .idle }

def submit (session : Session) (made : LogRecord × LoggerService) : Session :=
  { session with service := made.2, logging := session.logging ++ [made.1] }

def push (session : Session) (call : Nat) : Session :=
  match session.logging[call]? with
  | none => session
  | some record =>
      let returned := { session with logging := session.logging.eraseIdx call }
      if !session.service.accepting then returned
      else { returned with
        service.queue := session.service.queue ++ [record]
        pushed := session.pushed ++ [record] }

end Session

inductive Move where
  | addSink
  | start
  | stop
  | log (level : LogLevel) (message serviceName : Text)
  | logError (level : LogLevel) (error : Error) (serviceName : Text)
  | push (call : Nat)
  | work

def Session.step (session : Session) : Move → Session
  | .addSink => { session with service := session.service.addSink }
  | .start => session.start
  | .stop => session.stop
  | .log level message serviceName => session.submit (session.service.log level message serviceName)
  | .logError level error serviceName => session.submit (session.service.logError level error serviceName)
  | .push call => session.push call
  | .work => { session with service := session.service.work }

/-! ## What the sinks are given -/

/-- What the worker has taken and not yet dispatched. -/
def inFlight : Option Worker → List LogRecord
  | none => []
  | some worker =>
      match worker.point with
      | .dispatching _ record => [record]
      | _ => []

/-- The records of the cycle that were dispatched so far: the others are in the
worker's hands or still queued, in this order. The sinks of the cycle's start
were given exactly these, and a later sink the last ones of them. -/
structure Delivered (session : Session) (delivered : List LogRecord) : Prop where
  conserved : delivered ++ inFlight session.service.worker ++ session.service.queue = session.pushed
  registered : session.service.sinks.take session.opened.length = session.opened.map (· ++ delivered)
  later : ∀ sink ∈ session.service.sinks.drop session.opened.length, sink <:+ delivered

/-- The worker was asked to stop, or has left its first loop. -/
def Worker.Leaving (worker : Worker) : Prop :=
  worker.stopRequested = true ∨ match worker.point with
    | .taking loop | .dispatching loop _ => loop = .draining
    | .finished => True

structure Orderly (session : Session) : Prop where
  resting : session.service.worker = none → session.service.queue = [] ∧ session.service.accepting = false
  shut : ∀ worker, session.service.worker = some worker → worker.Leaving → session.service.accepting = false
  emptied : ∀ worker, session.service.worker = some worker → worker.point = .finished →
    session.service.queue = []
  stopping : session.control ≠ .idle → session.service.accepting = false
  stopped : session.control = .idle → session.service.accepting = false → session.service.worker = none
  joined : session.control = .flushing → session.service.worker = none

inductive Worked (service : LoggerService) : LoggerService → Prop where
  | waited : Worked service service
  | took {stop : Bool} {loop : WorkerLoop} {record : LogRecord} {later : List LogRecord}
      (found : service.worker = some ⟨stop, .taking loop⟩) (queue : service.queue = record :: later) :
      Worked service { service with queue := later, worker := some ⟨stop, .dispatching loop record⟩ }
  | left {stop : Bool} (found : service.worker = some ⟨stop, .taking .serving⟩) (empty : service.queue = [])
      (ended : stop = true ∨ service.accepting = false) :
      Worked service { service with worker := some ⟨stop, .taking .draining⟩ }
  | ended {stop : Bool} (found : service.worker = some ⟨stop, .taking .draining⟩) (empty : service.queue = []) :
      Worked service { service with worker := some ⟨stop, .finished⟩ }
  | dispatched {stop : Bool} {loop : WorkerLoop} {record : LogRecord}
      (found : service.worker = some ⟨stop, .dispatching loop record⟩) :
      Worked service { service.dispatch record with worker := some ⟨stop, .taking loop⟩ }

theorem work_cases (service : LoggerService) : Worked service service.work := by
  unfold work
  split
  · exact .waited
  next worker found =>
    obtain ⟨stop, point⟩ := worker
    cases point with
    | taking loop =>
      dsimp only
      split
      next record later queue => exact .took found queue
      next queue =>
        split
        · exact .waited
        next goes =>
          refine .left found queue ?_
          cases stop with
          | true => exact Or.inl rfl
          | false => exact Or.inr (by simpa using goes)
      next queue => exact .ended found queue
    | dispatching loop record => exact .dispatched found
    | finished => exact .waited

theorem Worked.frame {service after : LoggerService} (worked : Worked service after) :
    after.sinks.length = service.sinks.length ∧ after.accepting = service.accepting := by
  cases worked with
  | waited | took | left | ended => exact ⟨rfl, rfl⟩
  | dispatched found => exact ⟨List.length_map _, rfl⟩

/-- Stopping may take the worker away; what is queued, logged and written stays. -/
theorem Session.stop_frame (session : Session) :
    session.stop.opened = session.opened ∧ session.stop.pushed = session.pushed ∧
      session.stop.logging = session.logging ∧ session.stop.service.sinks = session.service.sinks ∧
      session.stop.service.queue = session.service.queue ∧
      session.stop.service.sequence = session.service.sequence := by
  unfold Session.stop
  repeat' split
  all_goals exact ⟨rfl, rfl, rfl, rfl, rfl, rfl⟩

/-- Records are conserved by a worker's step: some prefix of them is delivered. -/
theorem Delivered.work {session : Session} {delivered : List LogRecord} {service : LoggerService}
    (given : Delivered session delivered) (worked : Worked session.service service) :
    ∃ after, Delivered { session with service } after := by
  have conserved := given.conserved
  cases worked with
  | waited => exact ⟨delivered, given⟩
  | took found queue =>
    refine ⟨delivered, ?_, given.registered, given.later⟩
    rw [found, queue] at conserved
    simpa [inFlight] using conserved
  | left found empty ended =>
    refine ⟨delivered, ?_, given.registered, given.later⟩
    rw [found] at conserved
    exact conserved
  | ended found empty =>
    refine ⟨delivered, ?_, given.registered, given.later⟩
    rw [found] at conserved
    exact conserved
  | @dispatched stop loop record found =>
    refine ⟨delivered ++ [record], ?_, ?_, ?_⟩
    · rw [found] at conserved
      simpa [inFlight, dispatch] using conserved
    · -- every sink is given the record, also those registered since the start
      rw [dispatch, ← List.map_take, given.registered, List.map_map]
      exact List.map_congr_left fun sink _ => List.append_assoc _ _ _
    · intro sink member
      rw [dispatch, ← List.map_drop] at member
      obtain ⟨old, listed, rfl⟩ := List.mem_map.mp member
      obtain ⟨first, whole⟩ := given.later old listed
      exact ⟨first, by rw [← List.append_assoc, whole]⟩

theorem Orderly.moveWorker {session : Session} (orderly : Orderly session) {before after : Worker}
    (found : session.service.worker = some before) {service : LoggerService}
    (moved : service.worker = some after) (accepting : service.accepting = session.service.accepting)
    (shut : after.Leaving → session.service.accepting = false)
    (emptied : after.point = .finished → service.queue = []) : Orderly { session with service } := by
  have manned {goal : Prop} (none : session.service.worker = none) : goal := by
    rw [found] at none
    cases none
  refine ⟨fun none => ?_, fun worker here leaving => ?_, fun worker here finished => ?_, fun called => ?_,
    fun idle refusing => manned (orderly.stopped idle (accepting ▸ refusing)),
    fun flushing => manned (orderly.joined flushing)⟩
  · rw [moved] at none
    cases none
  · rw [moved] at here
    cases here
    exact accepting.trans (shut leaving)
  · rw [moved] at here
    cases here
    exact emptied finished
  · exact accepting.trans (orderly.stopping called)

theorem Orderly.work {session : Session} (orderly : Orderly session) {service : LoggerService}
    (worked : Worked session.service service) : Orderly { session with service } := by
  cases worked with
  | waited => exact orderly
  | took found queue =>
    refine orderly.moveWorker found rfl rfl (fun leaving => orderly.shut _ found leaving) fun finished => ?_
    cases finished
  | left found empty ended =>
    refine orderly.moveWorker found rfl rfl (fun _ => ?_) fun finished => ?_
    · rcases ended with asked | shut
      · exact orderly.shut _ found (Or.inl asked)
      · exact shut
    · cases finished
  | ended found empty =>
    exact orderly.moveWorker found rfl rfl (fun _ => orderly.shut _ found (Or.inr rfl)) fun _ => empty
  | dispatched found =>
    refine orderly.moveWorker found rfl rfl (fun leaving => orderly.shut _ found leaving) fun finished => ?_
    cases finished

theorem Delivered.start {session : Session} {delivered : List LogRecord}
    (given : Delivered session delivered) (orderly : Orderly session) :
    ∃ after, Delivered session.start after := by
  unfold Session.start
  split
  · exact ⟨delivered, given⟩
  next starts =>
    simp only [not_or, not_not, Bool.not_eq_true] at starts
    have none := orderly.stopped starts.1 starts.2
    refine ⟨[], ?_, ?_, ?_⟩
    · simp [inFlight, LoggerService.start, starts.2, (orderly.resting none).1]
    · simp [LoggerService.start, starts.2]
    · simp [LoggerService.start, starts.2]

theorem Orderly.start {session : Session} (orderly : Orderly session) : Orderly session.start := by
  unfold Session.start
  split
  · exact orderly
  next starts =>
    simp only [not_or, not_not, Bool.not_eq_true] at starts
    rw [LoggerService.start, if_neg (by simp [starts.2])]
    refine ⟨fun none => ?_, fun worker here leaving => ?_, fun worker here finished => ?_,
      fun called => absurd starts.1 called, fun _ shut => ?_, fun flushing => ?_⟩
    · cases none
    · cases here
      rcases leaving with asked | past
      · cases asked
      · cases past
    · cases here
      cases finished
    · cases shut
    · rw [starts.1] at flushing
      cases flushing

theorem Delivered.stop {session : Session} {delivered : List LogRecord}
    (given : Delivered session delivered) : Delivered session.stop delivered := by
  have conserved := given.conserved
  unfold Session.stop
  split
  · split <;> exact ⟨given.conserved, given.registered, given.later⟩
  · split
    · exact ⟨given.conserved, given.registered, given.later⟩
    next worker found =>
      refine ⟨?_, given.registered, given.later⟩
      rw [found] at conserved
      exact conserved
  · split
    · exact ⟨given.conserved, given.registered, given.later⟩
    next worker found =>
      split
      next finished =>
        refine ⟨?_, given.registered, given.later⟩
        rw [found, inFlight, finished] at conserved
        exact conserved
      · exact ⟨given.conserved, given.registered, given.later⟩
  · exact ⟨given.conserved, given.registered, given.later⟩

theorem Orderly.flushing {session : Session} (orderly : Orderly session)
    (none : session.service.worker = none) (shut : session.service.accepting = false) :
    Orderly { session with control := .flushing } :=
  ⟨orderly.resting, orderly.shut, orderly.emptied, fun _ => shut, fun _ _ => none, fun _ => none⟩

theorem Orderly.stop {session : Session} (orderly : Orderly session) : Orderly session.stop := by
  unfold Session.stop
  split
  next idle =>
    split
    · exact orderly
    next running =>
      refine ⟨fun none => ⟨(orderly.resting none).1, rfl⟩, fun _ _ _ => rfl, orderly.emptied, fun _ => rfl,
        fun idle => ?_, fun flushing => ?_⟩
      · cases idle
      · cases flushing
  next requesting =>
    have shut := orderly.stopping (by rw [requesting]; exact Control.noConfusion)
    split
    next none => exact orderly.flushing none shut
    next worker found =>
      refine ⟨fun none => ?_, fun _ _ _ => shut, fun other here finished => ?_, fun _ => shut, fun idle => ?_,
        fun flushing => ?_⟩
      · cases none
      · cases here
        exact orderly.emptied worker found finished
      · cases idle
      · cases flushing
  next joining =>
    have shut := orderly.stopping (by rw [joining]; exact Control.noConfusion)
    split
    next none => exact orderly.flushing none shut
    next worker found =>
      split
      next finished =>
        have empty := orderly.emptied worker found finished
        refine ⟨fun _ => ⟨empty, shut⟩, fun worker here => ?_, fun worker here => ?_, fun _ => shut, fun _ _ => rfl,
          fun _ => rfl⟩
        · cases here
        · cases here
      · exact orderly
  next flushing =>
    have none := orderly.joined flushing
    exact ⟨orderly.resting, orderly.shut, orderly.emptied, fun called => absurd rfl called, fun _ _ => none,
      fun _ => none⟩

theorem Orderly.stop_refuses {session : Session} (orderly : Orderly session) :
    session.stop.service.accepting = false := by
  have shut {control : Control} (here : session.control = control) (called : control ≠ .idle) :
      session.service.accepting = false := orderly.stopping (by rwa [here])
  unfold Session.stop
  split
  · split
    next returns =>
      rw [Bool.and_eq_true, Bool.not_eq_true'] at returns
      exact returns.1
    · rfl
  next requesting => split <;> exact shut requesting Control.noConfusion
  next joining =>
    split
    · exact shut joining Control.noConfusion
    · split <;> exact shut joining Control.noConfusion
  next flushing => exact shut flushing Control.noConfusion

theorem Delivered.underway {session : Session} {delivered : List LogRecord} (given : Delivered session delivered)
    (sequence : UInt64) (logging : List LogRecord) :
    Delivered { session with service.sequence := sequence, logging } delivered :=
  ⟨given.conserved, given.registered, given.later⟩

theorem Orderly.underway {session : Session} (orderly : Orderly session) (sequence : UInt64)
    (logging : List LogRecord) : Orderly { session with service.sequence := sequence, logging } :=
  ⟨orderly.resting, orderly.shut, orderly.emptied, orderly.stopping, orderly.stopped, orderly.joined⟩

theorem Delivered.push {session : Session} {delivered : List LogRecord}
    (given : Delivered session delivered) (call : Nat) : Delivered (session.push call) delivered := by
  unfold Session.push
  split
  · exact given
  next record calling =>
    split
    · exact given.underway _ _
    · refine ⟨?_, given.registered, given.later⟩
      have grown := congrArg (· ++ [record]) given.conserved
      simpa only [List.append_assoc] using grown

theorem Orderly.push {session : Session} (orderly : Orderly session) (call : Nat) :
    Orderly (session.push call) := by
  unfold Session.push
  split
  · exact orderly
  next record calling =>
    split
    · exact orderly.underway _ _
    next open_ =>
      rw [Bool.not_eq_true', Bool.not_eq_false] at open_
      -- while records are accepted, the worker is there and serves
      have shut {goal : Prop} (refusing : session.service.accepting = false) : goal := by
        rw [open_] at refusing
        cases refusing
      exact ⟨fun none => shut (orderly.resting none).2, orderly.shut,
        fun worker here finished => shut (orderly.shut worker here (Or.inr (by rw [finished]; trivial))),
        orderly.stopping, orderly.stopped, orderly.joined⟩

theorem Delivered.addSink {session : Session} {delivered : List LogRecord}
    (given : Delivered session delivered) :
    Delivered { session with service := session.service.addSink } delivered := by
  have listed : session.opened.length ≤ session.service.sinks.length := by
    have lengths := congrArg List.length given.registered
    rw [List.length_take, List.length_map] at lengths
    omega
  refine ⟨given.conserved, ?_, fun sink member => ?_⟩
  · rw [LoggerService.addSink, List.take_append_of_le_length listed]
    exact given.registered
  · rw [LoggerService.addSink, List.drop_append_of_le_length listed] at member
    rcases List.mem_append.mp member with old | new
    · exact given.later sink old
    · rw [List.mem_singleton.mp new]
      exact List.nil_suffix

theorem Orderly.addSink {session : Session} (orderly : Orderly session) :
    Orderly { session with service := session.service.addSink } :=
  ⟨orderly.resting, orderly.shut, orderly.emptied, orderly.stopping, orderly.stopped, orderly.joined⟩

def Consistent (session : Session) : Prop := Orderly session ∧ ∃ delivered, Delivered session delivered

theorem Consistent.underway {session : Session} (consistent : Consistent session) (sequence : UInt64)
    (logging : List LogRecord) : Consistent { session with service.sequence := sequence, logging } := by
  obtain ⟨orderly, delivered, given⟩ := consistent
  exact ⟨orderly.underway sequence logging, delivered, given.underway sequence logging⟩

theorem Consistent.preserved {session : Session} (consistent : Consistent session) (move : Move) :
    Consistent (session.step move) := by
  have ⟨orderly, delivered, given⟩ := consistent
  cases move with
  | addSink => exact ⟨orderly.addSink, delivered, given.addSink⟩
  | start => exact ⟨orderly.start, given.start orderly⟩
  | stop => exact ⟨orderly.stop, delivered, given.stop⟩
  | log level message serviceName => exact consistent.underway _ _
  | logError level error serviceName => exact consistent.underway _ _
  | push call => exact ⟨orderly.push call, delivered, given.push call⟩
  | work => exact ⟨orderly.work (work_cases _), given.work (work_cases _)⟩

/-- `Stop` has joined the worker, or it has returned and no new cycle is open. -/
def Stopped (session : Session) : Prop :=
  session.control = .flushing ∨ session.control = .idle ∧ session.service.accepting = false

theorem Orderly.settled {session : Session} (orderly : Orderly session) {delivered : List LogRecord}
    (given : Delivered session delivered) (stopped : Stopped session) :
    session.service.queue = [] ∧ delivered = session.pushed := by
  have none : session.service.worker = none := by
    rcases stopped with flushing | ⟨idle, shut⟩
    · exact orderly.joined flushing
    · exact orderly.stopped idle shut
  have conserved := given.conserved
  rw [none, (orderly.resting none).1, inFlight, List.append_nil, List.append_nil] at conserved
  exact ⟨(orderly.resting none).1, conserved⟩

/-- Whatever the interleaving, the sinks of a cycle's start are given the records
queued in it, each once and in the order of the queue, and all of them by the
time `Stop` returns. -/
theorem records_delivered_in_order (moves : List Move) :
    let session := run Session.step {} moves
    ∃ delivered, Delivered session delivered ∧
      (Stopped session → session.service.queue = [] ∧ delivered = session.pushed) := by
  intro session
  have start : Consistent ({} : Session) := by
    refine ⟨⟨fun _ => ⟨rfl, rfl⟩, fun _ here => ?_, fun _ here => ?_, fun called => absurd rfl called, fun _ _ => rfl,
      fun _ => rfl⟩, [], rfl, rfl, fun sink member => ?_⟩
    · cases here
    · cases here
    · cases member
  have consistent : Consistent session := run_invariant (fun _ move holds => holds.preserved move) start moves
  obtain ⟨orderly, delivered, given⟩ := consistent
  exact ⟨delivered, given, orderly.settled given⟩

/-- A record logged before the start is dropped; one of the two that follow is
still queued when the worker is asked to stop, and is written all the same. -/
example :
    let moves := [.addSink, .log .info [1] [], .push 0, .start, .log .info [2] [], .push 0, .log .info [3] [],
      .push 0, .work, .stop, .stop, .work, .work, .work, .work, .work, .work, .stop, .stop]
    (run Session.step {} moves).service.sinks.map (List.map (·.message)) = [[[2], [3]]] := by decide

end LoggerService

end DevilzDen.Backend
