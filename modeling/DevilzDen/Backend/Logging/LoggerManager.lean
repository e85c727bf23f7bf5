import DevilzDen.Backend.Logging.LoggerService
import DevilzDen.Foundation.Threads

/-! The logging facade, and what has become of a fatal record when `Fatal` returns.

`Fatal` queues its record and then flushes. Flushing locks the service and tells
the sinks to flush what they were given; it does not wait for the queue, nor for
the record that the worker may hold. A move is one thread's next atomic step.
-/

set_option autoImplicit false

namespace DevilzDen.Backend

open Foundation

def LogLevel.value : LogLevel → Nat
  | .trace => 0
  | .debug => 1
  | .info => 2
  | .notice => 3
  | .warning => 4
  | .error => 5
  | .critical => 6
  | .fatal => 7

structure LoggerManager where
  service : LoggerService.Session := {}
  minimumLevel : LogLevel := .trace
  deriving DecidableEq, Repr

namespace LoggerManager

def shouldLog (manager : LoggerManager) (level : LogLevel) : Bool := level.value ≥ manager.minimumLevel.value

def log (manager : LoggerManager) (level : LogLevel) (move : LoggerService.Move) : LoggerManager :=
  if !manager.shouldLog level then manager else { manager with service := manager.service.step move }

/-- Where a call of `Fatal` stands. From the lock on it knows its record, if that has passed the filter. -/
inductive FatalPoint where
  | filtering (message serviceName : Text)
  | numbering (message serviceName : Text)
  | locking (record : LogRecord)
  | flushing (logged : Option LogRecord)
  | returned (logged : Option LogRecord)
  deriving DecidableEq, Repr

/-- The section of `Log` under the lock, for a record of one's own. -/
def enqueue (session : LoggerService.Session) (record : LogRecord) : LoggerService.Session :=
  if !session.service.accepting then session
  else { session with
    service.queue := session.service.queue ++ [record]
    pushed := session.pushed ++ [record] }

def fatalStep (manager : LoggerManager) : FatalPoint → LoggerManager × FatalPoint
  | .filtering message serviceName =>
      (manager, if !manager.shouldLog .fatal then .flushing none else .numbering message serviceName)
  | .numbering message serviceName =>
      let made := manager.service.service.log .fatal message serviceName
      ({ manager with service.service := made.2 }, .locking made.1)
  | .locking record => ({ manager with service := enqueue manager.service record }, .flushing (some record))
  -- the sinks are told to flush what they hold
  | .flushing logged => (manager, .returned logged)
  | .returned logged => (manager, .returned logged)

structure Session where
  manager : LoggerManager
  fatals : List FatalPoint := []
  deriving DecidableEq, Repr

inductive Move where
  | fatal (message serviceName : Text)
  | fatalStep (call : Nat)
  | log (level : LogLevel) (message serviceName : Text)
  | logError (level : LogLevel) (error : Error) (serviceName : Text)
  | push (call : Nat)
  | work

def step (session : Session) : Move → Session
  | .fatal message serviceName => { session with fatals := session.fatals ++ [.filtering message serviceName] }
  | .fatalStep call =>
      match session.fatals[call]? with
      | none => session
      | some point =>
          let (manager, next) := session.manager.fatalStep point
          { manager, fatals := session.fatals.set call next }
  | .log level message serviceName =>
      { session with manager := session.manager.log level (.log level message serviceName) }
  | .logError level error serviceName =>
      { session with manager := session.manager.log level (.logError level error serviceName) }
  | .push call => { session with manager.service := session.manager.service.step (.push call) }
  | .work => { session with manager.service := session.manager.service.step .work }

def sinks (session : Session) : List (List LogRecord) := session.manager.service.service.sinks

/-- A record that is still queued, or in the worker's hands. -/
def Pending (service : LoggerService) (record : LogRecord) : Prop :=
  record ∈ service.queue ∨ record ∈ LoggerService.inFlight service.worker

instance decidablePending (service : LoggerService) (record : LogRecord) : Decidable (Pending service record) :=
  inferInstanceAs (Decidable (_ ∨ _))

/-- Every fatal call that has returned finds its record, where it was logged, in every sink. -/
def Written (session : Session) : Prop :=
  ∀ point ∈ session.fatals, ∀ record, point = .returned (some record) → ∀ sink ∈ sinks session, record ∈ sink

def FatalPoint.flushes : FatalPoint → Option LogRecord
  | .flushing logged => logged
  | _ => none

/-- A flush is taken after the record of its call has left the queue and the worker's hands. -/
def Respects (session : Session) : Move → Prop
  | .fatalStep call => ∀ record ∈ session.fatals[call]?.bind FatalPoint.flushes,
      ¬Pending session.manager.service.service record
  | _ => True

instance decidableRespects (session : Session) : ∀ move, Decidable (Respects session move)
  | .fatalStep _ => inferInstanceAs (Decidable (∀ record ∈ _, ¬Pending _ record))
  | .fatal .. | .log .. | .logError .. | .push _ | .work => isTrue trivial

/-- What was written to the sinks since the start of the run, out of what was
there to be written and what was queued since. -/
structure Conserved (start session : LoggerService) (written queued : List LogRecord) : Prop where
  accepting : session.accepting = true
  sinks : session.sinks = start.sinks.map (· ++ written)
  conserved : written ++ LoggerService.inFlight session.worker ++ session.queue =
    LoggerService.inFlight start.worker ++ start.queue ++ queued

theorem Conserved.work {start service after : LoggerService} {written queued : List LogRecord}
    (conserved : Conserved start service written queued) (worked : LoggerService.Worked service after) :
    ∃ more, Conserved start after (written ++ more) queued := by
  have same := conserved.conserved
  cases worked with
  | waited => exact ⟨[], by rwa [List.append_nil]⟩
  | took found queue =>
    refine ⟨[], conserved.accepting, by rw [List.append_nil]; exact conserved.sinks, ?_⟩
    rw [found, queue] at same
    simpa [LoggerService.inFlight] using same
  | left found empty ended =>
    refine ⟨[], conserved.accepting, by rw [List.append_nil]; exact conserved.sinks, ?_⟩
    rw [found] at same
    simpa [LoggerService.inFlight] using same
  | ended found empty =>
    refine ⟨[], conserved.accepting, by rw [List.append_nil]; exact conserved.sinks, ?_⟩
    rw [found] at same
    simpa [LoggerService.inFlight] using same
  | @dispatched stop loop record found =>
    refine ⟨[record], conserved.accepting, ?_, ?_⟩
    · simp [LoggerService.dispatch, conserved.sinks, Function.comp_def]
    · rw [found] at same
      simpa [LoggerService.inFlight, LoggerService.dispatch] using same

theorem Conserved.enqueue {start : LoggerService} {session : LoggerService.Session} {written queued : List LogRecord}
    (conserved : Conserved start session.service written queued) (record : LogRecord) :
    Conserved start (LoggerManager.enqueue session record).service written (queued ++ [record]) := by
  have same := congrArg (· ++ [record]) conserved.conserved
  have open_ : ¬(!session.service.accepting) = true := by simp [conserved.accepting]
  rw [LoggerManager.enqueue, if_neg open_]
  refine ⟨conserved.accepting, conserved.sinks, ?_⟩
  simpa only [List.append_assoc] using same

structure Accounted (start : LoggerService) (session : Session) (written queued : List LogRecord) : Prop where
  conserved : Conserved start session.manager.service.service written queued
  flushing : ∀ point ∈ session.fatals, ∀ record, point = .flushing (some record) → record ∈ queued
  returned : ∀ point ∈ session.fatals, ∀ record, point = .returned (some record) → record ∈ written

theorem Accounted.written {start : LoggerService} {session : Session} {written queued : List LogRecord}
    (accounted : Accounted start session written queued) : Written session := by
  intro point member record same sink listed
  rw [sinks, accounted.conserved.sinks] at listed
  obtain ⟨before, _, rfl⟩ := List.mem_map.mp listed
  exact List.mem_append_right before (accounted.returned point member record same)

theorem Conserved.mem_written {start service : LoggerService} {written queued : List LogRecord}
    (conserved : Conserved start service written queued) {record : LogRecord} (listed : record ∈ queued)
    (settled : ¬Pending service record) : record ∈ written := by
  have there : record ∈ LoggerService.inFlight start.worker ++ start.queue ++ queued :=
    List.mem_append_right _ listed
  rw [← conserved.conserved] at there
  rcases List.mem_append.mp there with earlier | queue
  · rcases List.mem_append.mp earlier with done | hand
    · exact done
    · exact absurd (Or.inr hand) settled
  · exact absurd (Or.inl queue) settled

theorem Accounted.other {start : LoggerService} {session : Session} {written queued : List LogRecord}
    (accounted : Accounted start session written queued) {manager : LoggerManager} {more queuedMore : List LogRecord}
    (conserved : Conserved start manager.service.service (written ++ more) (queued ++ queuedMore)) :
    Accounted start { session with manager } (written ++ more) (queued ++ queuedMore) where
  conserved := conserved
  flushing point member record same := List.mem_append_left _ (accounted.flushing point member record same)
  returned point member record same := List.mem_append_left _ (accounted.returned point member record same)

theorem Accounted.moved {start : LoggerService} {session : Session} {written queued : List LogRecord}
    (accounted : Accounted start session written queued) {manager : LoggerManager} {call : Nat} {next : FatalPoint}
    {more : List LogRecord} (conserved : Conserved start manager.service.service written (queued ++ more))
    (flushing : ∀ record, next = .flushing (some record) → record ∈ queued ++ more)
    (returned : ∀ record, next = .returned (some record) → record ∈ written) :
    Accounted start { manager, fatals := session.fatals.set call next } written (queued ++ more) where
  conserved := conserved
  flushing := Threads.forall_set
    (fun point member record same => List.mem_append_left more (accounted.flushing point member record same)) flushing
  returned := Threads.forall_set accounted.returned returned

theorem Accounted.unqueued {start : LoggerService} {session : Session} {written queued : List LogRecord}
    (accounted : Accounted start session written queued) {manager : LoggerManager} {call : Nat} {next : FatalPoint}
    (conserved : Conserved start manager.service.service written queued)
    (flushing : ∀ record, next ≠ .flushing (some record))
    (returned : ∀ record, next = .returned (some record) → record ∈ written) :
    ∃ more, Accounted start { manager, fatals := session.fatals.set call next } written (queued ++ more) := by
  rw [← List.append_nil queued] at conserved
  exact ⟨[], accounted.moved conserved (fun record same => absurd same (flushing record)) returned⟩

theorem Accounted.fatalStep {start : LoggerService} {session : Session} {written queued : List LogRecord}
    (accounted : Accounted start session written queued) {call : Nat} (respects : Respects session (.fatalStep call)) :
    ∃ more, Accounted start (step session (.fatalStep call)) written (queued ++ more) := by
  have conserved := accounted.conserved
  unfold step
  dsimp only
  split
  · exact ⟨[], (List.append_nil queued).symm ▸ accounted⟩
  next point found =>
    have member : point ∈ session.fatals := List.mem_of_getElem? found
    cases point with
    | filtering message serviceName =>
      refine accounted.unqueued conserved (fun record same => ?_) fun record same => ?_
      · dsimp only [LoggerManager.fatalStep] at same
        split at same <;> cases same
      · dsimp only [LoggerManager.fatalStep] at same
        split at same <;> cases same
    | numbering message serviceName =>
      refine accounted.unqueued ⟨conserved.accepting, conserved.sinks, conserved.conserved⟩ (fun record same => ?_)
        fun record same => ?_
      · cases same
      · cases same
    | locking record =>
      refine ⟨[record], accounted.moved (conserved.enqueue record) (fun other same => ?_) fun other same => ?_⟩
      · cases same
        exact List.mem_append_right queued List.mem_cons_self
      · cases same
    | flushing logged =>
      refine accounted.unqueued conserved (fun record same => ?_) fun record same => ?_
      · cases same
      · cases same
        -- the guard: by now the record has been dispatched
        have settled := respects record (by rw [found]; rfl)
        exact conserved.mem_written (accounted.flushing _ member record rfl) settled
    | returned logged =>
      refine accounted.unqueued conserved (fun record same => ?_) fun record same => ?_
      · cases same
      · exact accounted.returned _ member record same

theorem Conserved.log {start : LoggerService} {manager : LoggerManager} {written queued : List LogRecord}
    (conserved : Conserved start manager.service.service written queued) (level : LogLevel)
    {move : LoggerService.Move} (numbers : ∃ sequence logging,
      manager.service.step move = { manager.service with service.sequence := sequence, logging }) :
    Conserved start (manager.log level move).service.service written queued := by
  unfold LoggerManager.log
  split
  · exact conserved
  · obtain ⟨sequence, logging, numbered⟩ := numbers
    dsimp only
    rw [numbered]
    exact ⟨conserved.accepting, conserved.sinks, conserved.conserved⟩

theorem Conserved.push {start : LoggerService} {session : LoggerService.Session} {written queued : List LogRecord}
    (conserved : Conserved start session.service written queued) (call : Nat) :
    ∃ more, Conserved start (session.push call).service written (queued ++ more) := by
  unfold LoggerService.Session.push
  split
  · exact ⟨[], by rwa [List.append_nil]⟩
  next record calling =>
    have queued := conserved.enqueue record
    rw [LoggerManager.enqueue, if_neg (by simp [conserved.accepting])] at queued
    rw [if_neg (by simp [conserved.accepting])]
    exact ⟨[record], queued⟩

theorem Accounted.step {start : LoggerService} {session : Session} {written queued : List LogRecord}
    (accounted : Accounted start session written queued) {move : Move} (respects : Respects session move) :
    ∃ written queued, Accounted start (step session move) written queued := by
  have conserved := accounted.conserved
  cases move with
  | fatal message serviceName =>
    refine ⟨written, queued, conserved, fun point member record same => ?_, fun point member record same => ?_⟩
    · rcases List.mem_append.mp member with old | new
      · exact accounted.flushing point old record same
      · rw [List.mem_singleton.mp new] at same
        cases same
    · rcases List.mem_append.mp member with old | new
      · exact accounted.returned point old record same
      · rw [List.mem_singleton.mp new] at same
        cases same
  | fatalStep call =>
    obtain ⟨more, stepped⟩ := accounted.fatalStep respects
    exact ⟨written, queued ++ more, stepped⟩
  | log level message serviceName =>
    exact ⟨written, queued, conserved.log level ⟨_, _, rfl⟩, accounted.flushing, accounted.returned⟩
  | logError level error serviceName =>
    exact ⟨written, queued, conserved.log level ⟨_, _, rfl⟩, accounted.flushing, accounted.returned⟩
  | push call =>
    obtain ⟨more, pushed⟩ := conserved.push call
    rw [← List.append_nil written] at pushed
    exact ⟨_, _, accounted.other pushed⟩
  | work =>
    obtain ⟨more, worked⟩ := conserved.work (LoggerService.work_cases _)
    rw [← List.append_nil queued] at worked
    exact ⟨_, _, accounted.other worked⟩

/-- While the service runs, every fatal record is written before its call
returns, if no call flushes while its record is queued or in the worker's hands. -/
theorem guarded_fatal_written (manager : LoggerManager) (running : manager.service.service.accepting = true)
    (moves : List Move) (guarded : Guarded step Respects { manager } moves) :
    Always step Written { manager } moves := by
  have start : ∃ written queued, Accounted manager.service.service { manager } written queued := by
    refine ⟨[], [], ⟨running, ?_, ?_⟩, fun _ member => ?_, fun _ member => ?_⟩
    · simp
    · rw [List.nil_append, List.append_nil]
    · cases member
    · cases member
  have preserved (session : Session) (move : Move)
      (holds : ∃ written queued, Accounted manager.service.service session written queued)
      (respects : Respects session move) :
      ∃ written queued, Accounted manager.service.service (step session move) written queued := by
    obtain ⟨written, queued, accounted⟩ := holds
    exact accounted.step respects
  exact Guarded.always preserved (fun _ ⟨_, _, accounted⟩ => accounted.written) start guarded

def runningManager : LoggerManager :=
  { service := run LoggerService.Session.step {} [.addSink, .start] }

def awaitedFatal : List Move :=
  [.fatal (text "stopping") [], .fatalStep 0, .fatalStep 0, .fatalStep 0, .work, .work, .fatalStep 0]

theorem awaited_fatal_written : Always step Written { manager := runningManager } awaitedFatal :=
  guarded_fatal_written runningManager (by decide) awaitedFatal (by decide)

/-- The worker does not run before the flush. -/
def hastyFatal : List Move :=
  [.fatal (text "stopping") [], .fatalStep 0, .fatalStep 0, .fatalStep 0, .fatalStep 0]

theorem hasty_fatal_unwritten :
    runningManager.service.service.accepting = true ∧ sinks { manager := runningManager } ≠ [] ∧
      ¬Always step Written { manager := runningManager } hastyFatal := by
  refine ⟨by decide, by decide, fun always => ?_⟩
  let record : LogRecord := { sequence := 1, level := .fatal, message := text "stopping" }
  have returned : (run step { manager := runningManager } hastyFatal).fatals = [.returned (some record)] := by decide
  have unwritten : sinks (run step { manager := runningManager } hastyFatal) = [[]] := by decide
  have written := always hastyFatal [] rfl (.returned (some record)) (by rw [returned]; exact List.mem_cons_self)
    record rfl [] (by rw [unwritten]; exact List.mem_cons_self)
  cases written

end LoggerManager

end DevilzDen.Backend
