import DevilzDen.Backend.Logging.LoggerManager
import Mathlib.Data.List.Nodup
import Mathlib.Data.List.Perm.Subperm

/-! What the sinks of the runtime's logger are given when the runtime is started and stopped.

The calls of `Start` and `Stop` come one after the other, and go through their
instructions one at a time, between the steps of the logger's worker and the
`Log` calls of the executors and of the game's threads. These exist from the
start of the executors to their stop, which waits for the last of them. What the
detection of the game and the integrations report is a parameter. They are
uninstalled and reset without a record. Running out of memory is left out, so
that nothing in `Stop` throws.
-/

set_option autoImplicit false

namespace DevilzDen.RuntimeManager

open Backend Foundation

namespace Logging

inductive SinkKind where
  | console
  | debugger
  | file
  deriving DecidableEq, Repr

/-- The session that registered a sink, and which of its sinks that is. -/
structure Owner where
  session : Nat
  kind : SinkKind
  deriving DecidableEq, Repr

structure Line where
  level : LogLevel
  message : Text
  service : Text
  deriving DecidableEq, Repr

/-- What the thread of `Start` and `Stop` does next. -/
inductive Instruction where
  | addSink (kind : SinkKind)
  | startLogger
  | log (line : Line)
  | enqueue (record : LogRecord)
  | startThreads
  | clearRunning
  | stopThreads
  | stopLogger
  deriving DecidableEq, Repr

/-- A call of `Log`: the session it was made in, and whether the runtime was running. -/
structure Entry where
  session : Nat
  running : Bool
  record : LogRecord
  deriving DecidableEq, Repr

end Logging

/-- The manager as the logger sees it. `session` counts the calls of `Start` that
started something; `owners` goes along with the sinks of the logger. `trying`
tells that the instructions to be done are those of the `try` block of `Start`. -/
structure Logging where
  logger : LoggerService.Session := {}
  running : Bool := false
  threads : Bool := false
  session : Nat := 0
  owners : List Logging.Owner := []
  todo : List Logging.Instruction := []
  trying : Bool := false
  journal : List Logging.Entry := []
  deriving DecidableEq, Repr

namespace Logging

def runtimeLine (level : LogLevel) (message : Text) : Line := ⟨level, message, text "Runtime"⟩

/-- The `try` block of `Start`. -/
def startProgram (logPath : Text) (report : List Line) : List Instruction :=
  [Instruction.addSink .console, .addSink .debugger, .addSink .file, .startLogger,
    .log (runtimeLine .info (text "Devilz_Den DLL runtime starting | Log: " ++ logPath)), .startThreads] ++
    report.map Instruction.log ++ [.log (runtimeLine .info (text "Devilz_Den DLL bootstrap completed"))]

/-- `Stop`, once it has cleared the flag. Flushing the sinks writes nothing to them. -/
def stopProgram : List Instruction :=
  [.stopThreads, .log (runtimeLine .info (text "Devilz_Den DLL runtime stopped cleanly")), .stopLogger]

/-- What `Start` does with an exception, of which `what` is the text where it has one. -/
def handler (what : Option Text) : List Instruction :=
  let message := match what with
    | some what => text "DLL runtime startup threw an exception: " ++ what
    | none => text "DLL runtime startup threw an unknown exception"
  .log (runtimeLine .error message) :: .clearRunning :: stopProgram

def draw (state : Logging) (line : Line) : LogRecord × Logging :=
  let made := state.logger.service.log line.level line.message line.service
  (made.1, { state with
    logger.service := made.2
    journal := state.journal ++ [⟨state.session, state.running, made.1⟩] })

def next (state : Logging) : Logging :=
  match state.todo with
  | [] => state
  | .addSink kind :: rest =>
      { state with
        logger := state.logger.step .addSink
        owners := state.owners ++ [⟨state.session, kind⟩]
        todo := rest }
  | .startLogger :: rest => { state with logger := state.logger.step .start, todo := rest }
  | .log line :: rest =>
      let (record, drawn) := state.draw line
      { drawn with todo := .enqueue record :: rest }
  | .enqueue record :: rest => { state with logger := LoggerManager.enqueue state.logger record, todo := rest }
  | .startThreads :: rest => { state with threads := true, todo := rest }
  | .clearRunning :: rest => { state with running := false, todo := rest }
  -- the executors are gone when nothing that runs on them is left
  | .stopThreads :: rest =>
      if state.logger.logging = [] then { state with threads := false, todo := rest } else state
  | .stopLogger :: rest =>
      let logger := state.logger.step .stop
      { state with logger, todo := if logger.control = .idle then rest else state.todo }

/-- The `try` block throws in its next instruction, or on the way to it. The logger
accepts records by the time its thread cannot be made. -/
def throw (state : Logging) (what : Option Text) : Logging :=
  if !state.trying then state
  else match state.todo with
    | [] | .enqueue _ :: _ => state
    | .startLogger :: _ =>
        { state with logger.service.accepting := true, todo := handler what, trying := false }
    | _ :: _ => { state with todo := handler what, trying := false }

inductive Move where
  | start (logPath : Text) (report : List Line)
  | stop
  | next
  | throw (what : Option Text)
  | background (line : Line)
  | push (call : Nat)
  | work

def step (state : Logging) : Move → Logging
  | .start logPath report =>
      if state.todo ≠ [] ∨ state.running then state
      else { state with
        running := true
        session := state.session + 1
        todo := startProgram logPath report
        trying := true }
  | .stop =>
      if state.todo ≠ [] ∨ !state.running then state
      else { state with running := false, todo := stopProgram, trying := false }
  | .next => state.next
  | .throw what => state.throw what
  | .background line =>
      if !state.threads then state
      else
        let (record, drawn) := state.draw line
        { drawn with logger.logging := drawn.logger.logging ++ [record] }
  | .push call => { state with logger := state.logger.step (.push call) }
  | .work => { state with logger := state.logger.step .work }

/-! ## What the sinks should be given -/

def sinks (state : Logging) : List (List LogRecord) := state.logger.service.sinks

def logged (state : Logging) (session : Nat) : List LogRecord :=
  (state.journal.filter fun entry => entry.session = session).map (·.record)

def loggedRunning (state : Logging) (session : Nat) : List LogRecord :=
  (state.journal.filter fun entry => entry.session = session && entry.running).map (·.record)

/-- The record with which the thread of `Start` and `Stop` waits for the lock. -/
def held : List Instruction → List LogRecord
  | .enqueue record :: _ => [record]
  | _ => []

def Settled (state : Logging) : Prop :=
  held state.todo = [] ∧ state.logger.logging = [] ∧ state.logger.service.queue = [] ∧
    LoggerService.inFlight state.logger.service.worker = []

/-- A sink is given records of its own session only, and each as often as it was
logged. When nothing is under way, which is so after `Stop`, it was given those
logged while running, and each session that logged has one sink of each kind. -/
structure Written (state : Logging) : Prop where
  paired : state.owners.length = state.sinks.length
  single : state.owners.Nodup
  own : ∀ owner sink, (owner, sink) ∈ state.owners.zip state.sinks → sink.Subperm (state.logged owner.session)
  each : Settled state → ∀ entry ∈ state.journal, entry.running = true → ∀ kind,
    ∃ sink, (⟨entry.session, kind⟩, sink) ∈ state.owners.zip state.sinks ∧
      (state.loggedRunning entry.session).Subperm sink
  ended : state.todo = [] → state.running = false → Settled state

/-- The instructions after which the logger is ready for the session. -/
def Instruction.Registers : Instruction → Prop
  | .addSink _ | .startLogger => True
  | _ => False

instance decidableRegisters : DecidablePred Instruction.Registers
  | .addSink _ | .startLogger => isTrue trivial
  | .log _ | .enqueue _ | .startThreads | .clearRunning | .stopThreads | .stopLogger => isFalse id

/-- A session is the first of its manager, and its sinks and the logger's thread can be made. -/
def Respects (state : Logging) : Move → Prop
  | .start .. => state.todo ≠ [] ∨ state.running = true ∨ state.session = 0
  | .throw _ => state.trying = true → ∀ instruction ∈ state.todo.head?, ¬instruction.Registers
  | _ => True

instance decidableRespects (state : Logging) : ∀ move, Decidable (Respects state move)
  | .start .. => inferInstanceAs (Decidable (_ ∨ _ ∨ _))
  | .throw _ => inferInstanceAs (Decidable (_ → ∀ instruction ∈ state.todo.head?, ¬instruction.Registers))
  | .stop | .next | .background _ | .push _ | .work => isTrue trivial

/-! ## The session that is served -/

def sessionOwners (session : Nat) : List Owner := [⟨session, .console⟩, ⟨session, .debugger⟩, ⟨session, .file⟩]

/-- The records of the only session: those on their way to the lock are not queued yet. -/
structure Accounted (state : Logging) : Prop where
  session : state.session = 1
  owners : state.owners = sessionOwners 1
  opened : state.logger.opened = [[], [], []]
  registered : state.sinks.length = 3
  consistent : LoggerService.Consistent state.logger
  journal : (state.journal.map (·.record)).Perm
    (state.logger.pushed ++ (state.logger.logging ++ held state.todo))
  sessions : ∀ entry ∈ state.journal, entry.session = 1

theorem Accounted.delivered {state : Logging} (accounted : Accounted state) :
    ∃ delivered, LoggerService.Delivered state.logger delivered ∧
      state.sinks = [delivered, delivered, delivered] := by
  obtain ⟨_, delivered, given⟩ := accounted.consistent
  refine ⟨delivered, given, ?_⟩
  have registered := given.registered
  rw [accounted.opened] at registered
  exact (List.take_of_length_le (Nat.le_of_eq accounted.registered)).symm.trans registered

theorem Accounted.logged_perm {state : Logging} (accounted : Accounted state) :
    (state.logged 1).Perm (state.logger.pushed ++ (state.logger.logging ++ held state.todo)) := by
  have all : state.journal.filter (fun entry => entry.session = 1) = state.journal := by
    rw [List.filter_eq_self]
    intro entry member
    exact decide_eq_true (accounted.sessions entry member)
  rw [logged, all]
  exact accounted.journal

theorem Accounted.written {state : Logging} (accounted : Accounted state)
    (ended : state.todo = [] → state.running = false → Settled state) : Written state := by
  obtain ⟨delivered, given, sinks⟩ := accounted.delivered
  have conserved := given.conserved
  have same {owner : Owner} {sink : List LogRecord} (paired : (owner, sink) ∈ state.owners.zip state.sinks) :
      owner.session = 1 ∧ sink = delivered := by
    rw [accounted.owners, sinks] at paired
    simp only [sessionOwners, List.zip_cons_cons, List.zip_nil_left, List.mem_cons, Prod.mk.injEq,
      List.not_mem_nil, or_false] at paired
    rcases paired with ⟨rfl, rfl⟩ | ⟨rfl, rfl⟩ | ⟨rfl, rfl⟩ <;> exact ⟨rfl, rfl⟩
  refine ⟨?_, ?_, fun owner sink paired => ?_, fun settled entry member _ kind => ?_, ended⟩
  · rw [accounted.owners, accounted.registered]
    rfl
  · rw [accounted.owners]
    decide
  · obtain ⟨first, rfl⟩ := same paired
    rw [first]
    have queued : sink.Sublist (state.logger.pushed ++ (state.logger.logging ++ held state.todo)) := by
      rw [← conserved, List.append_assoc, List.append_assoc]
      exact List.sublist_append_left _ _
    exact queued.subperm.trans accounted.logged_perm.symm.subperm
  · obtain ⟨waits, logging, queue, flight⟩ := settled
    have perm := accounted.logged_perm
    rw [waits, logging, ← conserved, queue, flight] at perm
    simp only [List.append_nil] at perm
    rw [accounted.sessions entry member]
    refine ⟨delivered, ?_, ?_⟩
    · rw [accounted.owners, sinks]
      cases kind <;> simp [sessionOwners]
    · refine List.Subperm.trans (List.Sublist.subperm ?_) perm.subperm
      refine List.Sublist.map _ (List.monotone_filter_right _ fun entry => ?_)
      simp only [Bool.and_eq_true]
      exact And.left

/-- Taking the lock with a record of one's own is what any call of `Log` does there. -/
theorem consistent_enqueue {session : LoggerService.Session} (consistent : LoggerService.Consistent session)
    (record : LogRecord) : LoggerService.Consistent (LoggerManager.enqueue session record) := by
  have called := (consistent.underway session.service.sequence (record :: session.logging)).preserved (.push 0)
  have same : LoggerService.Session.step { session with logging := record :: session.logging } (.push 0) =
      LoggerManager.enqueue session record := by
    unfold LoggerManager.enqueue
    simp only [LoggerService.Session.step, LoggerService.Session.push, List.getElem?_cons_zero,
      List.eraseIdx_cons_zero]
  rwa [← same]

theorem Accounted.drawn {state : Logging} (accounted : Accounted state) (line : Line) (logging : List LogRecord)
    (todo : List Instruction)
    (underway : (logging ++ held todo).Perm (state.logger.logging ++ held state.todo ++ [(state.draw line).1])) :
    Accounted { (state.draw line).2 with logger.logging := logging, todo } := by
  refine ⟨accounted.session, accounted.owners, accounted.opened, accounted.registered,
    accounted.consistent.underway _ _, ?_, fun entry member => ?_⟩
  · have grown := accounted.journal.append_right [(state.draw line).1]
    have moved := underway.append_left state.logger.pushed
    simp only [draw, List.map_append, List.map_cons, List.map_nil] at grown ⊢
    refine grown.trans (List.Perm.trans ?_ moved.symm)
    simp [draw]
  · rcases List.mem_append.mp member with old | new
    · exact accounted.sessions entry old
    · rw [List.mem_singleton.mp new]
      exact accounted.session

theorem Accounted.enqueue {state : Logging} (accounted : Accounted state) {record : LogRecord}
    {rest : List Instruction} (todo : state.todo = .enqueue record :: rest) (none : held rest = [])
    (accepting : state.logger.service.accepting = true) :
    Accounted { state with logger := LoggerManager.enqueue state.logger record, todo := rest } := by
  have consistent := consistent_enqueue accounted.consistent record
  have taken : LoggerManager.enqueue state.logger record =
      { state.logger with
        service.queue := state.logger.service.queue ++ [record]
        pushed := state.logger.pushed ++ [record] } := by
    rw [LoggerManager.enqueue, accepting]
    rfl
  rw [taken] at consistent ⊢
  refine ⟨accounted.session, accounted.owners, accounted.opened, accounted.registered, consistent, ?_,
    accounted.sessions⟩
  apply accounted.journal.trans
  rw [todo, held]
  dsimp only
  rw [none, List.append_nil, List.append_assoc]
  exact List.perm_append_comm.append_left _

theorem Accounted.logger {state : Logging} (accounted : Accounted state) {logger : LoggerService.Session}
    {todo : List Instruction} (consistent : LoggerService.Consistent logger)
    (opened : logger.opened = state.logger.opened)
    (sinks : logger.service.sinks.length = state.logger.service.sinks.length)
    (records : (logger.pushed ++ (logger.logging ++ held todo)).Perm
      (state.logger.pushed ++ (state.logger.logging ++ held state.todo))) (running threads trying : Bool) :
    Accounted { state with logger, running, threads, todo, trying } :=
  ⟨accounted.session, accounted.owners, opened.trans accounted.opened, sinks.trans accounted.registered,
    consistent, accounted.journal.trans records.symm, accounted.sessions⟩

def Plain (rest : List Instruction) : Prop :=
  ∀ instruction ∈ rest, instruction = .startThreads ∨ ∃ line, instruction = .log line

def Resumes (todo rest : List Instruction) : Prop := todo = rest ∨ ∃ record, todo = .enqueue record :: rest

/-- The way to the logger's stop, from the exception handler or from `Stop`. -/
inductive Leaving (running threads : Bool) (logging : List LogRecord) : List Instruction → Prop where
  | reports (line : Line) (runs : running = true) :
      Leaving running threads logging (.log line :: .clearRunning :: stopProgram)
  | clears (runs : running = true) : Leaving running threads logging (.clearRunning :: stopProgram)
  | stops (stopped : running = false) : Leaving running threads logging stopProgram
  | tells (line : Line) (stopped : running = false) (down : threads = false) (quiet : logging = []) :
      Leaving running threads logging [.log line, .stopLogger]
  | closes (stopped : running = false) (down : threads = false) (quiet : logging = []) :
      Leaving running threads logging [.stopLogger]

/-- Where the thread of `Start` and `Stop` is, once the logger was started. -/
inductive Plan (state : Logging) : Prop where
  | running {rest : List Instruction} (accepting : state.logger.service.accepting = true)
      (runs : state.running = true) (resumes : Resumes state.todo rest)
      (plain : Plain rest)
  | leaving {rest : List Instruction} (accepting : state.logger.service.accepting = true)
      (calm : state.trying = false) (resumes : Resumes state.todo rest)
      (leaving : Leaving state.running state.threads state.logger.logging rest)
  | closed (shut : state.logger.service.accepting = false) (stopped : state.running = false)
      (calm : state.trying = false) (down : state.threads = false) (quiet : state.logger.logging = [])
      (ends : state.todo = [] ∧ state.logger.control = .idle ∨
        state.todo = [.stopLogger] ∧ state.logger.control ≠ .idle)

structure Serving (state : Logging) : Prop where
  accounted : Accounted state
  plan : Plan state

theorem Plan.rested {state : Logging} (plan : Plan state) (idle : state.todo = [])
    (stopped : state.running = false) :
    state.logger.service.accepting = false ∧ state.logger.logging = [] ∧ state.logger.control = .idle ∧
      state.threads = false ∧ state.trying = false := by
  cases plan with
  | running accepting runs =>
    rw [stopped] at runs
    cases runs
  | leaving accepting calm resumes leaving =>
    rw [idle] at resumes
    rcases resumes with none | ⟨record, some⟩
    · subst none
      cases leaving
    · cases some
  | closed shut _ calm down quiet ends =>
    rcases ends with ⟨_, control⟩ | ⟨left, _⟩
    · exact ⟨shut, quiet, control, down, calm⟩
    · rw [idle] at left
      cases left

theorem Serving.written {state : Logging} (serving : Serving state) : Written state := by
  apply serving.accounted.written
  intro idle stopped
  obtain ⟨orderly, delivered, given⟩ := serving.accounted.consistent
  obtain ⟨shut, quiet, control, _⟩ := serving.plan.rested idle stopped
  have worker := orderly.stopped control shut
  have settled := orderly.settled given (Or.inr ⟨control, shut⟩)
  exact ⟨by rw [idle]; rfl, quiet, settled.1, by rw [worker]; rfl⟩

theorem held_of_plain {rest : List Instruction} (plain : Plain rest) : held rest = [] := by
  cases rest with
  | nil => rfl
  | cons instruction more =>
    rcases plain instruction List.mem_cons_self with rfl | ⟨line, rfl⟩ <;> rfl

theorem Leaving.busy {running threads : Bool} {logging : List LogRecord} {rest : List Instruction}
    (leaving : Leaving running threads logging rest) (busy : threads = true ∨ logging ≠ [])
    (after : List LogRecord) : Leaving running threads after rest := by
  have gone {goal : Prop} (down : threads = false) (quiet : logging = []) : goal := by
    rcases busy with up | waits
    · rw [down] at up
      cases up
    · exact absurd quiet waits
  cases leaving with
  | reports line runs => exact .reports line runs
  | clears runs => exact .clears runs
  | stops stopped => exact .stops stopped
  | tells line stopped down quiet => exact gone down quiet
  | closes stopped down quiet => exact gone down quiet

theorem Leaving.held {running threads : Bool} {logging : List LogRecord} {rest : List Instruction}
    (leaving : Leaving running threads logging rest) : held rest = [] := by
  cases leaving <;> rfl

theorem Accounted.log {state : Logging} (accounted : Accounted state) {line : Line} {rest : List Instruction}
    (todo : state.todo = .log line :: rest) :
    Accounted { (state.draw line).2 with todo := .enqueue (state.draw line).1 :: rest } := by
  apply accounted.drawn line state.logger.logging _
  rw [todo]
  simp [held]

theorem Serving.enqueue {state : Logging} (serving : Serving state) {record : LogRecord} {rest : List Instruction}
    (todo : state.todo = .enqueue record :: rest) : Serving state.next := by
  have next : state.next = { state with logger := LoggerManager.enqueue state.logger record, todo := rest } := by
    rw [Logging.next, todo]
  have kept (accepting : state.logger.service.accepting = true) :
      (LoggerManager.enqueue state.logger record).service.accepting = true ∧
        (LoggerManager.enqueue state.logger record).logging = state.logger.logging := by
    rw [LoggerManager.enqueue, accepting]
    exact ⟨accepting, rfl⟩
  have resumed {other : List Instruction} (none : held other = []) (resumes : Resumes state.todo other) :
      other = rest := by
    rcases resumes with same | ⟨_, same⟩
    · rw [← same, todo] at none
      cases none
    · rw [todo] at same
      cases same
      rfl
  rw [next]
  cases serving.plan with
  | running accepting runs resumes plain =>
    have none := held_of_plain plain
    cases resumed none resumes
    exact ⟨serving.accounted.enqueue todo none accepting, .running (kept accepting).1 runs (Or.inl rfl) plain⟩
  | leaving accepting calm resumes leaving =>
    have none := leaving.held
    cases resumed none resumes
    refine ⟨serving.accounted.enqueue todo none accepting, .leaving (kept accepting).1 calm (Or.inl rfl) ?_⟩
    dsimp only
    rwa [(kept accepting).2]
  | closed shut stopped calm down quiet ends =>
    rcases ends with ⟨none, _⟩ | ⟨left, _⟩
    · rw [todo] at none
      cases none
    · rw [todo] at left
      cases left

theorem Serving.close {state : Logging} (accounted : Accounted state) (todo : state.todo = [.stopLogger])
    (stopped : state.running = false) (calm : state.trying = false) (down : state.threads = false)
    (quiet : state.logger.logging = []) : Serving state.next := by
  obtain ⟨opened, pushed, logging, sinks, _⟩ := state.logger.stop_frame
  have next : state.next = { state with
      logger := state.logger.stop
      todo := if state.logger.stop.control = .idle then [] else [.stopLogger] } := by
    rw [Logging.next, todo]
    rfl
  have none : held (if state.logger.stop.control = .idle then [] else [.stopLogger]) = [] := by
    split <;> rfl
  rw [next]
  refine ⟨accounted.logger (accounted.consistent.preserved .stop) opened (congrArg List.length sinks) ?_ _ _ _, ?_⟩
  · rw [LoggerService.Session.step, pushed, logging, none, todo]
    exact List.Perm.refl _
  · refine .closed accounted.consistent.1.stop_refuses stopped calm down (logging.trans quiet) ?_
    dsimp only
    split
    next idle => exact Or.inl ⟨rfl, idle⟩
    next busy => exact Or.inr ⟨rfl, busy⟩

theorem Accounted.instruct {state : Logging} (accounted : Accounted state) (was : held state.todo = [])
    {rest : List Instruction} (none : held rest = []) (running threads : Bool) :
    Accounted { state with running, threads, todo := rest } := by
  refine accounted.logger accounted.consistent rfl rfl ?_ running threads state.trying
  rw [none, was]

theorem Accounted.starts {state : Logging} (accounted : Accounted state)
    (accepting : state.logger.service.accepting = true) (runs : state.running = true) (plain : Plain state.todo) :
    Serving state.next := by
  have was : held state.todo = [] := held_of_plain plain
  cases todo : state.todo with
  | nil =>
    rw [Logging.next, todo]
    exact ⟨accounted, .running accepting runs (Or.inl rfl) plain⟩
  | cons instruction more =>
    rw [todo] at plain
    have behind : Plain more := fun other member => plain other (List.mem_cons_of_mem _ member)
    rw [Logging.next, todo]
    rcases plain instruction List.mem_cons_self with rfl | ⟨line, rfl⟩
    · exact ⟨accounted.instruct was (held_of_plain behind) _ _, .running accepting runs (Or.inl rfl) behind⟩
    · exact ⟨accounted.log todo, .running accepting runs (Or.inr ⟨_, rfl⟩) behind⟩

theorem Accounted.leaves {state : Logging} (accounted : Accounted state)
    (accepting : state.logger.service.accepting = true) (calm : state.trying = false) {rest : List Instruction}
    (todo : state.todo = rest) (leaving : Leaving state.running state.threads state.logger.logging rest) :
    Serving state.next := by
  have was : held state.todo = [] := by
    rw [todo]
    exact leaving.held
  cases leaving with
  | reports line runs =>
    rw [Logging.next, todo]
    exact ⟨accounted.log todo, .leaving accepting calm (Or.inr ⟨_, rfl⟩) (.clears runs)⟩
  | clears runs =>
    rw [Logging.next, todo]
    exact ⟨accounted.instruct was rfl _ _, .leaving accepting calm (Or.inl rfl) (.stops rfl)⟩
  | stops stopped =>
    rw [Logging.next, todo, stopProgram]
    dsimp only
    split
    next quiet =>
      exact ⟨accounted.instruct was rfl _ _, .leaving accepting calm (Or.inl rfl) (.tells _ stopped rfl quiet)⟩
    · exact ⟨accounted, .leaving accepting calm (Or.inl todo) (.stops stopped)⟩
  | tells line stopped down quiet =>
    rw [Logging.next, todo]
    exact ⟨accounted.log todo, .leaving accepting calm (Or.inr ⟨_, rfl⟩) (.closes stopped down quiet)⟩
  | closes stopped down quiet => exact Serving.close accounted todo stopped calm down quiet

theorem Serving.next {state : Logging} (serving : Serving state) : Serving state.next := by
  have accounted := serving.accounted
  cases serving.plan with
  | running accepting runs resumes plain =>
    rcases resumes with rfl | ⟨record, todo⟩
    · exact accounted.starts accepting runs plain
    · exact serving.enqueue todo
  | leaving accepting calm resumes leaving =>
    rcases resumes with todo | ⟨record, todo⟩
    · exact accounted.leaves accepting calm todo leaving
    · exact serving.enqueue todo
  | closed shut stopped calm down quiet ends =>
    rcases ends with ⟨todo, _⟩ | ⟨todo, busy⟩
    · rw [Logging.next, todo]
      exact serving
    · exact Serving.close accounted todo stopped calm down quiet

theorem Plan.of_trying {state : Logging} (plan : Plan state) (trying : state.trying = true) :
    state.logger.service.accepting = true ∧ state.running = true ∧
      ∃ rest, Resumes state.todo rest ∧ Plain rest := by
  cases plan with
  | running accepting runs resumes plain => exact ⟨accepting, runs, _, resumes, plain⟩
  | leaving accepting calm =>
    rw [trying] at calm
    cases calm
  | closed shut stopped calm =>
    rw [trying] at calm
    cases calm

theorem Plan.not_registers {state : Logging} (plan : Plan state) (trying : state.trying = true) :
    ∀ instruction ∈ state.todo.head?, ¬instruction.Registers := by
  obtain ⟨_, _, rest, resumes, plain⟩ := plan.of_trying trying
  intro instruction head registers
  rcases resumes with todo | ⟨record, todo⟩
  · rw [todo] at head
    rcases plain instruction (List.mem_of_mem_head? head) with rfl | ⟨line, rfl⟩ <;> cases registers
  · rw [todo] at head
    cases head
    cases registers

theorem Serving.throw {state : Logging} (serving : Serving state) (what : Option Text) :
    Serving (state.throw what) := by
  unfold Logging.throw
  split
  · exact serving
  next trying =>
    rw [Bool.not_eq_true', Bool.not_eq_false] at trying
    have registers := serving.plan.not_registers trying
    obtain ⟨accepting, runs, rest, resumes, plain⟩ := serving.plan.of_trying trying
    split
    · exact serving
    · exact serving
    next left =>
      rw [left] at registers
      exact absurd trivial (registers .startLogger rfl)
    next instruction more noEnqueue noLogger left =>
      have was : held state.todo = [] := by
        rcases resumes with same | ⟨record, same⟩
        · rw [same]
          exact held_of_plain plain
        · rw [left] at same
          cases same
          exact (noEnqueue _ rfl).elim
      refine ⟨serving.accounted.logger serving.accounted.consistent rfl rfl ?_ _ _ _,
        .leaving accepting rfl (Or.inl rfl) (.reports _ runs)⟩
      rw [was]
      exact List.Perm.refl _

theorem Serving.background {state : Logging} (serving : Serving state) (line : Line) :
    Serving (step state (.background line)) := by
  rw [step]
  split
  · exact serving
  next up =>
    rw [Bool.not_eq_true', Bool.not_eq_false] at up
    have accounted : Accounted { (state.draw line).2 with
        logger.logging := (state.draw line).2.logger.logging ++ [(state.draw line).1] } := by
      apply serving.accounted.drawn line _ state.todo
      rw [List.append_assoc, List.append_assoc]
      exact List.perm_append_comm.append_left _
    refine ⟨accounted, ?_⟩
    cases serving.plan with
    | running accepting runs resumes plain => exact .running accepting runs resumes plain
    | leaving accepting calm resumes leaving =>
      exact .leaving accepting calm resumes (leaving.busy (Or.inl up) _)
    | closed shut stopped calm down =>
      rw [up] at down
      cases down

theorem Serving.push {state : Logging} (serving : Serving state) (call : Nat) :
    Serving (step state (.push call)) := by
  have consistent := serving.accounted.consistent.preserved (.push call)
  rw [step]
  cases calling : state.logger.logging[call]? with
  | none =>
    have same : state.logger.step (.push call) = state.logger := by
      rw [LoggerService.Session.step, LoggerService.Session.push, calling]
    rw [same]
    exact serving
  | some record =>
    have there : state.logger.logging ≠ [] := by
      intro none
      rw [none] at calling
      cases calling
    have queued (accepting : state.logger.service.accepting = true) : state.logger.step (.push call) =
        { state.logger with
          logging := state.logger.logging.eraseIdx call
          service.queue := state.logger.service.queue ++ [record]
          pushed := state.logger.pushed ++ [record] } := by
      simp only [LoggerService.Session.step, LoggerService.Session.push, calling, accepting]
      rfl
    have accounted (accepting : state.logger.service.accepting = true) :
        Accounted { state with logger := state.logger.step (.push call) } := by
      rw [queued accepting] at consistent ⊢
      refine serving.accounted.logger consistent rfl rfl ?_ _ _ _
      obtain ⟨inside, rfl⟩ := List.getElem?_eq_some_iff.mp calling
      have taken := (List.getElem_cons_eraseIdx_perm inside).append_right (held state.todo)
      rw [List.append_assoc]
      exact taken.append_left state.logger.pushed
    cases serving.plan with
    | running accepting runs resumes plain =>
      refine ⟨accounted accepting, ?_⟩
      rw [queued accepting]
      exact .running accepting runs resumes plain
    | leaving accepting calm resumes leaving =>
      refine ⟨accounted accepting, ?_⟩
      rw [queued accepting]
      exact .leaving accepting calm resumes (leaving.busy (Or.inr there) _)
    | closed shut stopped calm down quiet => exact absurd quiet there

theorem Serving.work {state : Logging} (serving : Serving state) : Serving (step state .work) := by
  obtain ⟨sinks, accepting⟩ := (LoggerService.work_cases state.logger.service).frame
  have consistent := serving.accounted.consistent.preserved .work
  refine ⟨serving.accounted.logger consistent rfl sinks (List.Perm.refl _) _ _ _, ?_⟩
  cases serving.plan with
  | running open_ runs resumes plain => exact .running (accepting.trans open_) runs resumes plain
  | leaving open_ calm resumes leaving => exact .leaving (accepting.trans open_) calm resumes leaving
  | closed shut stopped calm down quiet ends => exact .closed (accepting.trans shut) stopped calm down quiet ends

theorem Serving.stop {state : Logging} (serving : Serving state) : Serving (step state .stop) := by
  rw [step]
  split
  · exact serving
  next stops =>
    simp only [not_or, not_not, Bool.not_eq_true', Bool.not_eq_false] at stops
    obtain ⟨idle, runs⟩ := stops
    refine ⟨serving.accounted.logger serving.accounted.consistent rfl rfl ?_ _ _ _, ?_⟩
    · rw [idle]
      exact List.Perm.refl _
    · cases serving.plan with
      | running accepting => exact .leaving accepting rfl (Or.inl rfl) (.stops rfl)
      | leaving accepting => exact .leaving accepting rfl (Or.inl rfl) (.stops rfl)
      | closed shut stopped =>
        rw [runs] at stopped
        cases stopped

theorem Serving.preserved {state : Logging} (serving : Serving state) (move : Move)
    (respects : Respects state move) : Serving (step state move) := by
  cases move with
  | start logPath report =>
    have busy : state.todo ≠ [] ∨ state.running = true := by
      rcases respects with left | runs | first
      · exact Or.inl left
      · exact Or.inr runs
      · rw [serving.accounted.session] at first
        cases first
    rw [step, if_pos busy]
    exact serving
  | stop => exact serving.stop
  | next => exact serving.next
  | throw what => exact serving.throw what
  | background line => exact serving.background line
  | push call => exact serving.push call
  | work => exact serving.work

/-! ## Before the session is served -/

/-- The manager in its first session, which has registered some sinks and no more. -/
def registered (kinds : List SinkKind) (todo : List Instruction) : Logging where
  logger := { service := { sinks := kinds.map fun _ => [] } }
  running := true
  session := 1
  owners := kinds.map (⟨1, ·⟩)
  todo := todo
  trying := true

inductive Stage (state : Logging) : Prop where
  | fresh (same : state = {})
  | registering {done left : List SinkKind} {lines : List Instruction}
      (kinds : done ++ left = [.console, .debugger, .file])
      (plain : Plain lines)
      (same : state = registered done (left.map .addSink ++ .startLogger :: lines))
  | serving (serving : Serving state)

theorem written_of_unlogged {state : Logging} (paired : state.owners.length = state.sinks.length)
    (single : state.owners.Nodup) (unlogged : state.journal = []) (empty : ∀ sink ∈ state.sinks, sink = [])
    (ended : state.todo = [] → state.running = false → Settled state) : Written state := by
  refine ⟨paired, single, fun owner sink member => ?_, fun _ entry member => ?_, ended⟩
  · rw [empty sink (List.of_mem_zip member).2]
    exact List.nil_subperm
  · rw [unlogged] at member
    cases member

theorem Stage.written {state : Logging} (stage : Stage state) : Written state := by
  cases stage with
  | fresh same =>
    subst same
    refine written_of_unlogged rfl List.nodup_nil rfl (fun sink member => ?_) fun _ _ => ⟨rfl, rfl, rfl, rfl⟩
    cases member
  | @registering done left lines kinds plain same =>
    subst same
    have distinct : done.Nodup := by
      have all : (done ++ left).Nodup := by
        rw [kinds]
        decide
      exact all.sublist (List.sublist_append_left _ _)
    refine written_of_unlogged ?_ ?_ rfl ?_ fun _ stopped => ?_
    · simp [registered, sinks]
    · exact List.Nodup.map (fun _ _ same => (Owner.mk.inj same).2) distinct
    · intro sink member
      obtain ⟨_, _, rfl⟩ := List.mem_map.mp member
      rfl
    · cases stopped
  | serving serving => exact serving.written

theorem startProgram_eq (logPath : Text) (report : List Line) :
    ∃ lines, startProgram logPath report =
        [SinkKind.console, .debugger, .file].map .addSink ++ .startLogger :: lines ∧ Plain lines := by
  refine ⟨.log (runtimeLine .info (text "Devilz_Den DLL runtime starting | Log: " ++ logPath)) :: .startThreads ::
    (report.map .log ++ [.log (runtimeLine .info (text "Devilz_Den DLL bootstrap completed"))]), rfl,
    fun instruction member => ?_⟩
  simp only [List.mem_cons, List.mem_append, List.mem_map, List.not_mem_nil, or_false] at member
  rcases member with rfl | rfl | ⟨line, _, rfl⟩ | rfl
  · exact Or.inr ⟨_, rfl⟩
  · exact Or.inl rfl
  · exact Or.inr ⟨_, rfl⟩
  · exact Or.inr ⟨_, rfl⟩

theorem serving_of_registered {lines : List Instruction} (plain : Plain lines) :
    Serving (registered [.console, .debugger, .file] (.startLogger :: lines)).next := by
  have consistent : LoggerService.Consistent
      ({ service := { sinks := [[], [], []], worker := some {}, accepting := true }
         opened := [[], [], []] } : LoggerService.Session) := by
    refine ⟨⟨fun none => ?_, fun worker here leaving => ?_, fun worker here finished => ?_, fun called => ?_,
      fun _ shut => ?_, fun flushing => ?_⟩, [], rfl, rfl, fun sink member => ?_⟩
    · cases none
    · cases here
      rcases leaving with asked | past
      · cases asked
      · cases past
    · cases here
      cases finished
    · exact absurd rfl called
    · cases shut
    · cases flushing
    · cases member
  refine ⟨⟨rfl, rfl, rfl, rfl, consistent, ?_, fun entry member => ?_⟩, .running rfl rfl (Or.inl rfl) plain⟩
  · show List.Perm [] ([] ++ ([] ++ held lines))
    rw [held_of_plain plain]
    exact List.Perm.refl _
  · cases member

theorem stage_of_registering {done left : List SinkKind} {lines : List Instruction}
    (kinds : done ++ left = [.console, .debugger, .file]) (plain : Plain lines) :
    Stage (registered done (left.map .addSink ++ .startLogger :: lines)).next := by
  cases left with
  | nil =>
    rw [List.append_nil] at kinds
    subst kinds
    exact .serving (serving_of_registered plain)
  | cons kind more =>
    have moved : done ++ [kind] ++ more = [.console, .debugger, .file] := by
      rw [List.append_assoc]
      exact kinds
    refine .registering moved plain ?_
    simp only [registered, List.map_append]
    rfl

theorem Stage.preserved (state : Logging) (move : Move) (stage : Stage state) (respects : Respects state move) :
    Stage (step state move) := by
  cases stage with
  | fresh same =>
    subst same
    cases move with
    | start logPath report =>
      obtain ⟨lines, program, plain⟩ := startProgram_eq logPath report
      refine .registering (List.nil_append _) plain ?_
      rw [← program]
      rfl
    | stop | next | throw | background | push | work => exact .fresh rfl
  | @registering done left lines kinds plain same =>
    subst same
    have busy : (registered done (left.map .addSink ++ .startLogger :: lines)).todo ≠ [] := by simp [registered]
    have stays : Stage (registered done (left.map .addSink ++ .startLogger :: lines)) :=
      .registering kinds plain rfl
    cases move with
    | start logPath report =>
      rw [step, if_pos (Or.inl busy)]
      exact stays
    | stop =>
      rw [step, if_pos (Or.inl busy)]
      exact stays
    | next => exact stage_of_registering kinds plain
    | throw what =>
      cases left with
      | nil => exact absurd trivial (respects rfl .startLogger rfl)
      | cons kind more => exact absurd trivial (respects rfl (.addSink kind) rfl)
    | background | push | work => exact stays
  | serving serving => exact .serving (serving.preserved move respects)

theorem stage_run {moves : List Move} (guarded : Guarded step Respects {} moves) : Stage (run step {} moves) :=
  Guarded.invariant Stage.preserved (.fresh rfl) guarded

/-! ## A second session, and one that fails before it is served -/

def rested (sequence : UInt64) (given : List LogRecord) (journal : List Entry) : Logging where
  logger :=
    { service := { sequence, sinks := [given, given, given] }
      opened := [[], [], []]
      pushed := given }
  session := 1
  owners := sessionOwners 1
  journal := journal

theorem Serving.rested {state : Logging} (serving : Serving state) (idle : state.todo = [])
    (stopped : state.running = false) :
    ∃ sequence given journal, state = Logging.rested sequence given journal ∧ (state.logged 1).Perm given := by
  obtain ⟨accounted, plan⟩ := serving
  obtain ⟨delivered, given, sinks⟩ := accounted.delivered
  obtain ⟨orderly, _⟩ := accounted.consistent
  obtain ⟨shut, quiet, control, down, calm⟩ := plan.rested idle stopped
  have worker := orderly.stopped control shut
  obtain ⟨empty, rfl⟩ := orderly.settled given (Or.inr ⟨control, shut⟩)
  have perm := accounted.logged_perm
  have none : held ([] : List Instruction) = [] := rfl
  rw [quiet, idle, none, List.append_nil, List.append_nil] at perm
  refine ⟨state.logger.service.sequence, state.logger.pushed, state.journal, ?_, perm⟩
  have session := accounted.session
  have owners := accounted.owners
  have opened := accounted.opened
  obtain ⟨⟨⟨_, _, _, _, _⟩, _, _, _, _⟩, _, _, _, _, _, _, _⟩ := state
  simp only [Logging.sinks] at *
  simp only [Logging.rested, idle, stopped, shut, quiet, control, down, calm, worker, empty, sinks, session,
    owners, opened]

theorem logged_of_other {state after : Logging} {entry : Entry} {session : Nat}
    (journal : after.journal = state.journal ++ [entry]) (other : entry.session ≠ session) :
    after.logged session = state.logged session := by
  rw [logged, journal, List.filter_append, List.filter_singleton, decide_eq_false other]
  exact congrArg _ (List.append_nil _)

/-- The sinks of the first session are given what the second logs. -/
theorem Serving.restarted {state : Logging} (serving : Serving state) (idle : state.todo = [])
    (stopped : state.running = false) (logPath : Text) (report : List Line) :
    ∃ more, ¬Written (run step state (.start logPath report :: more)) := by
  obtain ⟨sequence, given, journal, same, perm⟩ := serving.rested idle stopped
  refine ⟨List.replicate 6 .next ++ [.work, .work], fun written => ?_⟩
  subst same
  let made := LoggerService.log ⟨sequence, [], [given, given, given, [], [], []], some {}, true⟩ .info
    (text "Devilz_Den DLL runtime starting | Log: " ++ logPath) (text "Runtime")
  have second : (run step (Logging.rested sequence given journal)
      (.start logPath report :: (List.replicate 6 .next ++ [.work, .work]))).journal =
        (Logging.rested sequence given journal).journal ++ [⟨2, true, made.1⟩] := rfl
  -- the first console sink has been given one record more than its session logged
  have fewer := (written.own ⟨1, .console⟩ (given ++ [made.1]) List.mem_cons_self).length_le
  rw [logged_of_other second (Nat.succ_ne_self 1), perm.length_eq, List.length_append] at fewer
  exact absurd fewer (Nat.not_succ_le_self _)

/-- A sink that cannot be made: the handler's record is dropped, and the session has no file sink. -/
theorem unserved_of_sink {done more : List SinkKind} {kind : SinkKind} {lines : List Instruction}
    (kinds : done ++ kind :: more = [.console, .debugger, .file]) (what : Option Text) :
    ∃ after, ¬Written (run step (registered done ((kind :: more).map .addSink ++ .startLogger :: lines))
      (.throw what :: after)) := by
  refine ⟨[.next, .next], fun written => ?_⟩
  obtain ⟨sink, paired, _⟩ := written.each ⟨rfl, rfl, rfl, rfl⟩ _ List.mem_cons_self rfl .file
  have listed : (⟨1, .file⟩ : Owner) ∈ done.map (⟨1, ·⟩) := (List.of_mem_zip paired).1
  obtain ⟨_, member, same⟩ := List.mem_map.mp listed
  cases same
  -- the file sink is the last of the three, so it is among those that are left
  have last : .file ∈ kind :: more := by
    apply List.mem_of_getLast?
    rw [← List.getLast?_append_of_ne_nil done (List.cons_ne_nil kind more), kinds]
    rfl
  have distinct : (done ++ kind :: more).Nodup := by
    rw [kinds]
    decide
  exact (List.nodup_append.mp distinct).2.2 .file member .file last rfl

theorem queued_of_thread (lines : List Instruction) (what : Option Text) :
    ∃ record journal, run step (registered [.console, .debugger, .file] (.startLogger :: lines))
        [.throw what, .next, .next] =
      { logger :=
          { service := { sequence := 1, queue := [record], sinks := [[], [], []], accepting := true }
            pushed := [record] }
        running := true
        session := 1
        owners := sessionOwners 1
        todo := .clearRunning :: stopProgram
        journal := journal } := ⟨_, _, rfl⟩

/-- The logger's thread cannot be made: what the handler logs is in the queue when `Stop` returns. -/
theorem unserved_of_thread (lines : List Instruction) (what : Option Text) :
    ∃ after, ¬Written (run step (registered [.console, .debugger, .file] (.startLogger :: lines))
      (.throw what :: after)) := by
  obtain ⟨record, journal, queued⟩ := queued_of_thread lines what
  refine ⟨[.next, .next] ++ List.replicate 7 Move.next, fun written => ?_⟩
  rw [← List.cons_append, run_append, queued] at written
  have settled := written.ended rfl rfl
  exact List.cons_ne_nil _ _ settled.2.2.1

theorem Stage.unserved {state : Logging} (stage : Stage state) {move : Move} (breaks : ¬Respects state move) :
    ∃ more, ¬Written (run step state (move :: more)) := by
  cases move with
  | start logPath report =>
    simp only [Respects, not_or, not_not, Bool.not_eq_true] at breaks
    obtain ⟨idle, stopped, later⟩ := breaks
    cases stage with
    | fresh same =>
      subst same
      exact absurd rfl later
    | registering kinds plain same =>
      subst same
      cases stopped
    | serving serving => exact serving.restarted idle stopped logPath report
  | throw what =>
    cases stage with
    | fresh same =>
      subst same
      exact absurd (fun trying => nomatch trying) breaks
    | @registering done left lines kinds plain same =>
      subst same
      cases left with
      | nil =>
        rw [List.append_nil] at kinds
        subst kinds
        exact unserved_of_thread lines what
      | cons kind more => exact unserved_of_sink kinds what
    | serving serving =>
      exact absurd serving.plan.not_registers breaks
  | stop | next | background | push | work => exact absurd trivial breaks

/-- Every record that is logged while the runtime runs is written once to each of
the three sinks of its session, and to no others, in every run whose only session
is the first, with its sinks and the logger's thread made. Anything else can be
continued until that no longer holds. -/
theorem records_written_once (moves : List Move) :
    (Guarded step Respects {} moves → Always step Written {} moves) ∧
      (Guarded step Respects {} moves → ∀ move, ¬Respects (run step {} moves) move →
        ∃ more, ¬Written (run step {} (moves ++ move :: more))) := by
  constructor
  · exact Guarded.always Stage.preserved (fun _ stage => stage.written) (.fresh rfl)
  · intro guarded move breaks
    obtain ⟨more, unwritten⟩ := (stage_run guarded).unserved breaks
    exact ⟨more, by rwa [run_append]⟩

/-- A session from its `Start` to the end of its `Stop`, which logs three records. -/
def oneSession : List Move :=
  .start [] [] :: List.replicate 9 Move.next ++ List.replicate 4 Move.work ++
    .stop :: List.replicate 5 Move.next ++ List.replicate 4 Move.work ++ List.replicate 2 Move.next

theorem records_written_once_one_session :
    Always step Written {} oneSession ∧
      (run step {} oneSession).sinks.map (List.map (·.sequence)) = [[1, 2, 3], [1, 2, 3], [1, 2, 3]] :=
  ⟨(records_written_once oneSession).1 (by decide), by decide⟩

/-- The next session registers three sinks more, and its records are given to all six. -/
theorem restart_multiplies_records :
    let moves := oneSession ++ .start [] [] :: List.replicate 6 Move.next ++ List.replicate 2 Move.work
    (run step {} moves).sinks.map (List.map (·.sequence)) =
        [[1, 2, 3, 4], [1, 2, 3, 4], [1, 2, 3, 4], [4], [4], [4]] ∧
      ¬Always step Written {} moves := by
  intro moves
  refine ⟨by decide, fun always => ?_⟩
  have written := always moves [] (List.append_nil _).symm
  have given := (written.own ⟨1, .console⟩ ((run step {} moves).sinks.headD []) (by decide)).length_le
  exact absurd given (by decide)

end Logging

end DevilzDen.RuntimeManager
