import DevilzDen.Runtime.DLLBootstrap
import Mathlib.Data.Prod.Lex

/-! What becomes of the runtime under the bootstrap thread.

The thread starts its runtime once, so the sinks of the log are registered once.
A request to unload stays, and as far as the log goes, a step of the thread, of
the logger's worker or of a call of `Log` under way brings the thread nearer to
its end. Its executors and the hook join it elsewhere.
-/

set_option autoImplicit false

namespace DevilzDen.DLLBootstrap

open Backend Foundation RuntimeManager

/-! ## The log of the library -/

/-- Nothing is thrown before the logger's thread has been started. -/
def Respects (session : DLLBootstrap) : Move → Prop
  | .throw index what =>
      ∀ thread ∈ session.threads[index]?, Logging.Respects thread.runtime (.throw what)
  | _ => True

instance decidableRespects (session : DLLBootstrap) : ∀ move, Decidable (Respects session move)
  | .throw index what =>
      inferInstanceAs (Decidable (∀ thread ∈ session.threads[index]?,
        Logging.Respects thread.runtime (.throw what)))
  | .attach _ | .proceed _ | .requestUnload | .advance .. | .background .. | .push .. | .work _ => isTrue trivial

/-- The steps that a move of the library may take in the runtime of a thread. -/
inductive Allowed (session : DLLBootstrap) (thread : Thread) : Move → Logging.Move → Prop where
  | start {index : Nat} {logPath : Text} {report : List Logging.Line} (created : thread.point = .created) :
      Allowed session thread (.advance index logPath report) (.start logPath report)
  | next {index : Nat} {logPath : Text} {report : List Logging.Line} :
      Allowed session thread (.advance index logPath report) .next
  | stop {index : Nat} {logPath : Text} {report : List Logging.Line} :
      Allowed session thread (.advance index logPath report) .stop
  | throw {index : Nat} {what : Option Text} (found : session.threads[index]? = some thread) :
      Allowed session thread (.throw index what) (.throw what)
  | background {index : Nat} {line : Logging.Line} :
      Allowed session thread (.background index line) (.background line)
  | push {index call : Nat} : Allowed session thread (.push index call) (.push call)
  | work {index : Nat} : Allowed session thread (.work index) .work

def Moved (session : DLLBootstrap) (move : Move) (thread : Thread) (after : Logging) : Prop :=
  after = thread.runtime ∨ ∃ inner, Allowed session thread move inner ∧ after = thread.runtime.step inner

theorem advance_moved (session : DLLBootstrap) (thread : Thread) (index : Nat) (stopRequested : Bool)
    (logPath : Text) (report : List Logging.Line) :
    Moved session (.advance index logPath report) thread
      (thread.advance stopRequested logPath report).runtime := by
  unfold Thread.advance
  cases point : thread.point with
  | created => exact Or.inr ⟨_, .start point, rfl⟩
  | starting | stopping =>
    dsimp only
    split
    · exact Or.inr ⟨_, .next, rfl⟩
    · exact Or.inl rfl
  | polling =>
    dsimp only
    split
    · exact Or.inr ⟨_, .stop, rfl⟩
    · exact Or.inl rfl
  | started | failed | stopped | exited => exact Or.inl rfl

theorem runtime_cases {session : DLLBootstrap} {move : Move} {thread : Thread}
    (member : thread ∈ (step session move).threads) :
    thread.runtime = {} ∨ ∃ old ∈ session.threads, Moved session move old thread.runtime := by
  have kept {other : Move} (listed : thread ∈ session.threads) :
      ∃ old ∈ session.threads, Moved session other old thread.runtime := ⟨thread, listed, Or.inl rfl⟩
  have foreign {index : Nat} {other : Move} {inner : Logging.Move}
      (allowed : ∀ old, session.threads[index]? = some old → Allowed session old other inner)
      (listed : thread ∈ (session.within index inner).threads) :
      ∃ old ∈ session.threads, Moved session other old thread.runtime := by
    unfold within at listed
    split at listed
    · exact kept listed
    next old found =>
      rcases List.mem_or_eq_of_mem_set listed with same | rfl
      · exact kept same
      · exact ⟨old, List.mem_of_getElem? found, Or.inr ⟨inner, allowed old found, rfl⟩⟩
  cases move with
  | attach module =>
    rw [step] at member
    split at member <;> exact Or.inr (kept member)
  | proceed created =>
    rw [step, DLLBootstrap.proceed] at member
    split at member
    · exact Or.inr (kept member)
    · split at member <;> exact Or.inr (kept member)
    · exact Or.inr (kept member)
    · split at member
      · rcases List.mem_append.mp member with old | new
        · exact Or.inr (kept old)
        · rw [List.mem_singleton.mp new]
          exact Or.inl rfl
      · exact Or.inr (kept member)
  | requestUnload => exact Or.inr (kept member)
  | advance index logPath report =>
    rw [step] at member
    split at member
    · exact Or.inr (kept member)
    next old found =>
      rcases List.mem_or_eq_of_mem_set member with same | rfl
      · exact Or.inr (kept same)
      · exact Or.inr ⟨old, List.mem_of_getElem? found, advance_moved session old index _ logPath report⟩
  | throw index what => exact Or.inr (foreign (fun _ found => .throw found) member)
  | background index line => exact Or.inr (foreign (fun _ _ => .background) member)
  | push index call => exact Or.inr (foreign (fun _ _ => .push) member)
  | work index => exact Or.inr (foreign (fun _ _ => .work) member)

/-- Each runtime is in its first session, or before it. -/
def Staged (session : DLLBootstrap) : Prop := ∀ thread ∈ session.threads, Logging.Stage thread.runtime

theorem Allowed.respects {session : DLLBootstrap} {thread : Thread} {move : Move} {inner : Logging.Move}
    (allowed : Allowed session thread move inner) (placed : Placed thread) (respects : Respects session move) :
    Logging.Respects thread.runtime inner := by
  cases allowed with
  | start created =>
    rw [Placed, created] at placed
    exact Or.inr (Or.inr (by rw [placed]))
  | throw found => exact respects thread found
  | next | stop | background | push | work => exact trivial

theorem Staged.preserved (session : DLLBootstrap) (move : Move) (invariant : Single session ∧ Staged session)
    (respects : Respects session move) : Single (step session move) ∧ Staged (step session move) := by
  obtain ⟨single, staged⟩ := invariant
  refine ⟨single.preserved session move, fun thread member => ?_⟩
  rcases runtime_cases member with new | ⟨old, listed, same | ⟨inner, allowed, stepped⟩⟩
  · exact .fresh new
  · rw [same]
    exact staged old listed
  · rw [stepped]
    exact (staged old listed).preserved _ inner (allowed.respects (single.placed old listed) respects)

/-- Every record that is logged while the runtime runs is written once to each of
the three sinks of its session, in every run of the library whose `Start` throws
nothing before the logger's thread runs: the thread gives its manager no second session. -/
theorem library_records_written_once (moves : List Move) (guarded : Guarded step Respects {} moves) :
    Always step (fun session => ∀ thread ∈ session.threads, Logging.Written thread.runtime) {} moves := by
  refine Guarded.always Staged.preserved (fun session invariant thread member => ?_)
    ⟨single_initial, fun _ member => ?_⟩ guarded
  · exact (invariant.2 thread member).written
  · cases member

theorem library_records_written_once_attached :
    Always step (fun session => ∀ thread ∈ session.threads, Logging.Written thread.runtime) {}
      (attached ++ [.throw 0 none, .work 0, .work 0, .background 0 (Logging.runtimeLine .info []), .push 0 0]) :=
  library_records_written_once _ (by decide)

/-! ## The way out of the runtime -/

/-- What an instruction may take, with all that follows from it. -/
def instructionWeight : Logging.Instruction → Nat
  | .addSink _ | .startThreads | .clearRunning | .stopThreads => 1
  | .startLogger => 3
  | .enqueue _ => 4
  | .log _ | .stopLogger => 5

def workerWeight : Option LoggerService.Worker → Nat
  | none => 0
  | some worker =>
      match worker.point with
      | .taking .serving => 2
      | .taking .draining => 1
      | .dispatching .serving _ => 4
      | .dispatching .draining _ => 3
      | .finished => 0

def controlWeight : LoggerService.Control → Nat
  | .idle => 3
  | .requesting => 2
  | .joining => 1
  | .flushing => 0

def loggerWeight (session : LoggerService.Session) : Nat :=
  4 * session.logging.length + 3 * session.service.queue.length + workerWeight session.service.worker +
    controlWeight session.control

def weight (runtime : Logging) : Nat := (runtime.todo.map instructionWeight).sum + loggerWeight runtime.logger

/-- A logger that is being stopped is stopped by the instruction that is next. -/
structure Calm (runtime : Logging) : Prop where
  closing : runtime.logger.control ≠ .idle →
    runtime.logger.service.accepting = false ∧ ∃ rest, runtime.todo = .stopLogger :: rest
  trying : runtime.trying = true → .stopLogger ∉ runtime.todo

theorem Calm.control_of_trying {runtime : Logging} (calm : Calm runtime) (trying : runtime.trying = true) :
    runtime.logger.control = .idle := by
  by_contra busy
  obtain ⟨_, rest, next⟩ := calm.closing busy
  exact calm.trying trying (next ▸ List.mem_cons_self)

theorem Calm.control_of_head {runtime : Logging} (calm : Calm runtime) {instruction : Logging.Instruction}
    {rest : List Logging.Instruction} (todo : runtime.todo = instruction :: rest)
    (other : instruction ≠ .stopLogger) : runtime.logger.control = .idle := by
  by_contra busy
  obtain ⟨_, _, next⟩ := calm.closing busy
  rw [todo] at next
  exact other (List.cons.inj next).1

theorem Calm.instructed {runtime after : Logging} (calm : Calm runtime) {instruction : Logging.Instruction}
    {rest : List Logging.Instruction} (todo : runtime.todo = instruction :: rest)
    (different : instruction ≠ .stopLogger) (control : after.logger.control = runtime.logger.control)
    (fewer : .stopLogger ∈ after.todo → .stopLogger ∈ rest) (tries : after.trying = runtime.trying) :
    Calm after := by
  refine ⟨fun busy => ?_, fun trying member => ?_⟩
  · rw [control] at busy
    exact absurd (calm.control_of_head todo different) busy
  · rw [tries] at trying
    apply calm.trying trying
    rw [todo]
    exact List.mem_cons_of_mem _ (fewer member)

theorem stop_closing {session : LoggerService.Session}
    (shut : session.control ≠ .idle → session.service.accepting = false) (busy : session.stop.control ≠ .idle) :
    session.stop.service.accepting = false := by
  unfold LoggerService.Session.stop at busy ⊢
  cases control : session.control with
  | idle =>
    rw [control] at busy
    dsimp only at busy ⊢
    split
    next returns =>
      rw [if_pos returns, control] at busy
      exact absurd rfl busy
    · rfl
  | requesting =>
    have refusing := shut (by rw [control]; exact LoggerService.Control.noConfusion)
    dsimp only
    split <;> exact refusing
  | joining =>
    have refusing := shut (by rw [control]; exact LoggerService.Control.noConfusion)
    dsimp only
    split
    · exact refusing
    · split <;> exact refusing
  | flushing => exact shut (by rw [control]; exact LoggerService.Control.noConfusion)

theorem Calm.next {runtime : Logging} (calm : Calm runtime) : Calm runtime.next := by
  unfold Logging.next
  split
  · exact calm
  next kind rest todo => exact calm.instructed todo Logging.Instruction.noConfusion rfl id rfl
  next rest todo =>
    refine calm.instructed todo Logging.Instruction.noConfusion ?_ id rfl
    simp only [LoggerService.Session.step, LoggerService.Session.start]
    split <;> rfl
  next line rest todo =>
    refine calm.instructed todo Logging.Instruction.noConfusion rfl ?_ rfl
    intro member
    rcases List.mem_cons.mp member with same | later
    · cases same
    · exact later
  next record rest todo =>
    refine calm.instructed todo Logging.Instruction.noConfusion ?_ id rfl
    unfold LoggerManager.enqueue
    split <;> rfl
  next rest todo => exact calm.instructed todo Logging.Instruction.noConfusion rfl id rfl
  next rest todo => exact calm.instructed todo Logging.Instruction.noConfusion rfl id rfl
  next rest todo =>
    split
    · exact calm.instructed todo Logging.Instruction.noConfusion rfl id rfl
    · exact calm
  next rest todo =>
    have trying : runtime.trying = false := by
      by_contra tries
      exact calm.trying (Bool.not_eq_false _ ▸ tries) (todo ▸ List.mem_cons_self)
    refine ⟨fun busy => ⟨stop_closing (fun control => (calm.closing control).1) busy, rest, ?_⟩, fun tries => ?_⟩
    · dsimp only at busy ⊢
      rw [if_neg busy, todo]
    · rw [trying] at tries
      cases tries

theorem Calm.undisturbed {runtime after : Logging} (calm : Calm runtime)
    (control : after.logger.control = runtime.logger.control)
    (accepting : after.logger.service.accepting = runtime.logger.service.accepting)
    (todo : after.todo = runtime.todo) (trying : after.trying = runtime.trying) : Calm after := by
  refine ⟨fun busy => ?_, ?_⟩
  · rw [control] at busy
    rw [accepting, todo]
    exact calm.closing busy
  · rw [trying, todo]
    exact calm.trying

theorem push_frame (session : LoggerService.Session) (call : Nat) :
    (session.push call).control = session.control ∧
      (session.push call).service.accepting = session.service.accepting := by
  unfold LoggerService.Session.push
  split
  · exact ⟨rfl, rfl⟩
  · split <;> exact ⟨rfl, rfl⟩

theorem startProgram_plain (logPath : Text) (report : List Logging.Line) :
    Logging.Instruction.stopLogger ∉ Logging.startProgram logPath report := by
  simp [Logging.startProgram]

theorem Calm.preserved {runtime : Logging} (calm : Calm runtime) (move : Logging.Move) :
    Calm (runtime.step move) := by
  have idle (rested : runtime.todo = []) : runtime.logger.control = .idle := by
    by_contra busy
    obtain ⟨_, rest, next⟩ := calm.closing busy
    rw [rested] at next
    cases next
  cases move with
  | start logPath report =>
    rw [Logging.step]
    split
    · exact calm
    next starts =>
      rw [not_or, not_not] at starts
      exact ⟨fun busy => absurd (idle starts.1) busy, fun _ => startProgram_plain logPath report⟩
  | stop =>
    rw [Logging.step]
    split
    · exact calm
    next stops =>
      rw [not_or, not_not] at stops
      exact ⟨fun busy => absurd (idle stops.1) busy, fun tries => absurd tries Bool.false_ne_true⟩
  | next => exact calm.next
  | throw what =>
    rw [Logging.step, Logging.throw]
    split
    · exact calm
    next trying =>
      rw [Bool.not_eq_true', Bool.not_eq_false] at trying
      have control := calm.control_of_trying trying
      split
      · exact calm
      · exact calm
      · exact ⟨fun busy => absurd control busy, fun tries => absurd tries Bool.false_ne_true⟩
      · exact ⟨fun busy => absurd control busy, fun tries => absurd tries Bool.false_ne_true⟩
  | background line =>
    rw [Logging.step]
    split
    · exact calm
    · exact calm.undisturbed rfl rfl rfl rfl
  | push call =>
    obtain ⟨control, accepting⟩ := push_frame runtime.logger call
    exact calm.undisturbed control accepting rfl rfl
  | work => exact calm.undisturbed rfl (LoggerService.work_cases runtime.logger.service).frame.2 rfl rfl

/-- The steps that lead out: the thread's next instruction, the worker's, or a call of `Log` that is under way. -/
inductive Onward : Logging.Move → Prop where
  | next : Onward .next
  | push (call : Nat) : Onward (.push call)
  | work : Onward .work

/-- A step of `Stop` is the last one, or it gets further; while the worker is awaited, it is only tried. -/
theorem stop_weight {session : LoggerService.Session}
    (free : session.control = .joining → ∀ worker, session.service.worker = some worker →
      worker.point = .finished) :
    session.stop.control = .idle ∧ loggerWeight session.stop ≤ loggerWeight session + 3 ∨
      session.stop.control ≠ .idle ∧ loggerWeight session.stop < loggerWeight session := by
  unfold LoggerService.Session.stop
  split
  next control =>
    split
    · exact Or.inl ⟨control, Nat.le_add_right _ _⟩
    · refine Or.inr ⟨LoggerService.Control.noConfusion, ?_⟩
      simp [loggerWeight, control, controlWeight]
  next control =>
    split
    next absent =>
      refine Or.inr ⟨LoggerService.Control.noConfusion, ?_⟩
      simp [loggerWeight, control, controlWeight]
    next worker found =>
      refine Or.inr ⟨LoggerService.Control.noConfusion, ?_⟩
      simp [loggerWeight, control, controlWeight, found, workerWeight]
  next control =>
    split
    next absent =>
      refine Or.inr ⟨LoggerService.Control.noConfusion, ?_⟩
      simp [loggerWeight, control, controlWeight]
    next worker found =>
      have finished := free control worker found
      rw [if_pos finished]
      refine Or.inr ⟨LoggerService.Control.noConfusion, ?_⟩
      simp [loggerWeight, control, controlWeight, found, workerWeight, finished]
  next control =>
    refine Or.inl ⟨rfl, ?_⟩
    simp [loggerWeight, control, controlWeight]

theorem weight_next_stopLogger {runtime : Logging} {rest : List Logging.Instruction}
    (todo : runtime.todo = .stopLogger :: rest)
    (free : runtime.logger.control = .joining → ∀ worker, runtime.logger.service.worker = some worker →
      worker.point = .finished) : weight runtime.next < weight runtime := by
  have next : runtime.next = { runtime with
      logger := runtime.logger.stop
      todo := if runtime.logger.stop.control = .idle then rest else runtime.todo } := by
    rw [Logging.next, todo]
    rfl
  have before : (runtime.todo.map instructionWeight).sum = 5 + (rest.map instructionWeight).sum := by
    rw [todo]
    rfl
  rw [next]
  unfold weight
  rcases stop_weight free with ⟨ended, bounded⟩ | ⟨goes, lower⟩
  · simp only [if_pos ended]
    omega
  · simp only [if_neg goes]
    omega

theorem weight_work {runtime : Logging} {worker : LoggerService.Worker}
    (found : runtime.logger.service.worker = some worker) (goes : worker.point ≠ .finished)
    (shut : runtime.logger.service.accepting = false) : weight (runtime.step .work) < weight runtime := by
  have lower : loggerWeight { runtime.logger with service := runtime.logger.service.work } <
      loggerWeight runtime.logger := by
    unfold loggerWeight LoggerService.work
    rw [found]
    obtain ⟨stop, point⟩ := worker
    cases point with
    | taking loop =>
      cases queue : runtime.logger.service.queue with
      | cons record later => cases loop <;> simp [workerWeight] <;> omega
      | nil => cases loop <;> simp [workerWeight, shut]
    | dispatching loop record => cases loop <;> simp [workerWeight, LoggerService.dispatch]
    | finished => exact absurd rfl goes
  exact Nat.add_lt_add_left lower _

theorem push_weight {session : LoggerService.Session} {record : LogRecord} {more : List LogRecord}
    (calls : session.logging = record :: more) : loggerWeight (session.push 0) < loggerWeight session := by
  have pushed : session.push 0 =
      if !session.service.accepting then { session with logging := more }
      else { session with
        logging := more
        service.queue := session.service.queue ++ [record]
        pushed := session.pushed ++ [record] } := by
    rw [LoggerService.Session.push, calls]
    rfl
  rw [pushed]
  unfold loggerWeight
  split
  · simp [calls]
  · simp [calls]
    omega

theorem Calm.advances {runtime : Logging} (calm : Calm runtime) (busy : runtime.todo ≠ []) :
    ∃ move, Onward move ∧ weight (runtime.step move) < weight runtime := by
  cases todo : runtime.todo with
  | nil => exact absurd todo busy
  | cons instruction rest =>
    have before : weight runtime = instructionWeight instruction + (rest.map instructionWeight).sum +
        loggerWeight runtime.logger := by
      rw [weight, todo]
      rfl
    cases instruction with
    | addSink kind =>
      refine ⟨.next, .next, ?_⟩
      rw [before]
      simp only [Logging.step, Logging.next, todo, weight, instructionWeight]
      have same : loggerWeight (runtime.logger.step .addSink) = loggerWeight runtime.logger := rfl
      omega
    | startLogger =>
      refine ⟨.next, .next, ?_⟩
      rw [before]
      simp only [Logging.step, Logging.next, todo, weight, instructionWeight]
      have grown : loggerWeight (runtime.logger.step .start) ≤ loggerWeight runtime.logger + 2 := by
        simp only [LoggerService.Session.step, LoggerService.Session.start]
        split
        · omega
        next starts =>
          rw [not_or, Bool.not_eq_true] at starts
          simp [LoggerService.start, starts.2, loggerWeight, workerWeight]
          omega
      omega
    | log line =>
      refine ⟨.next, .next, ?_⟩
      rw [before]
      simp only [Logging.step, Logging.next, todo, weight, instructionWeight, List.map_cons, List.sum_cons]
      have same : loggerWeight (runtime.draw line).2.logger = loggerWeight runtime.logger := rfl
      omega
    | enqueue record =>
      refine ⟨.next, .next, ?_⟩
      rw [before]
      simp only [Logging.step, Logging.next, todo, weight, instructionWeight]
      have grown : loggerWeight (LoggerManager.enqueue runtime.logger record) ≤
          loggerWeight runtime.logger + 3 := by
        unfold LoggerManager.enqueue
        split
        · omega
        · simp [loggerWeight]
          omega
      omega
    | startThreads =>
      refine ⟨.next, .next, ?_⟩
      rw [before]
      simp only [Logging.step, Logging.next, todo, weight, instructionWeight]
      omega
    | clearRunning =>
      refine ⟨.next, .next, ?_⟩
      rw [before]
      simp only [Logging.step, Logging.next, todo, weight, instructionWeight]
      omega
    | stopThreads =>
      cases calls : runtime.logger.logging with
      | nil =>
        refine ⟨.next, .next, ?_⟩
        rw [before]
        simp only [Logging.step, Logging.next, todo, calls, if_true, weight, instructionWeight]
        omega
      | cons record more =>
        -- the executors wait for the calls of `Log` on them
        exact ⟨.push 0, .push 0, Nat.add_lt_add_left (push_weight calls) _⟩
    | stopLogger =>
      by_cases awaited : runtime.logger.control = .joining ∧
          ∃ worker, runtime.logger.service.worker = some worker ∧ worker.point ≠ .finished
      · obtain ⟨joining, worker, found, goes⟩ := awaited
        have shut := (calm.closing (by rw [joining]; exact LoggerService.Control.noConfusion)).1
        exact ⟨.work, .work, weight_work found goes shut⟩
      · refine ⟨.next, .next, weight_next_stopLogger todo fun joining worker found => ?_⟩
        by_contra goes
        exact awaited ⟨joining, worker, found, goes⟩

/-! ## The way out of the library -/

/-- The steps of the bootstrap thread, of its logger's worker and of the calls of `Log` under way. -/
inductive Own (logPath : Text) (report : List Logging.Line) : Move → Prop where
  | advance : Own logPath report (.advance 0 logPath report)
  | push (call : Nat) : Own logPath report (.push 0 call)
  | work : Own logPath report (.work 0)

def Exited (session : DLLBootstrap) : Prop :=
  ∀ thread ∈ session.threads,
    (∃ code, thread.point = .exited code) ∧ thread.runtime.todo = [] ∧ thread.runtime.running = false

def ThreadPoint.distance : ThreadPoint → Nat
  | .created => 7
  | .starting => 6
  | .started => 5
  | .polling => 4
  | .stopping => 3
  | .stopped => 2
  | .failed => 1
  | .exited _ => 0

def Thread.rank (thread : Thread) : Nat ×ₗ Nat := toLex (thread.point.distance, weight thread.runtime)

/-- The thread is to unload, and nothing stands in the way of its runtime. -/
structure Ending (session : DLLBootstrap) (thread : Thread) : Prop where
  alone : session.threads = [thread]
  single : Single session
  asked : session.stopRequested = true
  calm : Calm thread.runtime

theorem calm_preserved (session : DLLBootstrap) (move : Move)
    (calm : ∀ thread ∈ session.threads, Calm thread.runtime) :
    ∀ thread ∈ (step session move).threads, Calm thread.runtime := by
  intro thread member
  rcases runtime_cases member with new | ⟨old, listed, same | ⟨inner, _, stepped⟩⟩
  · rw [new]
    exact ⟨fun busy => absurd rfl busy, nofun⟩
  · rw [same]
    exact calm old listed
  · rw [stepped]
    exact (calm old listed).preserved inner

theorem Thread.approaches {thread : Thread} (calm : Calm thread.runtime)
    (goes : ∀ code, thread.point ≠ .exited code) (logPath : Text) (report : List Logging.Line) :
    (thread.advance true logPath report).rank < thread.rank ∨
      ∃ inner, Onward inner ∧ inner ≠ .next ∧
        ({ thread with runtime := thread.runtime.step inner } : Thread).rank < thread.rank := by
  have inside (busy : thread.runtime.todo ≠ [])
      (waits : thread.advance true logPath report = { thread with runtime := thread.runtime.step .next }) :
      (thread.advance true logPath report).rank < thread.rank ∨
        ∃ inner, Onward inner ∧ inner ≠ .next ∧
          ({ thread with runtime := thread.runtime.step inner } : Thread).rank < thread.rank := by
    obtain ⟨inner, onward, lower⟩ := calm.advances busy
    cases onward with
    | next => exact Or.inl (waits ▸ Prod.Lex.toLex_lt_toLex.mpr (Or.inr ⟨rfl, lower⟩))
    | push call => exact Or.inr ⟨_, .push call, nofun, Prod.Lex.toLex_lt_toLex.mpr (Or.inr ⟨rfl, lower⟩)⟩
    | work => exact Or.inr ⟨_, .work, nofun, Prod.Lex.toLex_lt_toLex.mpr (Or.inr ⟨rfl, lower⟩)⟩
  have nearer (less : (thread.advance true logPath report).point.distance < thread.point.distance) :
      (thread.advance true logPath report).rank < thread.rank := Prod.Lex.toLex_lt_toLex.mpr (Or.inl less)
  cases point : thread.point with
  | created => exact Or.inl (nearer (by simp [Thread.advance, point, ThreadPoint.distance]))
  | starting =>
    by_cases busy : thread.runtime.todo = []
    · refine Or.inl (nearer ?_)
      simp only [Thread.advance, point, busy, ne_eq, not_true_eq_false, if_false]
      split <;> simp [ThreadPoint.distance]
    · have led := inside busy (by simp [Thread.advance, point, busy])
      rwa [point] at led
  | started => exact Or.inl (nearer (by simp [Thread.advance, point, ThreadPoint.distance]))
  | failed => exact Or.inl (nearer (by simp [Thread.advance, point, ThreadPoint.distance]))
  | polling => exact Or.inl (nearer (by simp [Thread.advance, point, ThreadPoint.distance]))
  | stopping =>
    by_cases busy : thread.runtime.todo = []
    · exact Or.inl (nearer (by simp [Thread.advance, point, busy, ThreadPoint.distance]))
    · have led := inside busy (by simp [Thread.advance, point, busy])
      rwa [point] at led
  | stopped => exact Or.inl (nearer (by simp [Thread.advance, point, ThreadPoint.distance]))
  | exited code => exact absurd point (goes code)

theorem step_advance {session : DLLBootstrap} {thread : Thread} (alone : session.threads = [thread])
    (logPath : Text) (report : List Logging.Line) :
    (step session (.advance 0 logPath report)).threads =
        [thread.advance session.stopRequested logPath report] ∧
      (step session (.advance 0 logPath report)).stopRequested = session.stopRequested := by
  rw [step, alone]
  exact ⟨rfl, rfl⟩

theorem within_alone {session : DLLBootstrap} {thread : Thread} (alone : session.threads = [thread])
    (inner : Logging.Move) :
    (session.within 0 inner).threads = [{ thread with runtime := thread.runtime.step inner }] ∧
      (session.within 0 inner).stopRequested = session.stopRequested := by
  rw [within, alone]
  exact ⟨rfl, rfl⟩

def rank (session : DLLBootstrap) : Nat ×ₗ Nat := (session.threads.head?.map Thread.rank).getD (toLex (0, 0))

theorem rank_alone {session : DLLBootstrap} {thread : Thread} (alone : session.threads = [thread]) :
    session.rank = thread.rank := by
  rw [rank, alone]
  rfl

theorem Ending.advances {session : DLLBootstrap} {thread : Thread} (ending : Ending session thread)
    (logPath : Text) (report : List Logging.Line) :
    Exited session ∨ ∃ move, Own logPath report move ∧ (∃ after, Ending (step session move) after) ∧
      (step session move).rank < session.rank := by
  have calm (other : Thread) (member : other ∈ session.threads) : Calm other.runtime := by
    rw [ending.alone] at member
    rw [List.mem_singleton.mp member]
    exact ending.calm
  by_cases done : ∃ code, thread.point = .exited code
  · refine Or.inl fun other member => ?_
    have placed := ending.single.placed other member
    rw [ending.alone] at member
    rw [List.mem_singleton.mp member] at placed ⊢
    refine ⟨done, ?_⟩
    obtain ⟨code, point⟩ := done
    rw [Placed, point] at placed
    exact placed.2
  · have goes (code : UInt32) (point : thread.point = .exited code) : False := done ⟨code, point⟩
    have moved {move : Move} {after : Thread} (own : Own logPath report move)
        (alone : (step session move).threads = [after])
        (asked : (step session move).stopRequested = session.stopRequested) (lower : after.rank < thread.rank) :
        ∃ move, Own logPath report move ∧ (∃ after, Ending (step session move) after) ∧
          (step session move).rank < session.rank := by
      refine ⟨move, own, ⟨after, alone, ending.single.preserved session move, asked.trans ending.asked, ?_⟩, ?_⟩
      · exact calm_preserved session move calm after (alone ▸ List.mem_cons_self)
      · rw [rank_alone alone, rank_alone ending.alone]
        exact lower
    right
    rcases thread.approaches ending.calm goes logPath report with lower | ⟨inner, onward, notNext, lower⟩
    · obtain ⟨alone, asked⟩ := step_advance ending.alone logPath report
      rw [ending.asked] at alone
      exact moved .advance alone asked lower
    · obtain ⟨alone, asked⟩ := within_alone ending.alone inner
      cases onward with
      | next => exact absurd rfl notNext
      | push call => exact moved (.push call) alone asked lower
      | work => exact moved .work alone asked lower

theorem asked_preserved (session : DLLBootstrap) (move : Move)
    (asked : Single session ∧ session.threads ≠ [] ∧ session.stopRequested = true) :
    Single (step session move) ∧ (step session move).threads ≠ [] ∧ (step session move).stopRequested = true := by
  obtain ⟨single, present, asked⟩ := asked
  refine ⟨single.preserved session move, ?_⟩
  have foreign (index : Nat) (inner : Logging.Move) :
      (session.within index inner).threads ≠ [] ∧ (session.within index inner).stopRequested = true := by
    unfold within
    split
    · exact ⟨present, asked⟩
    · exact ⟨by simpa using present, asked⟩
  cases move with
  | attach module =>
    rw [step]
    split <;> exact ⟨present, asked⟩
  | proceed created =>
    rw [step, DLLBootstrap.proceed]
    cases attaching : session.attaching with
    | none => exact ⟨present, asked⟩
    | some point =>
      cases point with
      | entered module =>
        dsimp only
        split <;> exact ⟨present, asked⟩
      | claimed => exact absurd (single.claiming (by rw [attaching]; trivial)) present
      | cleared => exact absurd (single.claiming (by rw [attaching]; trivial)) present
  | requestUnload => exact ⟨present, rfl⟩
  | advance index logPath report =>
    rw [step]
    split
    · exact ⟨present, asked⟩
    · exact ⟨by simpa using present, asked⟩
  | throw index what => exact foreign index _
  | background index line => exact foreign index _
  | push index call => exact foreign index _
  | work index => exact foreign index _

theorem asked_preserved_start {session : DLLBootstrap} (single : Single session) (present : session.threads ≠ []) :
    Single (step session .requestUnload) ∧ (step session .requestUnload).threads ≠ [] ∧
      (step session .requestUnload).stopRequested = true :=
  ⟨single.preserved session .requestUnload, present, rfl⟩

end DevilzDen.DLLBootstrap
