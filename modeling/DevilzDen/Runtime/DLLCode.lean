import DevilzDen.Backend.Threading.ThreadManager
import DevilzDen.Runtime.DLLUnload
import DevilzDen.Runtime.RuntimeCode

/-! The library in the game's process: the bootstrap thread, its runtime's log and executors, and the game's code.

The runtime of the thread is seen three times, as its logger sees it, as the code
does and by its executors. These are there before the phases of `Start` and are
stopped behind those of `Stop`. A call of either ends when its instructions and
its phases are through, and an exception ends both. What the tasks on the
executors log is among the calls of `Log` in the background.
-/

set_option autoImplicit false

namespace DevilzDen.DLLBootstrap

open Backend Foundation RuntimeManager Integrations.GTA5Enhanced
open GTARunScriptThreadsBridge (Protection patch verifiedPrologue)

/-- Whether an exception comes in the `try` block of `Start`. -/
def throws (runtime : Logging) : Bool :=
  runtime.trying &&
    match runtime.todo with
    | [] | .enqueue _ :: _ => false
    | _ => true

/-- What a start of the runtime meets: besides what its phases do, the path of the log
file, what the detection reports, and the number of hardware threads. -/
structure Environment where
  logPath : Text
  report : List Logging.Line
  startup : Startup
  hardware : Nat

/-- A task on an executor is the line that it logs. -/
structure Process where
  library : DLLBootstrap := {}
  executors : ThreadManager.Session Logging.Line := {}
  code : RuntimeManager.Session

namespace Process

inductive Move where
  | attach (module : Address)
  | proceed (created : Bool)
  | requestUnload
  | advance (environment : Environment)
  | phase (protection : Protection)
  | throw (what : Option Text) (fault : Fault) (protection : Protection)
  | background (line : Logging.Line)
  | push (call : Nat)
  | work
  | submit (place : ThreadManager.Place) (task : Option Logging.Line)
  | enqueue (place : ThreadManager.Place) (call : Nat)
  | execute (place : ThreadManager.Place) (index : Nat)
  | game (address : Address) (bytes : List UInt8)
  | enter
  | count
  | leave
  | smoke (write : ContextWrite)

def threadingLine (message : Text) : Logging.Line := ⟨.debug, message, text "Threading"⟩

/-- The executors' `Start`, with the two tasks that are submitted at once. -/
def startThreads (executors : ThreadManager.Session Logging.Line) (hardware : Nat) :
    ThreadManager.Session Logging.Line :=
  run ThreadManager.Session.step executors
    [.start hardware,
      .submit .workers (some (threadingLine (text "Worker executor is operational"))), .enqueue .workers 0,
      .submit .io (some (threadingLine (text "IO executor is operational"))), .enqueue .io 0]

def advanced (process : Process) (environment : Environment) : Process :=
  { process with library := process.library.step (.advance 0 environment.logPath environment.report) }

/-- The next instruction of `Start` or `Stop`, or the return from it. -/
def instruct (process : Process) (environment : Environment) (todo : List Logging.Instruction) : Process :=
  match todo with
  | [] => if process.code.point = .idle then process.advanced environment else process
  | .startThreads :: _ =>
      { process.advanced environment with executors := startThreads process.executors environment.hardware }
  | .stopThreads :: _ =>
      -- the hook is gone and the natives are reset before the executors are stopped
      if process.code.point ≠ .idle then process
      else if ThreadManager.Stopped process.executors then process.advanced environment
      else { process with executors := process.executors.stop }
  | _ :: _ => process.advanced environment

def advance (process : Process) (environment : Environment) : Process :=
  match process.library.threads with
  | [] => process
  | thread :: _ =>
      match thread.point with
      | .created => { process.advanced environment with code := process.code.step (.start environment.startup) }
      | .starting | .stopping => process.instruct environment thread.runtime.todo
      | .polling =>
          if process.library.stopRequested then
            { process.advanced environment with code := process.code.step .stop }
          else process.advanced environment
      | .started | .failed | .stopped | .exited _ => process.advanced environment

/-- Whether the instructions have come to the phase that is next. -/
def Due (todo : List Logging.Instruction) : Point → Prop
  | .idle => False
  | .refreshing _ | .initializing _ _ | .bridging _ _ => .startThreads ∉ todo
  | .completing => todo = []
  | .uninstalling | .awaiting | .releasing | .resetting => todo.head? = some .stopThreads

instance decidableDue (todo : List Logging.Instruction) : DecidablePred (Due todo)
  | .idle => isFalse id
  | .refreshing _ | .initializing _ _ | .bridging _ _ => inferInstanceAs (Decidable (_ ∉ todo))
  | .completing => inferInstanceAs (Decidable (todo = []))
  | .uninstalling | .awaiting | .releasing | .resetting =>
      inferInstanceAs (Decidable (todo.head? = some .stopThreads))

def phase (process : Process) (protection : Protection) : Process :=
  match process.library.threads with
  | [] => process
  | thread :: _ =>
      if (thread.point = .starting ∨ thread.point = .stopping) ∧ Due thread.runtime.todo process.code.point then
        { process with code := process.code.step (.proceed none protection) }
      else process

def throw (process : Process) (what : Option Text) (fault : Fault) (protection : Protection) : Process :=
  match process.library.threads with
  | [] => process
  | thread :: _ =>
      if thread.point = .starting ∧ throws thread.runtime = true then
        -- no phase has begun before the executors are there
        let fault := if .startThreads ∈ thread.runtime.todo then .before else fault
        { process with
          library := process.library.step (.throw 0 what)
          code := process.code.step (.proceed (some fault) protection) }
      else process

def step (process : Process) : Move → Process
  | .attach module => { process with library := process.library.step (.attach module) }
  | .proceed created => { process with library := process.library.step (.proceed created) }
  | .requestUnload => { process with library := process.library.step .requestUnload }
  | .advance environment => process.advance environment
  | .phase protection => process.phase protection
  | .throw what fault protection => process.throw what fault protection
  | .background line => { process with library := process.library.step (.background 0 line) }
  | .push call => { process with library := process.library.step (.push 0 call) }
  | .work => { process with library := process.library.step (.work 0) }
  | .submit place task => { process with executors := process.executors.step (.submit place task) }
  | .enqueue place call => { process with executors := process.executors.step (.enqueue place call) }
  | .execute place index => { process with executors := process.executors.step (.work place index) }
  | .game address bytes => { process with code := process.code.step (.game address bytes) }
  | .enter => { process with code := process.code.step .enter }
  | .count => { process with code := process.code.step .count }
  | .leave => { process with code := process.code.step .leave }
  | .smoke write => { process with code := process.code.step (.smoke write) }

/-- The instructions that wait for more than their turn. -/
def Awaits (todo : List Logging.Instruction) : Prop := todo = [] ∨ todo.head? = some .stopThreads

inductive Instructed (process : Process) (environment : Environment) (todo : List Logging.Instruction) :
    Process → Prop where
  | waiting (awaits : Awaits todo) (busy : process.code.point ≠ .idle) : Instructed process environment todo process
  | joining (next : todo.head? = some .stopThreads) (idle : process.code.point = .idle)
      (there : ¬ThreadManager.Stopped process.executors) :
      Instructed process environment todo { process with executors := process.executors.stop }
  | starting (next : todo.head? = some .startThreads) :
      Instructed process environment todo
        { process.advanced environment with executors := startThreads process.executors environment.hardware }
  | advanced (other : todo.head? ≠ some .startThreads) (idle : Awaits todo → process.code.point = .idle)
      (joined : todo.head? = some .stopThreads → ThreadManager.Stopped process.executors) :
      Instructed process environment todo (process.advanced environment)

theorem instruct_cases (process : Process) (environment : Environment) (todo : List Logging.Instruction) :
    Instructed process environment todo (process.instruct environment todo) := by
  unfold instruct
  split
  · split
    next idle => exact .advanced nofun (fun _ => idle) nofun
    next busy => exact .waiting (Or.inl rfl) busy
  · exact .starting rfl
  · split
    next busy => exact .waiting (Or.inr rfl) busy
    next idle =>
      rw [not_not] at idle
      split
      next joined => exact .advanced nofun (fun _ => idle) fun _ => joined
      next there => exact .joining rfl idle there
  next instruction rest starts stops =>
    have other : (instruction :: rest).head? ≠ some .startThreads := fun same => starts (Option.some.inj same)
    have elsewhere : (instruction :: rest).head? ≠ some .stopThreads := fun same => stops (Option.some.inj same)
    refine .advanced other (fun awaits => ?_) fun next => absurd next elsewhere
    rcases awaits with none | next
    · cases none
    · exact absurd next elsewhere

theorem instruct_code (process : Process) (environment : Environment) (todo : List Logging.Instruction) :
    (process.instruct environment todo).code = process.code := by
  have cases := instruct_cases process environment todo
  generalize process.instruct environment todo = after at cases
  cases cases <;> rfl

end Process

/-! ## The phases of the runtime -/

def Down (code : RuntimeManager.Session) : Prop := code.manager.running = false ∧ ¬code.point.Starting

theorem beginStop_down {code : RuntimeManager.Session} (running : code.manager.running = true) :
    Down code.beginStop := by
  rw [Session.beginStop, if_pos running]
  exact ⟨rfl, id⟩

theorem proceed_starting {code : RuntimeManager.Session} (starting : code.point.Starting) (protection : Protection) :
    (code.proceed none protection).manager.running = code.manager.running ∧
      ((code.proceed none protection).point.Starting ∨
        code.point = .completing ∧ (code.proceed none protection).point = .idle) := by
  unfold Session.proceed
  cases point : code.point with
  | refreshing startup =>
    refine ⟨rfl, Or.inl ?_⟩
    simp only [Session.attempt, Session.refresh]
    split <;> trivial
  | initializing startup status =>
    refine ⟨?_, Or.inl trivial⟩
    have frame := (Session.initializeNativeManager_frame code.manager { startup with memory := code.memory } status).2
    simp only [Session.attempt, Session.initialized]
    rw [frame]
  | bridging startup status =>
    exact ⟨(Session.bridged_host code startup status).1, Or.inl trivial⟩
  | completing => exact ⟨rfl, Or.inr ⟨rfl, rfl⟩⟩
  | idle | uninstalling | awaiting | releasing | resetting =>
    rw [point] at starting
    exact starting.elim

theorem proceed_throws {code : RuntimeManager.Session} (starting : code.point.Starting) (protection : Protection) :
    code.proceed (some .before) protection = code.beginStop ∧
      code.proceed (some .behind) protection = (code.proceed none protection).beginStop := by
  unfold Session.proceed
  cases point : code.point with
  | refreshing | initializing | bridging | completing => exact ⟨rfl, rfl⟩
  | idle | uninstalling | awaiting | releasing | resetting =>
    rw [point] at starting
    exact starting.elim

theorem proceed_fault {code : RuntimeManager.Session} (starting : code.point.Starting)
    (running : code.manager.running = true) (fault : Fault) (protection : Protection) :
    Down (code.proceed (some fault) protection) := by
  obtain ⟨before, behind⟩ := proceed_throws starting protection
  cases fault with
  | before =>
    rw [before]
    exact beginStop_down running
  | behind =>
    rw [behind]
    exact beginStop_down ((proceed_starting starting protection).1.trans running)

theorem Down.proceed {code : RuntimeManager.Session} (down : Down code) (protection : Protection) :
    Down (code.proceed none protection) := by
  obtain ⟨running, rest⟩ := down
  unfold Session.proceed
  cases point : code.point with
  | idle => exact ⟨running, fun starting => rest (point ▸ starting)⟩
  | uninstalling =>
    refine ⟨?_, (Session.stops_of_unhooked (Session.unhooked_point code protection)).1⟩
    dsimp only
    unfold Session.unhooked
    dsimp only
    split <;> exact running
  | awaiting =>
    dsimp only
    split
    · exact ⟨running, fun starting => rest starting⟩
    · exact ⟨running, id⟩
  | releasing => exact ⟨running, id⟩
  | resetting => exact ⟨running, id⟩
  | refreshing | initializing | bridging | completing =>
    rw [point] at rest
    exact absurd trivial rest

/-! ## What the thread knows of the code and of its executors -/

/-- `Stop` is under way: the hook goes before the executors do, and these before the rest. -/
structure Falling (todo : List Logging.Instruction) (process : Process) : Prop where
  down : Down process.code
  hooked : process.code.point ≠ .idle → .stopThreads ∈ todo
  joined : .stopThreads ∉ todo → ThreadManager.Stopped process.executors
  started : .startThreads ∉ todo

/-- The call of `Start` as all see it: under way or through, or caught and on its way down. -/
inductive Launch (runtime : Logging) (process : Process) : Prop where
  | trying (block : runtime.trying = true) (running : runtime.running = true)
      (kept : .clearRunning ∉ runtime.todo) (stays : .stopThreads ∉ runtime.todo)
      (up : process.code.manager.running = true)
      (phase : process.code.point.Starting ∨ process.code.point = .idle ∧ runtime.todo = [])
  | failing (block : runtime.trying = false) (clears : runtime.running = true → .clearRunning ∈ runtime.todo)
      (falling : Falling runtime.todo process)

/-- The code and the executors at each point of the thread. -/
def Matched (thread : Thread) (process : Process) : Prop :=
  match thread.point with
  | .created => Session.Stopped process.code ∧ Session.Untouched process.code
  | .starting => Launch thread.runtime process
  | .started | .polling => process.code.manager.running = true ∧ process.code.point = .idle
  | .stopping => Falling thread.runtime.todo process
  | .failed | .stopped | .exited _ => Session.Stopped process.code ∧ ThreadManager.Stopped process.executors

structure Aside (process after : Process) : Prop where
  running : after.code.manager.running = process.code.manager.running
  point : after.code.point = process.code.point
  untouched : Session.Untouched process.code → Session.Untouched after.code
  stopped : ThreadManager.Stopped process.executors → ThreadManager.Stopped after.executors

theorem Aside.sessionStopped {process after : Process} (aside : Aside process after)
    (stopped : Session.Stopped process.code) : Session.Stopped after.code :=
  ⟨aside.running.trans stopped.1, aside.point.trans stopped.2⟩

theorem Falling.aside {todo : List Logging.Instruction} {process after : Process} (falling : Falling todo process)
    (aside : Aside process after) : Falling todo after := by
  obtain ⟨⟨down, rest⟩, hooked, joined, started⟩ := falling
  refine ⟨⟨aside.running.trans down, ?_⟩, ?_, fun passed => aside.stopped (joined passed), started⟩
  · rwa [aside.point]
  · rwa [aside.point]

theorem Launch.aside {runtime after : Logging} {process next : Process} (launch : Launch runtime process)
    (aside : Aside process next) (trying : after.trying = runtime.trying)
    (running : after.running = runtime.running) (todo : after.todo = runtime.todo) : Launch after next := by
  cases launch with
  | trying block up kept stays code phase =>
    refine .trying (trying.trans block) (running.trans up) (todo ▸ kept) (todo ▸ stays) (aside.running.trans code) ?_
    rw [aside.point, todo]
    exact phase
  | failing block clears falling =>
    exact .failing (trying.trans block) (running ▸ todo ▸ clears) (todo ▸ falling.aside aside)

theorem Matched.aside {thread : Thread} {process after : Process} (matched : Matched thread process)
    (aside : Aside process after) : Matched thread after := by
  unfold Matched at matched ⊢
  cases point : thread.point <;> rw [point] at matched <;> dsimp only at matched ⊢
  case created => exact ⟨aside.sessionStopped matched.1, aside.untouched matched.2⟩
  case starting => exact matched.aside aside rfl rfl rfl
  case stopping => exact Falling.aside matched aside
  case started => exact ⟨aside.running.trans matched.1, aside.point.trans matched.2⟩
  case polling => exact ⟨aside.running.trans matched.1, aside.point.trans matched.2⟩
  all_goals exact ⟨aside.sessionStopped matched.1, aside.stopped matched.2⟩

def Fixed : Logging.Instruction → Prop
  | .enqueue _ => False
  | .addSink _ | .startLogger | .log _ | .startThreads | .clearRunning | .stopThreads | .stopLogger => True

theorem next_todo (runtime : Logging) (instruction : Logging.Instruction) (fixed : Fixed instruction) :
    (instruction ∈ runtime.next.todo → instruction ∈ runtime.todo) ∧
      (instruction ∈ runtime.todo → instruction ∈ runtime.next.todo ∨ runtime.todo.head? = some instruction) := by
  have dropped {first : Logging.Instruction} {rest : List Logging.Instruction} (todo : runtime.todo = first :: rest)
      (next : runtime.next.todo = rest) : (instruction ∈ runtime.next.todo → instruction ∈ runtime.todo) ∧
        (instruction ∈ runtime.todo → instruction ∈ runtime.next.todo ∨ runtime.todo.head? = some instruction) := by
    rw [todo, next]
    refine ⟨List.mem_cons_of_mem _, fun member => ?_⟩
    rcases List.mem_cons.mp member with same | later
    · exact Or.inr (congrArg some same.symm)
    · exact Or.inl later
  have kept (next : runtime.next.todo = runtime.todo) :
      (instruction ∈ runtime.next.todo → instruction ∈ runtime.todo) ∧
        (instruction ∈ runtime.todo → instruction ∈ runtime.next.todo ∨ runtime.todo.head? = some instruction) := by
    rw [next]
    exact ⟨id, Or.inl⟩
  cases todo : runtime.todo with
  | nil =>
    rw [← todo]
    exact kept (by simp [Logging.next, todo])
  | cons first rest =>
    rw [← todo]
    cases first with
    | addSink | startLogger | enqueue | startThreads | clearRunning => exact dropped todo (by simp [Logging.next, todo])
    | log line =>
      have next : runtime.next.todo = .enqueue (runtime.draw line).1 :: rest := by simp [Logging.next, todo]
      rw [next, todo]
      have other : instruction ≠ .enqueue (runtime.draw line).1 := by
        rintro rfl
        exact fixed
      refine ⟨fun member => ?_, fun member => ?_⟩
      · rcases List.mem_cons.mp member with same | later
        · exact absurd same other
        · exact List.mem_cons_of_mem _ later
      · rcases List.mem_cons.mp member with same | later
        · exact Or.inr (congrArg some same.symm)
        · exact Or.inl (List.mem_cons_of_mem _ later)
    | stopThreads =>
      by_cases quiet : runtime.logger.logging = []
      · exact dropped todo (by simp [Logging.next, todo, quiet])
      · exact kept (by simp [Logging.next, todo, quiet])
    | stopLogger =>
      by_cases idle : (runtime.logger.step .stop).control = .idle
      · exact dropped todo (by simp [Logging.next, todo, idle])
      · exact kept (by simp [Logging.next, todo, idle])

theorem next_flags (runtime : Logging) :
    runtime.next.trying = runtime.trying ∧
      (runtime.todo.head? ≠ some .clearRunning → runtime.next.running = runtime.running) ∧
      (runtime.todo.head? = some .clearRunning → runtime.next.running = false) := by
  unfold Logging.next
  cases todo : runtime.todo with
  | nil => simp
  | cons instruction rest =>
    cases instruction with
    | addSink | startLogger | enqueue | startThreads | clearRunning => simp
    | log line => simp [Logging.draw]
    | stopThreads =>
      dsimp only
      split <;> simp
    | stopLogger => simp

/-- The instruction that stops the executors is done when the code is the game's again, and they are gone. -/
theorem Falling.next {runtime : Logging} {process : Process} (falling : Falling runtime.todo process)
    (idle : runtime.todo.head? = some .stopThreads → process.code.point = .idle)
    (joined : runtime.todo.head? = some .stopThreads → ThreadManager.Stopped process.executors) :
    Falling runtime.next.todo process := by
  have onward := (next_todo runtime .stopThreads trivial).2
  refine ⟨falling.down, fun busy => ?_, fun passed => ?_, fun member => ?_⟩
  · rcases onward (falling.hooked busy) with later | next
    · exact later
    · exact absurd (idle next) busy
  · by_cases member : .stopThreads ∈ runtime.todo
    · exact joined ((onward member).resolve_left passed)
    · exact falling.joined member
  · exact falling.started ((next_todo runtime .startThreads trivial).1 member)

theorem Launch.next {runtime : Logging} {process : Process} (launch : Launch runtime process)
    (busy : runtime.todo ≠ []) (idle : runtime.todo.head? = some .stopThreads → process.code.point = .idle)
    (joined : runtime.todo.head? = some .stopThreads → ThreadManager.Stopped process.executors) :
    Launch runtime.next process := by
  obtain ⟨same, unchanged, cleared⟩ := next_flags runtime
  cases launch with
  | trying block running kept stays up phase =>
    have keeps : runtime.todo.head? ≠ some .clearRunning := fun next => kept (List.mem_of_head? next)
    have inside : process.code.point.Starting := phase.resolve_right fun ended => busy ended.2
    exact .trying (same.trans block) ((unchanged keeps).trans running)
      (kept ∘ (next_todo runtime .clearRunning trivial).1) (stays ∘ (next_todo runtime .stopThreads trivial).1) up
      (Or.inl inside)
  | failing block clears falling =>
    refine .failing (same.trans block) (fun running => ?_) (falling.next idle joined)
    by_cases next : runtime.todo.head? = some .clearRunning
    · exact absurd (running.symm.trans (cleared next)) Bool.noConfusion
    · rw [unchanged next] at running
      exact ((next_todo runtime .clearRunning trivial).2 (clears running)).resolve_right next

theorem Falling.phase {todo : List Logging.Instruction} {process : Process} (falling : Falling todo process)
    (due : Process.Due todo process.code.point) (protection : Protection) :
    Falling todo { process with code := process.code.proceed none protection } := by
  have busy : process.code.point ≠ .idle := by
    intro idle
    rw [idle] at due
    exact due
  exact ⟨falling.down.proceed protection, fun _ => falling.hooked busy, falling.joined, falling.started⟩

theorem Launch.phase {runtime : Logging} {process : Process} (launch : Launch runtime process)
    (due : Process.Due runtime.todo process.code.point) (protection : Protection) :
    Launch runtime { process with code := process.code.proceed none protection } := by
  cases launch with
  | trying block running kept stays up phase =>
    rcases phase with inside | ⟨idle, _⟩
    · obtain ⟨same, starting | ⟨completing, idle⟩⟩ := proceed_starting inside protection
      · exact .trying block running kept stays (same.trans up) (Or.inl starting)
      · rw [completing] at due
        exact .trying block running kept stays (same.trans up) (Or.inr ⟨idle, due⟩)
    · rw [idle] at due
      exact due.elim
  | failing block clears falling => exact .failing block clears (falling.phase due protection)

theorem Launch.throw {runtime : Logging} {process : Process} (launch : Launch runtime process)
    (thrown : throws runtime = true) (what : Option Text) (fault : Fault) (protection : Protection)
    (library : DLLBootstrap) :
    Launch (runtime.step (.throw what))
      { process with library, code := process.code.proceed (some fault) protection } := by
  rw [throws, Bool.and_eq_true] at thrown
  obtain ⟨block, midway⟩ := thrown
  cases launch with
  | failing out => exact absurd (block.symm.trans out) Bool.noConfusion
  | trying _ running kept stays up phase =>
    have busy : runtime.todo ≠ [] := by
      intro done
      rw [done] at midway
      exact absurd midway Bool.false_ne_true
    have down := proceed_fault (phase.resolve_right fun ended => busy ended.2) up fault protection
    have caught : (runtime.step (.throw what)).trying = false ∧
        (runtime.step (.throw what)).todo = Logging.handler what := by
      cases todo : runtime.todo with
      | nil => exact absurd todo busy
      | cons instruction rest =>
        rw [todo] at midway
        cases instruction with
        | enqueue record => exact absurd midway Bool.false_ne_true
        | addSink | startLogger | log | startThreads | clearRunning | stopThreads | stopLogger =>
          simp [Logging.step, Logging.throw, block, todo]
    have stops : .stopThreads ∈ Logging.handler what := by simp [Logging.handler, Logging.stopProgram]
    have falling : Falling (Logging.handler what)
        { process with library, code := process.code.proceed (some fault) protection } :=
      ⟨down, fun _ => stops, fun passed => absurd stops passed, by simp [Logging.handler, Logging.stopProgram]⟩
    refine .failing caught.1 (fun _ => ?_) (caught.2 ▸ falling)
    rw [caught.2]
    simp [Logging.handler]

theorem Single.alone {session : DLLBootstrap} (single : Single session) {thread : Thread} {rest : List Thread}
    (threads : session.threads = thread :: rest) : session.threads = [thread] := by
  have one := single.single
  rw [threads] at one ⊢
  rw [List.eq_nil_of_length_eq_zero (Nat.le_zero.mp (Nat.le_of_succ_le_succ one))]

/-- The library, its executors and its code go together. -/
structure Coupled (process : Process) : Prop where
  single : Single process.library
  sound : ThreadManager.Sound process.executors
  calls : Session.Calls process.code
  quiet : process.library.threads = [] → Session.Stopped process.code ∧ Session.Untouched process.code
  matched : ∀ thread ∈ process.library.threads, Matched thread process

theorem Coupled.of_alone {process : Process} {thread : Thread} (single : Single process.library)
    (sound : ThreadManager.Sound process.executors) (calls : Session.Calls process.code)
    (alone : process.library.threads = [thread]) (matched : Matched thread process) : Coupled process := by
  refine ⟨single, sound, calls, fun none => ?_, fun other member => ?_⟩
  · rw [alone] at none
    cases none
  · rw [alone] at member
    rw [List.mem_singleton.mp member]
    exact matched

theorem Coupled.aside {process after : Process} (coupled : Coupled process) (library : after.library = process.library)
    (sound : ThreadManager.Sound after.executors) (calls : Session.Calls after.code) (aside : Aside process after) :
    Coupled after := by
  refine ⟨library ▸ coupled.single, sound, calls, fun none => ?_, fun thread member => ?_⟩
  · rw [library] at none
    obtain ⟨stopped, untouched⟩ := coupled.quiet none
    exact ⟨aside.sessionStopped stopped, aside.untouched untouched⟩
  · rw [library] at member
    exact (coupled.matched thread member).aside aside

theorem Coupled.within {process : Process} (coupled : Coupled process) {inner : Logging.Move}
    (foreign : Foreign inner)
    (frame : ∀ runtime : Logging, (runtime.step inner).trying = runtime.trying ∧
      (runtime.step inner).running = runtime.running ∧ (runtime.step inner).todo = runtime.todo) :
    Coupled { process with library := process.library.within 0 inner } := by
  cases threads : process.library.threads with
  | nil =>
    have same : process.library.within 0 inner = process.library := by rw [DLLBootstrap.within, threads]; rfl
    rw [same]
    exact coupled
  | cons thread rest =>
    have alone := coupled.single.alone threads
    refine .of_alone (coupled.single.within 0 foreign) coupled.sound coupled.calls (within_alone alone inner).1 ?_
    have aside : Aside process { process with library := process.library.within 0 inner } := ⟨rfl, rfl, id, id⟩
    have matched := (coupled.matched thread (threads ▸ List.mem_cons_self)).aside aside
    obtain ⟨trying, running, todo⟩ := frame thread.runtime
    unfold Matched at matched ⊢
    dsimp only
    cases point : thread.point <;> rw [point] at matched <;> dsimp only at matched ⊢
    case starting => exact matched.aside ⟨rfl, rfl, id, id⟩ trying running todo
    case stopping => exact todo ▸ matched
    all_goals exact matched

theorem startThreads_sound {executors : ThreadManager.Session Logging.Line} (sound : ThreadManager.Sound executors)
    (hardware : Nat) : ThreadManager.Sound (Process.startThreads executors hardware) :=
  run_invariant ThreadManager.Sound.preserved sound _

theorem Coupled.instruct {process : Process} (coupled : Coupled process) (environment : Environment) {thread : Thread}
    (alone : process.library.threads = [thread]) (inside : thread.point = .starting ∨ thread.point = .stopping) :
    Coupled (process.instruct environment thread.runtime.todo) := by
  have matched := coupled.matched thread (by rw [alone]; exact List.mem_cons_self)
  have single := coupled.single.preserved process.library (.advance 0 environment.logPath environment.report)
  have moved := (step_advance alone environment.logPath environment.report).1
  have cases := Process.instruct_cases process environment thread.runtime.todo
  generalize process.instruct environment thread.runtime.todo = after at cases
  unfold Matched at matched
  cases cases with
  | waiting => exact coupled
  | joining next idle there =>
    have member : .stopThreads ∈ thread.runtime.todo := List.mem_of_head? next
    refine .of_alone coupled.single coupled.sound.stop coupled.calls alone ?_
    rcases inside with point | point
    · rw [point] at matched
      simp only [Matched, point]
      cases matched with
      | trying _ _ _ stays => exact absurd member stays
      | failing block clears falling =>
        exact .failing block clears ⟨falling.down, falling.hooked, fun passed => absurd member passed, falling.started⟩
    · rw [point] at matched
      simp only [Matched, point]
      exact ⟨matched.down, matched.hooked, fun passed => absurd member passed, matched.started⟩
  | starting next =>
    have member : .startThreads ∈ thread.runtime.todo := List.mem_of_head? next
    refine .of_alone single (startThreads_sound coupled.sound environment.hardware) coupled.calls moved ?_
    have busy : thread.runtime.todo ≠ [] := List.ne_nil_of_mem member
    have other : thread.runtime.todo.head? ≠ some .stopThreads := by
      rw [next]
      simp
    rcases inside with point | point
    · rw [point] at matched
      simp only [Thread.advance, point, busy, ne_eq, not_false_eq_true, if_true, Matched]
      have launch := matched.next busy (fun next => absurd next other) fun next => absurd next other
      cases launch with
      | trying block running kept stays up phase => exact .trying block running kept stays up phase
      | failing out =>
        cases matched with
        | trying block =>
          have kept := (next_flags thread.runtime).1.trans block
          exact absurd (kept.symm.trans out) Bool.noConfusion
        | failing _ _ falling => exact absurd member falling.started
    · rw [point] at matched
      exact absurd member matched.started
  | advanced other idle joined =>
    refine .of_alone single coupled.sound coupled.calls moved ?_
    by_cases done : thread.runtime.todo = []
    · have rested := idle (Or.inl done)
      rcases inside with point | point
      · rw [point] at matched
        simp only [Thread.advance, point, done, ne_eq, not_true_eq_false, if_false]
        cases matched with
        | trying _ running _ _ up _ =>
          rw [if_pos running]
          exact ⟨up, rested⟩
        | failing _ clears falling =>
          rw [done] at clears falling
          have stopped : thread.runtime.running ≠ true := fun running => List.not_mem_nil (clears running)
          rw [if_neg stopped]
          exact ⟨⟨falling.down.1, rested⟩, falling.joined List.not_mem_nil⟩
      · rw [point, done] at matched
        simp only [Thread.advance, point, done, ne_eq, not_true_eq_false, if_false]
        exact ⟨⟨matched.down.1, rested⟩, matched.joined List.not_mem_nil⟩
    · have ready (next : thread.runtime.todo.head? = some .stopThreads) : process.code.point = .idle :=
        idle (Or.inr next)
      rcases inside with point | point
      · rw [point] at matched
        simp only [Thread.advance, point, done, ne_eq, not_false_eq_true, if_true, Matched]
        exact (matched.next done ready joined).aside ⟨rfl, rfl, id, id⟩ rfl rfl rfl
      · rw [point] at matched
        simp only [Thread.advance, point, done, ne_eq, not_false_eq_true, if_true, Matched]
        exact (matched.next ready joined).aside ⟨rfl, rfl, id, id⟩

theorem Coupled.advance {process : Process} (coupled : Coupled process) (environment : Environment) :
    Coupled (process.advance environment) := by
  unfold Process.advance
  cases threads : process.library.threads with
  | nil => exact coupled
  | cons thread rest =>
    have alone := coupled.single.alone threads
    have single := coupled.single.preserved process.library (.advance 0 environment.logPath environment.report)
    have moved := (step_advance alone environment.logPath environment.report).1
    have matched := coupled.matched thread (threads ▸ List.mem_cons_self)
    have placed := coupled.single.placed thread (threads ▸ List.mem_cons_self)
    unfold Matched at matched
    unfold Placed at placed
    -- where the code stays as it is
    have steps (after : Matched (thread.advance process.library.stopRequested environment.logPath environment.report)
        (process.advanced environment)) : Coupled (process.advanced environment) :=
      .of_alone single coupled.sound coupled.calls moved after
    dsimp only
    cases point : thread.point with
    | created =>
      rw [point] at matched placed
      dsimp only at matched placed
      obtain ⟨stopped, untouched⟩ := matched
      have calls : Session.Calls (process.code.step (.start environment.startup)) :=
        coupled.calls.preserved fun _ => untouched
      refine .of_alone single coupled.sound calls moved ?_
      simp only [Thread.advance, point, placed, Matched, Logging.step, Session.step, stopped.2, Session.beginStart,
        stopped.1]
      exact .trying rfl rfl (by simp [Logging.startProgram]) (by simp [Logging.startProgram]) rfl (Or.inl trivial)
    | starting => exact coupled.instruct environment alone (Or.inl point)
    | stopping => exact coupled.instruct environment alone (Or.inr point)
    | polling =>
      rw [point] at matched
      dsimp only
      split
      next asked =>
        have calls : Session.Calls (process.code.step .stop) := coupled.calls.preserved False.elim
        refine .of_alone single coupled.sound calls moved ?_
        rw [point] at placed
        have stops : (thread.runtime.step .stop).todo = Logging.stopProgram := by
          simp [Logging.step, placed.2.1, placed.2.2]
        simp only [Thread.advance, point, asked, if_true, Matched, Session.step, matched.2, stops]
        have member : Logging.Instruction.stopThreads ∈ Logging.stopProgram := by simp [Logging.stopProgram]
        exact ⟨beginStop_down matched.1, fun _ => member, fun passed => absurd member passed,
          by simp [Logging.stopProgram]⟩
      next waits =>
        apply steps
        simp only [Thread.advance, point, waits, if_false, Bool.false_eq_true, Matched]
        exact matched
    | started | failed | stopped | exited =>
      rw [point] at matched
      apply steps
      simp only [Thread.advance, point, Matched]
      exact matched

theorem Coupled.phase {process : Process} (coupled : Coupled process) (protection : Protection) :
    Coupled (process.phase protection) := by
  unfold Process.phase
  cases threads : process.library.threads with
  | nil => exact coupled
  | cons thread rest =>
    have alone := coupled.single.alone threads
    have matched := coupled.matched thread (threads ▸ List.mem_cons_self)
    have calls : Session.Calls (process.code.step (.proceed none protection)) := coupled.calls.preserved False.elim
    dsimp only
    split
    next proceeds =>
      obtain ⟨inside, due⟩ := proceeds
      refine .of_alone coupled.single coupled.sound calls alone ?_
      unfold Matched at matched ⊢
      rcases inside with point | point
      · rw [point] at matched ⊢
        exact matched.phase due protection
      · rw [point] at matched ⊢
        exact matched.phase due protection
    · exact coupled

theorem Coupled.throw {process : Process} (coupled : Coupled process) (what : Option Text) (fault : Fault)
    (protection : Protection) : Coupled (process.throw what fault protection) := by
  unfold Process.throw
  cases threads : process.library.threads with
  | nil => exact coupled
  | cons thread rest =>
    have alone := coupled.single.alone threads
    have matched := coupled.matched thread (threads ▸ List.mem_cons_self)
    dsimp only
    split
    next thrown =>
      rw [Matched, thrown.1] at matched
      have calls (fault : Fault) : Session.Calls (process.code.step (.proceed (some fault) protection)) :=
        coupled.calls.preserved False.elim
      refine .of_alone (coupled.single.within 0 (.throw what)) coupled.sound (calls _)
        (within_alone alone (.throw what)).1 ?_
      simp only [Matched, thrown.1]
      exact matched.throw thrown.2 what _ protection _
    · exact coupled

theorem proceed_threads (session : DLLBootstrap) (created : Bool) :
    (session.proceed created).threads = session.threads ∨
      session.attaching = some .cleared ∧ (session.proceed created).threads = session.threads ++ [({} : Thread)] := by
  unfold DLLBootstrap.proceed
  cases attaching : session.attaching with
  | none => exact Or.inl rfl
  | some point =>
    cases point with
    | entered module =>
      dsimp only
      split <;> exact Or.inl rfl
    | claimed => exact Or.inl rfl
    | cleared =>
      dsimp only
      split
      · exact Or.inr ⟨rfl, rfl⟩
      · exact Or.inl rfl

theorem Coupled.used {process : Process} (coupled : Coupled process) (move : ThreadManager.Move Logging.Line)
    (place : ThreadManager.Place)
    (use : QueueExecutor.Session Logging.Line → QueueExecutor.Session Logging.Line)
    (same : process.executors.step move = process.executors.within place use) :
    Coupled { process with executors := process.executors.step move } := by
  have stays (stopped : ThreadManager.Stopped process.executors) :
      ThreadManager.Stopped (process.executors.step move) := by
    rw [same]
    exact stopped.within place use
  exact coupled.aside rfl (coupled.sound.preserved _ move) coupled.calls ⟨rfl, rfl, id, stays⟩

theorem Coupled.shared {process : Process} (coupled : Coupled process) {move : RuntimeManager.Move}
    (other : ¬move.Starts)
    (running : (process.code.step move).manager.running = process.code.manager.running)
    (point : (process.code.step move).point = process.code.point)
    (untouched : Session.Untouched process.code → Session.Untouched (process.code.step move)) :
    Coupled { process with code := process.code.step move } :=
  coupled.aside rfl coupled.sound (coupled.calls.preserved fun starts => absurd starts other)
    ⟨running, point, untouched, id⟩

theorem Coupled.hooked {process : Process} (coupled : Coupled process) {move : RuntimeManager.Move}
    (hooked : move = .enter ∨ move = .count ∨ move = .leave) (other : ¬move.Starts)
    (nobody : Session.Untouched process.code → process.code.step move = process.code) :
    Coupled { process with code := process.code.step move } := by
  obtain ⟨running, point⟩ := Session.hook_frame hooked
  apply coupled.shared other running point
  intro untouched
  rw [nobody untouched]
  exact untouched

theorem Coupled.preserved (process : Process) (move : Process.Move) (coupled : Coupled process) :
    Coupled (process.step move) := by
  cases move with
  | attach module =>
    refine ⟨coupled.single.preserved _ (.attach module), coupled.sound, coupled.calls, fun none => coupled.quiet ?_,
      fun thread member => ?_⟩
    · simp only [Process.step, DLLBootstrap.step] at none
      split at none <;> exact none
    · simp only [Process.step, DLLBootstrap.step] at member
      split at member <;> exact (coupled.matched thread member).aside ⟨rfl, rfl, id, id⟩
  | proceed created =>
    have single := coupled.single.preserved _ (.proceed created)
    rcases proceed_threads process.library created with same | ⟨claimed, made⟩
    · exact ⟨single, coupled.sound, coupled.calls, same ▸ coupled.quiet,
        fun thread member => (coupled.matched thread (same ▸ member)).aside ⟨rfl, rfl, id, id⟩⟩
    · have none := coupled.single.claiming (by rw [claimed]; trivial)
      rw [none] at made
      exact .of_alone single coupled.sound coupled.calls made (coupled.quiet none)
  | requestUnload =>
    exact ⟨coupled.single.preserved _ .requestUnload, coupled.sound, coupled.calls, coupled.quiet,
      fun thread member => (coupled.matched thread member).aside ⟨rfl, rfl, id, id⟩⟩
  | advance environment => exact coupled.advance environment
  | phase protection => exact coupled.phase protection
  | throw what fault protection => exact coupled.throw what fault protection
  | background line =>
    apply coupled.within (.background line)
    intro runtime
    simp only [Logging.step]
    split <;> exact ⟨rfl, rfl, rfl⟩
  | push call => exact coupled.within (.push call) fun runtime => ⟨rfl, rfl, rfl⟩
  | work => exact coupled.within .work fun runtime => ⟨rfl, rfl, rfl⟩
  | submit place task => exact coupled.used (.submit place task) place _ rfl
  | enqueue place call => exact coupled.used (.enqueue place call) place _ rfl
  | execute place index => exact coupled.used (.work place index) place _ rfl
  | game address bytes =>
    exact coupled.shared id rfl rfl fun untouched => untouched.frame rfl rfl rfl
  | smoke write => exact coupled.shared id rfl rfl fun untouched => untouched.frame rfl rfl rfl
  | enter => exact coupled.hooked (Or.inl rfl) id Session.Untouched.enter
  | count => exact coupled.hooked (Or.inr (Or.inl rfl)) id Session.Untouched.count
  | leave => exact coupled.hooked (Or.inr (Or.inr rfl)) id Session.Untouched.leave

/-! ## Over a run -/

/-- The next phase of the code, whether it throws or not, meets what the system owes it, and the
game's threads write beside the hook. -/
def Process.Respects (process : Process) : Process.Move → Prop
  | .phase protection => process.code.Respects (.proceed none protection)
  | .throw _ fault protection => process.code.Respects (.proceed (some fault) protection)
  | .game address bytes => process.code.Respects (.game address bytes)
  | .smoke write => process.code.Respects (.smoke write)
  | .attach _ | .proceed _ | .requestUnload | .advance _ | .background _ | .push _ | .work | .submit ..
  | .enqueue .. | .execute .. | .enter | .count | .leave => True

instance Process.decidableRespects (process : Process) : DecidablePred process.Respects
  | .phase protection => inferInstanceAs (Decidable (process.code.Respects (.proceed none protection)))
  | .throw _ fault protection => inferInstanceAs (Decidable (process.code.Respects (.proceed (some fault) protection)))
  | .game address bytes => inferInstanceAs (Decidable (process.code.Respects (.game address bytes)))
  | .smoke write => inferInstanceAs (Decidable (process.code.Respects (.smoke write)))
  | .attach _ | .proceed _ | .requestUnload | .advance _ | .background _ | .push _ | .work | .submit ..
  | .enqueue .. | .execute .. | .enter | .count | .leave => isTrue trivial

def Process.dataWrites (memory : Memory) : Process.Move → Memory
  | .game address bytes => memory.write address bytes
  | .smoke write => memory.write write.address write.bytes
  | _ => memory

theorem kept_preserved {process : Process} {pristine : Memory} (kept : Session.Kept process.code pristine)
    {move : Process.Move} (respects : process.Respects move) :
    Session.Kept (process.step move).code (Process.dataWrites pristine move) := by
  have along (inner : RuntimeManager.Move) (met : process.code.Respects inner) :
      Session.Kept (process.code.step inner) (Session.dataWrites pristine inner) := kept.preserved met
  cases move with
  | attach | proceed | requestUnload | background | push | work | submit | enqueue | execute => exact kept
  | advance environment =>
    simp only [Process.step, Process.advance, Process.dataWrites]
    split
    · exact kept
    next thread rest _ =>
      have started := along (.start environment.startup) trivial
      have stopped := along .stop trivial
      split
      · exact started
      · rw [Process.instruct_code]
        exact kept
      · rw [Process.instruct_code]
        exact kept
      · split
        · exact stopped
        · exact kept
      all_goals exact kept
  | phase protection =>
    have proceeded := along (.proceed none protection) respects
    simp only [Process.step, Process.phase, Process.dataWrites]
    split
    · exact kept
    · split
      · exact proceeded
      · exact kept
  | throw what fault protection =>
    simp only [Process.step, Process.throw, Process.dataWrites]
    split
    · exact kept
    · split
      · exact along (.proceed (some _) protection) respects
      · exact kept
  | game address bytes => exact along (.game address bytes) respects
  | smoke write => exact along (.smoke write) respects
  | enter => exact along .enter trivial
  | count => exact along .count trivial
  | leave => exact along .leave trivial

/-- The points at which the library is on its way out of the process, or gone. -/
def ThreadPoint.Leaves : ThreadPoint → Prop
  | .failed | .stopped | .exited _ => True
  | .created | .starting | .started | .polling | .stopping => False

theorem coupled_run (before : Memory) (moves : List Process.Move) :
    Coupled (run Process.step { code := { memory := before } } moves) := by
  refine run_invariant Coupled.preserved
    ⟨single_initial, ThreadManager.sound_initial, ⟨rfl, False.elim⟩, fun _ => ⟨⟨rfl, rfl⟩, rfl, rfl, rfl⟩,
      fun thread member => ?_⟩ moves
  cases member

theorem kept_run {before : Memory} {moves : List Process.Move}
    (respects : Guarded Process.step Process.Respects { code := { memory := before } } moves) :
    Session.Kept (run Process.step { code := { memory := before } } moves).code
      (run Process.dataWrites before moves) := by
  have related (state : Process) (image : Memory) (move : Process.Move) (kept : Session.Kept state.code image)
      (met : state.Respects move) : Session.Kept (state.step move).code (Process.dataWrites image move) :=
    kept_preserved kept met
  exact Guarded.related related (Session.kept_initial before) respects

theorem Coupled.stopped {process : Process} (coupled : Coupled process) {thread : Thread}
    (member : thread ∈ process.library.threads) (leaves : thread.point.Leaves) :
    Session.Stopped process.code ∧ ThreadManager.Stopped process.executors := by
  have matched := coupled.matched thread member
  rw [Matched] at matched
  cases point : thread.point <;> rw [point] at leaves matched
  case failed | stopped | exited => exact matched
  all_goals exact leaves.elim

/-- The library leaves the process only when the code is the game's again: when the
bootstrap thread is to free it, whether its runtime was stopped or failed to start,
the memory is what the game's threads have made of it, the natives are reset, and
no executor is left. At any time before, the only change is one patch over the
verified prologue. -/
theorem freed_unhooked (before : Memory) (moves : List Process.Move)
    (respects : Guarded Process.step Process.Respects { code := { memory := before } } moves) :
    let process := run Process.step { code := { memory := before } } moves
    let pristine := run Process.dataWrites before moves
    (∀ thread ∈ process.library.threads, thread.point.Leaves →
      process.code.memory = pristine ∧ process.code.manager.natives = {} ∧ process.executors.executors = []) ∧
      (process.library.threads = [] → process.code.memory = pristine) ∧
      (process.code.memory = pristine ∨ ∃ target hookThunk, pristine.read target patchSize = verifiedPrologue ∧
        process.code.memory = pristine.write target (patch hookThunk)) := by
  intro process pristine
  have coupled : Coupled process := coupled_run before moves
  have kept : Session.Kept process.code pristine := kept_run respects
  refine ⟨fun thread member leaves => ?_, fun none => (kept.clean (coupled.quiet none).1).1, kept.memory_cases⟩
  obtain ⟨stopped, joined⟩ := coupled.stopped member leaves
  exact ⟨(kept.clean stopped).1, (kept.clean stopped).2, joined.2⟩

def strangeEnvironment : Environment where
  logPath := []
  report := []
  startup := Session.strangeStartup
  hardware := 2

/-- A start whose second sink cannot be made, among writes of the game, and the way out. -/
def thrownOut : List Process.Move :=
  let granted : Protection := ⟨true, true⟩
  [.attach 1, .proceed true, .proceed true, .proceed true, .advance strangeEnvironment, .advance strangeEnvironment,
    .game 0x2000 [1], .throw none .before granted] ++ List.replicate 3 (.advance strangeEnvironment) ++
    [.game 0x3000 [2], .phase granted, .phase granted] ++ List.replicate 8 (.advance strangeEnvironment)

theorem freed_unhooked_thrown :
    (run Process.step { code := { memory := fun _ => 0 } } thrownOut).code.memory =
      run Process.dataWrites (fun _ => 0) thrownOut := by
  have exited : ∃ thread ∈ (run Process.step { code := { memory := fun _ => 0 } } thrownOut).library.threads,
      thread.point = .exited 1 := by decide
  obtain ⟨thread, member, point⟩ := exited
  exact ((freed_unhooked (fun _ => 0) thrownOut (by decide)).1 thread member (point ▸ trivial)).1

end DevilzDen.DLLBootstrap
