import DevilzDen.Runtime.DLLCode

/-! The way of the library out of the process, with the game's code put back.

The bootstrap thread waits for the worker of its logger and the calls of `Log`
under way, for the workers of its executors, whose tasks come to an end, and for
the game's threads that are inside the hook. It needs no one else, and where the
system grants what its phases ask, the code is the game's own in the end.
-/

set_option autoImplicit false

namespace DevilzDen.DLLBootstrap

open Backend Foundation RuntimeManager Integrations.GTA5Enhanced
open GTARunScriptThreadsBridge (Protection)

namespace Process

/-! ## The library of the process -/

theorem instruct_library (process : Process) (environment : Environment) (todo : List Logging.Instruction) :
    (process.instruct environment todo).library = process.library ∨
      (process.instruct environment todo).library =
        DLLBootstrap.step process.library (.advance 0 environment.logPath environment.report) := by
  have cases := instruct_cases process environment todo
  generalize process.instruct environment todo = after at cases
  cases cases with
  | waiting => exact Or.inl rfl
  | joining => exact Or.inl rfl
  | starting => exact Or.inr rfl
  | advanced => exact Or.inr rfl

theorem library_step (process : Process) (move : Move) :
    (process.step move).library = process.library ∨
      ∃ inner, (process.step move).library = DLLBootstrap.step process.library inner := by
  cases move with
  | attach module => exact Or.inr ⟨.attach module, rfl⟩
  | proceed created => exact Or.inr ⟨.proceed created, rfl⟩
  | requestUnload => exact Or.inr ⟨.requestUnload, rfl⟩
  | background line => exact Or.inr ⟨.background 0 line, rfl⟩
  | push call => exact Or.inr ⟨.push 0 call, rfl⟩
  | work => exact Or.inr ⟨.work 0, rfl⟩
  | submit | enqueue | execute | game | enter | count | leave | smoke => exact Or.inl rfl
  | advance environment =>
    simp only [step, advance]
    split
    · exact Or.inl rfl
    next thread rest _ =>
      have instructed := instruct_library process environment thread.runtime.todo
      split
      · exact Or.inr ⟨.advance 0 environment.logPath environment.report, rfl⟩
      · exact instructed.imp_right fun stepped => ⟨_, stepped⟩
      · exact instructed.imp_right fun stepped => ⟨_, stepped⟩
      · split <;> exact Or.inr ⟨.advance 0 environment.logPath environment.report, rfl⟩
      all_goals exact Or.inr ⟨.advance 0 environment.logPath environment.report, rfl⟩
  | phase protection =>
    simp only [step, phase]
    split
    · exact Or.inl rfl
    · split <;> exact Or.inl rfl
  | throw what fault protection =>
    simp only [step, throw]
    split
    · exact Or.inl rfl
    · split
      · exact Or.inr ⟨.throw 0 what, rfl⟩
      · exact Or.inl rfl

theorem library_invariant {inv : DLLBootstrap → Prop}
    (preserved : ∀ library inner, inv library → inv (DLLBootstrap.step library inner)) (process : Process)
    (move : Move) (holds : inv process.library) : inv (process.step move).library := by
  rcases library_step process move with same | ⟨inner, stepped⟩
  · rw [same]
    exact holds
  · rw [stepped]
    exact preserved _ inner holds

/-! ## The startup of the code -/

/-- The system puts back the protections that this start lifts. -/
def Fair (startup : Startup) : Prop := startup.protection.granted = true → startup.protection.restored = true

def Launched : Point → Prop
  | .refreshing startup | .initializing startup _ | .bridging startup _ => Fair startup
  | .idle | .completing | .uninstalling | .awaiting | .releasing | .resetting => True

def FairMove : Move → Prop
  | .advance environment => Fair environment.startup
  | _ => True

instance decidableFairMove : DecidablePred FairMove
  | .advance _ => inferInstanceAs (Decidable (_ → _))
  | .attach _ | .proceed _ | .requestUnload | .phase _ | .throw .. | .background _ | .push _ | .work | .submit ..
  | .enqueue .. | .execute .. | .game .. | .enter | .count | .leave | .smoke _ => isTrue trivial

theorem launched_beginStop (code : RuntimeManager.Session) : Launched code.beginStop.point := by
  unfold Session.beginStop
  split <;> trivial

theorem launched_proceed {code : RuntimeManager.Session} (launched : Launched code.point) (fault : Option Fault)
    (protection : Protection) : Launched (code.proceed fault protection).point := by
  have attempted {phase : RuntimeManager.Session → RuntimeManager.Session} (done : Launched (phase code).point) :
      Launched (code.attempt phase fault).point := by
    rcases fault with _ | _ | _
    · exact done
    · exact launched_beginStop code
    · exact launched_beginStop (phase code)
  unfold Session.proceed
  cases point : code.point with
  | idle =>
    dsimp only
    rw [point]
    trivial
  | refreshing startup =>
    rw [point] at launched
    apply attempted
    simp only [Session.refresh]
    split
    · trivial
    · exact launched
  | initializing startup status =>
    rw [point] at launched
    exact attempted launched
  | bridging startup status => exact attempted trivial
  | completing => exact attempted trivial
  | uninstalling =>
    simp only [Session.unhooked]
    split <;> trivial
  | awaiting =>
    dsimp only
    split
    · rw [point]
      trivial
    · trivial
  | releasing => trivial
  | resetting => trivial

theorem launched_hooked {code : RuntimeManager.Session} (launched : Launched code.point)
    {move : RuntimeManager.Move} (hooked : move = .enter ∨ move = .count ∨ move = .leave) :
    Launched (code.step move).point := by
  rw [(Session.hook_frame hooked).2]
  exact launched

theorem launched_preserved (process : Process) (move : Move) (fair : FairMove move)
    (launched : Launched process.code.point) : Launched (process.step move).code.point := by
  cases move with
  | attach | proceed | requestUnload | background | push | work | submit | enqueue | execute | game | smoke =>
    exact launched
  | enter => exact launched_hooked launched (Or.inl rfl)
  | count => exact launched_hooked launched (Or.inr (Or.inl rfl))
  | leave => exact launched_hooked launched (Or.inr (Or.inr rfl))
  | advance environment =>
    simp only [step, advance]
    split
    · exact launched
    next thread rest _ =>
      have same := instruct_code process environment thread.runtime.todo
      split
      · simp only [Session.step]
        split
        · unfold Session.beginStart
          split
          · exact launched
          · exact fair
        · exact launched
      · rw [same]
        exact launched
      · rw [same]
        exact launched
      · split
        · simp only [Session.step]
          split
          · exact launched_beginStop _
          · exact launched
        · exact launched
      all_goals exact launched
  | phase protection =>
    simp only [step, phase]
    split
    · exact launched
    · split
      · exact launched_proceed launched none protection
      · exact launched
  | throw what fault protection =>
    simp only [step, throw]
    split
    · exact launched
    · split
      · exact launched_proceed launched _ protection
      · exact launched

/-! ## The way out -/

/-- The steps of the bootstrap thread, of the worker of its logger and the workers of its executors, of the
calls of `Log` under way, and of the game's threads out of the hook. -/
inductive Own (environment : Environment) (protection : Protection) : Move → Prop where
  | advance : Own environment protection (.advance environment)
  | phase : Own environment protection (.phase protection)
  | push (call : Nat) : Own environment protection (.push call)
  | work : Own environment protection .work
  | execute (place : ThreadManager.Place) (index : Nat) : Own environment protection (.execute place index)
  | leave : Own environment protection .leave

def distance : Point → Nat
  | .refreshing _ => 8
  | .initializing _ _ => 7
  | .bridging _ _ => 6
  | .completing => 5
  | .uninstalling => 4
  | .awaiting => 3
  | .releasing => 2
  | .resetting => 1
  | .idle => 0

/-- Every phase is left, but for the wait for the threads inside the hook. -/
theorem distance_proceed {code : RuntimeManager.Session} (busy : code.point ≠ .idle)
    (free : code.point = .awaiting → code.manager.gameThreadBridge.activeCalls = 0) (protection : Protection) :
    distance (code.proceed none protection).point < distance code.point := by
  unfold Session.proceed
  cases point : code.point with
  | idle => exact absurd point busy
  | refreshing startup =>
    simp only [Session.attempt, Session.refresh]
    split <;> simp [distance]
  | uninstalling =>
    simp only [Session.unhooked]
    split <;> simp [distance]
  | awaiting => simp [free point, distance]
  | initializing | bridging | completing | releasing | resetting =>
    simp [Session.attempt, Session.initialized, Session.bridged, Session.released, distance]

def joining (executors : ThreadManager.Session Logging.Line) : Nat ×ₗ (Nat ×ₗ Nat) :=
  if ThreadManager.Stopped executors then toLex (0, toLex (0, 0))
  else toLex (if executors.stage = .idle then 2 else 1, executors.rank)

theorem joining_advances {executors : ThreadManager.Session Logging.Line} (sound : ThreadManager.Sound executors)
    (there : ¬ThreadManager.Stopped executors) :
    ∃ move, ThreadManager.Own move ∧ joining (executors.step move) < joining executors := by
  by_cases idle : executors.stage = .idle
  · refine ⟨.stop, .stop, ?_⟩
    have called : (executors.step .stop).stage ≠ .idle := by
      simp [ThreadManager.Session.step, ThreadManager.Session.stop, idle]
    have under : ¬ThreadManager.Stopped (executors.step .stop) := fun stopped => called stopped.1
    rw [joining, joining, if_neg under, if_neg there, if_neg called, if_pos idle]
    exact Prod.Lex.toLex_lt_toLex.mpr (Or.inl (Nat.lt_succ_self 1))
  · obtain ⟨move, own, lower, empty⟩ := sound.advances idle
    refine ⟨move, own, ?_⟩
    rw [joining, joining, if_neg there, if_neg idle]
    split
    · exact Prod.Lex.toLex_lt_toLex.mpr (Or.inl Nat.zero_lt_one)
    next under =>
      rw [if_neg fun returned => under ⟨returned, empty returned⟩]
      exact Prod.Lex.toLex_lt_toLex.mpr (Or.inr ⟨rfl, lower⟩)

/-- The thread comes first: a step of its own may begin a call. Then come those that it waits for. -/
def rank (process : Process) : (Nat ×ₗ Nat) ×ₗ ((Nat ×ₗ (Nat ×ₗ Nat)) ×ₗ (Nat ×ₗ Nat)) :=
  toLex (process.library.rank,
    toLex (joining process.executors, toLex (distance process.code.point, process.code.inside)))

theorem rank_of_library {process after : Process} (lower : after.library.rank < process.library.rank) :
    after.rank < process.rank := Prod.Lex.toLex_lt_toLex.mpr (Or.inl lower)

theorem rank_of_executors {process after : Process} (same : after.library = process.library)
    (lower : joining after.executors < joining process.executors) : after.rank < process.rank :=
  Prod.Lex.toLex_lt_toLex.mpr
    (Or.inr ⟨congrArg DLLBootstrap.rank same, Prod.Lex.toLex_lt_toLex.mpr (Or.inl lower)⟩)

theorem rank_of_code {process after : Process} (same : after.library = process.library)
    (joined : after.executors = process.executors)
    (lower : distance after.code.point < distance process.code.point ∨
      after.code.point = process.code.point ∧ after.code.inside < process.code.inside) : after.rank < process.rank := by
  refine Prod.Lex.toLex_lt_toLex.mpr (Or.inr ⟨congrArg DLLBootstrap.rank same, ?_⟩)
  refine Prod.Lex.toLex_lt_toLex.mpr (Or.inr ⟨congrArg joining joined, ?_⟩)
  exact Prod.Lex.toLex_lt_toLex.mpr (lower.imp_right fun kept => ⟨congrArg distance kept.1, kept.2⟩)

/-! ## What the thread waits for -/

theorem due_of_falling {todo : List Logging.Instruction} {process : Process} (falling : Falling todo process)
    (awaits : Awaits todo) (busy : process.code.point ≠ .idle) : Due todo process.code.point := by
  have next : todo.head? = some .stopThreads := by
    rcases awaits with none | next
    · have member := falling.hooked busy
      rw [none] at member
      cases member
    · exact next
  have down := falling.down.2
  cases point : process.code.point with
  | idle => exact absurd point busy
  | uninstalling | awaiting | releasing | resetting => exact next
  | refreshing | initializing | bridging | completing =>
    rw [point] at down
    exact absurd trivial down

theorem due_of_launch {runtime : Logging} {process : Process} (launch : Launch runtime process)
    (awaits : Awaits runtime.todo) (busy : process.code.point ≠ .idle) : Due runtime.todo process.code.point := by
  cases launch with
  | failing _ _ falling => exact due_of_falling falling awaits busy
  | trying _ _ _ stays _ phase =>
    have inside : process.code.point.Starting := phase.resolve_right fun ended => busy ended.1
    have none : runtime.todo = [] := awaits.resolve_right fun next => stays (List.mem_of_head? next)
    rw [none]
    cases point : process.code.point with
    | refreshing | initializing | bridging => exact List.not_mem_nil
    | completing => exact rfl
    | idle | uninstalling | awaiting | releasing | resetting =>
      rw [point] at inside
      exact inside.elim

/-- The thread takes a step, or waits for a phase, or for its executors. -/
theorem advance_cases {process : Process} (coupled : Coupled process) {thread : Thread}
    (alone : process.library.threads = [thread]) (environment : Environment) :
    (process.advance environment).library =
        DLLBootstrap.step process.library (.advance 0 environment.logPath environment.report) ∨
      (thread.point = .starting ∨ thread.point = .stopping) ∧ process.code.point ≠ .idle ∧
        Due thread.runtime.todo process.code.point ∨
      ¬ThreadManager.Stopped process.executors ∧
        process.advance environment = { process with executors := process.executors.step .stop } := by
  have matched := coupled.matched thread (by rw [alone]; exact List.mem_cons_self)
  have instructs (inside : thread.point = .starting ∨ thread.point = .stopping)
      (same : process.advance environment = process.instruct environment thread.runtime.todo)
      (due : Awaits thread.runtime.todo → process.code.point ≠ .idle → Due thread.runtime.todo process.code.point) :
      (process.advance environment).library =
          DLLBootstrap.step process.library (.advance 0 environment.logPath environment.report) ∨
        (thread.point = .starting ∨ thread.point = .stopping) ∧ process.code.point ≠ .idle ∧
          Due thread.runtime.todo process.code.point ∨
        ¬ThreadManager.Stopped process.executors ∧
          process.advance environment = { process with executors := process.executors.step .stop } := by
    have cases := instruct_cases process environment thread.runtime.todo
    rw [← same] at cases
    generalize process.advance environment = after at cases
    cases cases with
    | waiting awaits busy => exact Or.inr (Or.inl ⟨inside, busy, due awaits busy⟩)
    | joining _ _ there => exact Or.inr (Or.inr ⟨there, rfl⟩)
    | starting => exact Or.inl rfl
    | advanced => exact Or.inl rfl
  rw [Matched] at matched
  cases point : thread.point with
  | starting =>
    rw [point] at matched instructs
    exact instructs (Or.inl rfl) (by simp only [advance, alone, point]) (due_of_launch matched)
  | stopping =>
    rw [point] at matched instructs
    exact instructs (Or.inr rfl) (by simp only [advance, alone, point]) (due_of_falling matched)
  | polling =>
    left
    simp only [advance, alone, point]
    split <;> rfl
  | created | started | failed | stopped | exited =>
    left
    simp only [advance, alone, point]
    rfl

/-- The thread is to unload, and nothing stands in the way of its runtime, nor of the code. -/
structure Ending (process : Process) (thread : Thread) : Prop where
  library : DLLBootstrap.Ending process.library thread
  coupled : Coupled process

/-- A step that brings the process nearer to the end of its thread, and asks no more of the system than it must. -/
structure Nearer (environment : Environment) (protection : Protection) (process : Process) (move : Move) : Prop where
  own : Own environment protection move
  ending : ∃ after, Ending (process.step move) after
  lower : (process.step move).rank < process.rank
  respects : Launched process.code.point → protection.granted = true → process.Respects move

theorem Ending.aside {process : Process} {thread : Thread} (ending : Ending process thread) (move : Move)
    (same : (process.step move).library = process.library) : ∃ after, Ending (process.step move) after :=
  ⟨thread, same ▸ ending.library, ending.coupled.preserved process move⟩

theorem Ending.phases {process : Process} {thread : Thread} (ending : Ending process thread)
    (inside : thread.point = .starting ∨ thread.point = .stopping) (busy : process.code.point ≠ .idle)
    (due : Due thread.runtime.todo process.code.point) (environment : Environment) (protection : Protection) :
    ∃ move, Nearer environment protection process move := by
  by_cases waits : process.code.point = .awaiting ∧ process.code.manager.gameThreadBridge.activeCalls ≠ 0
  · have some := ending.coupled.calls.inside_ne_zero waits.2
    refine ⟨.leave, .leave, ending.aside .leave rfl, rank_of_code rfl rfl (Or.inr ?_), fun _ _ => trivial⟩
    simp only [step, Session.step, Session.leave, some, if_false]
    exact ⟨trivial, Nat.sub_one_lt some⟩
  · have free (point : process.code.point = .awaiting) :
        process.code.manager.gameThreadBridge.activeCalls = 0 := by
      by_contra some
      exact waits ⟨point, some⟩
    have stepped : process.step (.phase protection) =
        { process with code := process.code.step (.proceed none protection) } := by
      simp only [step, phase, ending.library.alone]
      rw [if_pos ⟨inside, due⟩]
    have same : (process.step (.phase protection)).library = process.library := by rw [stepped]
    refine ⟨.phase protection, .phase, ending.aside _ same, ?_, fun launched granted => ?_⟩
    · rw [stepped]
      exact rank_of_code rfl rfl (Or.inl (distance_proceed busy free protection))
    · unfold Respects Session.Respects
      cases point : process.code.point with
      | bridging startup status =>
        rw [point] at launched
        exact launched
      | uninstalling => exact fun _ => granted
      | idle | refreshing | initializing | completing | awaiting | releasing | resetting => trivial

theorem Ending.advances {process : Process} {thread : Thread} (ending : Ending process thread)
    (environment : Environment) (protection : Protection) :
    Exited process.library ∨ ∃ move, Nearer environment protection process move := by
  -- a step of the library brings the thread nearer to its end
  have nearer {move : Move} (own : Own environment protection move) (met : process.Respects move) {after : Thread}
      (ends : DLLBootstrap.Ending (process.step move).library after)
      (lower : (process.step move).library.rank < process.library.rank) :
      ∃ move, Nearer environment protection process move :=
    ⟨move, own, ⟨after, ends, ending.coupled.preserved process move⟩, rank_of_library lower, fun _ _ => met⟩
  rcases ending.library.advances environment.logPath environment.report with
    exited | ⟨inner, own, ⟨after, ends⟩, lower⟩
  · exact Or.inl exited
  · right
    cases own with
    | push call => exact nearer (.push call) trivial ends lower
    | work => exact nearer .work trivial ends lower
    | advance =>
      rcases advance_cases ending.coupled ending.library.alone environment with
        same | ⟨inside, busy, due⟩ | ⟨there, stops⟩
      · have onward : DLLBootstrap.Ending (process.step (.advance environment)).library after := by
          rw [step, same]
          exact ends
        exact nearer .advance trivial onward (lt_of_eq_of_lt (congrArg DLLBootstrap.rank same) lower)
      · exact ending.phases inside busy due environment protection
      · obtain ⟨move, own, lower⟩ := joining_advances ending.coupled.sound there
        cases own with
        | stop =>
          have stepped : process.step (.advance environment) =
              { process with executors := process.executors.step .stop } := stops
          have same : (process.step (.advance environment)).library = process.library := by rw [stepped]
          refine ⟨.advance environment, .advance, ending.aside _ same, ?_, fun _ _ => trivial⟩
          rw [stepped]
          exact rank_of_executors rfl lower
        | work place index =>
          exact ⟨.execute place index, .execute place index, ending.aside _ rfl, rank_of_executors rfl lower,
            fun _ _ => trivial⟩

theorem dataWrites_own {environment : Environment} {protection : Protection} {moves : List Move}
    (own : ∀ move ∈ moves, Own environment protection move) (memory : Memory) :
    run dataWrites memory moves = memory := by
  apply run_of_forall_same _
  intro move member
  cases own move member <;> rfl

theorem asked_run {before : Memory} {moves : List Move}
    (present : (run step { code := { memory := before } } moves).library.threads ≠ []) (later : List Move) :
    let process := run step { code := { memory := before } } (moves ++ .requestUnload :: later)
    process.library.stopRequested = true ∧ ∃ thread, Ending process thread := by
  intro process
  have asked : Single process.library ∧ process.library.threads ≠ [] ∧ process.library.stopRequested = true := by
    simp only [process]
    rw [run_append, run_cons]
    exact run_invariant (library_invariant asked_preserved)
      (asked_preserved_start (coupled_run before moves).single present) later
  have calm : ∀ thread ∈ process.library.threads, Calm thread.runtime := by
    refine run_invariant (library_invariant calm_preserved) (fun thread member => ?_) _
    cases member
  obtain ⟨single, there, posted⟩ := asked
  obtain ⟨thread, alone⟩ : ∃ thread, process.library.threads = [thread] :=
    List.length_eq_one_iff.mp (Nat.le_antisymm single.single (List.length_pos_of_ne_nil there))
  exact ⟨posted, thread, ⟨alone, single, posted, calm thread (alone ▸ List.mem_cons_self)⟩, coupled_run before _⟩

/-- A request to unload that finds a thread stays posted, whatever happens. From any later state, the steps
of the thread and of those it waits for suffice to end it: of the worker of its logger and the calls of
`Log` under way, of the workers of its executors, and of the game's threads that leave the hook. -/
theorem unload_completes (before : Memory) (moves later : List Move)
    (present : (run step { code := { memory := before } } moves).library.threads ≠ [])
    (environment : Environment) (protection : Protection) :
    (run step { code := { memory := before } } (moves ++ .requestUnload :: later)).library.stopRequested = true ∧
      ∃ more, (∀ move ∈ more, Own environment protection move) ∧
        Exited (run step { code := { memory := before } } (moves ++ .requestUnload :: (later ++ more))).library := by
  obtain ⟨posted, ending⟩ := asked_run present later
  refine ⟨posted, ?_⟩
  have advances (process : Process) (ending : ∃ thread, Ending process thread) :
      Exited process.library ∨ ∃ move, Own environment protection move ∧
        (∃ after, Ending (process.step move) after) ∧ (process.step move).rank < process.rank := by
    obtain ⟨thread, ending⟩ := ending
    exact (ending.advances environment protection).imp_right fun ⟨move, nearer⟩ =>
      ⟨move, nearer.own, nearer.ending, nearer.lower⟩
  obtain ⟨more, guarded, exited⟩ : ∃ more,
      Guarded step (fun _ => Own environment protection)
        (run step { code := { memory := before } } (moves ++ .requestUnload :: later)) more ∧
        Exited (run step (run step { code := { memory := before } } (moves ++ .requestUnload :: later)) more).library :=
    exists_run_of_rank rank advances ending
  refine ⟨more, guarded.forall, ?_⟩
  rwa [← run_append, List.append_assoc, List.cons_append] at exited

/-- A thread that is starting, with a game's thread before the hook, and one of its log's calls under way. -/
theorem unload_completes_starting :
    (run step { code := { memory := fun _ => 0 } }
      (thrownOut.take 6 ++ .requestUnload :: [.enter, .background ⟨.info, [], []⟩])).library.stopRequested = true ∧
      ∃ more, (∀ move ∈ more, Own strangeEnvironment ⟨false, false⟩ move) ∧
        Exited (run step { code := { memory := fun _ => 0 } }
          (thrownOut.take 6 ++ .requestUnload :: ([.enter, .background ⟨.info, [], []⟩] ++ more))).library :=
  unload_completes (fun _ => 0) (thrownOut.take 6) [.enter, .background ⟨.info, [], []⟩] (by decide)
    strangeEnvironment ⟨false, false⟩

/-- The same steps take the hook out of the code, where the system meets its obligations in the run and
grants what the thread asks on its way: the memory is then what the game's threads have made of it, the
natives are reset, and no executor is left. -/
theorem unload_restores_code (before : Memory) (moves later : List Move)
    (present : (run step { code := { memory := before } } moves).library.threads ≠ [])
    (respects : Guarded step Respects { code := { memory := before } } (moves ++ .requestUnload :: later))
    (fairly : ∀ move ∈ moves ++ .requestUnload :: later, FairMove move) (environment : Environment)
    (fair : Fair environment.startup) {protection : Protection} (granted : protection.granted = true) :
    ∃ more, (∀ move ∈ more, Own environment protection move) ∧
      let process := run step { code := { memory := before } } (moves ++ .requestUnload :: (later ++ more))
      Exited process.library ∧ process.code.memory = run dataWrites before (moves ++ .requestUnload :: later) ∧
        process.code.manager.natives = {} ∧ process.executors.executors = [] := by
  have launched : Launched
      (run step { code := { memory := before } } (moves ++ .requestUnload :: later)).code.point :=
    run_invariant_of_mem
      (fun move member process launched => launched_preserved process move (fairly move member) launched) trivial
  have advances (process : Process) (inv : (∃ thread, Ending process thread) ∧ Launched process.code.point) :
      Exited process.library ∨ ∃ move, (Own environment protection move ∧ process.Respects move) ∧
        ((∃ after, Ending (process.step move) after) ∧ Launched (process.step move).code.point) ∧
          (process.step move).rank < process.rank := by
    obtain ⟨⟨thread, ending⟩, launched⟩ := inv
    refine (ending.advances environment protection).imp_right fun ⟨move, nearer⟩ => ?_
    have goes : FairMove move := by cases nearer.own <;> first | exact fair | trivial
    exact ⟨move, ⟨nearer.own, nearer.respects launched granted⟩,
      ⟨nearer.ending, launched_preserved process move goes launched⟩, nearer.lower⟩
  obtain ⟨more, guarded, exited⟩ : ∃ more,
      Guarded step (fun process move => Own environment protection move ∧ process.Respects move)
        (run step { code := { memory := before } } (moves ++ .requestUnload :: later)) more ∧
        Exited (run step (run step { code := { memory := before } } (moves ++ .requestUnload :: later)) more).library :=
    exists_run_of_rank rank advances ⟨(asked_run present later).2, launched⟩
  have own : ∀ move ∈ more, Own environment protection move := (guarded.mono fun _ _ => And.left).forall
  have kept := kept_run (guarded_append.mpr ⟨respects, guarded.mono fun _ _ => And.right⟩)
  have coupled := coupled_run before (moves ++ .requestUnload :: later ++ more)
  obtain ⟨_, thread, ending⟩ := asked_run present (later ++ more)
  rw [← run_append] at exited
  rw [run_append dataWrites, dataWrites_own own] at kept
  rw [List.append_assoc, List.cons_append] at exited kept coupled
  refine ⟨more, own, exited, ?_⟩
  have member := ending.library.alone ▸ List.mem_cons_self
  obtain ⟨code, point⟩ := (exited thread member).1
  obtain ⟨stopped, joined⟩ := coupled.stopped member (by rw [point]; trivial)
  exact ⟨(kept.clean stopped).1, (kept.clean stopped).2, joined.2⟩

theorem unload_restores_code_starting :
    ∃ more, (∀ move ∈ more, Own strangeEnvironment ⟨true, false⟩ move) ∧
      let process := run step { code := { memory := fun _ => 0 } }
        (thrownOut.take 8 ++ .requestUnload :: ([.game 0x4000 [3]] ++ more))
      Exited process.library ∧
        process.code.memory =
          run dataWrites (fun _ => 0) (thrownOut.take 8 ++ .requestUnload :: [.game 0x4000 [3]]) ∧
        process.code.manager.natives = {} ∧ process.executors.executors = [] :=
  unload_restores_code (fun _ => 0) (thrownOut.take 8) [.game 0x4000 [3]] (by decide) (by decide) (by decide)
    strangeEnvironment (fun _ => rfl) rfl

end Process

end DevilzDen.DLLBootstrap
