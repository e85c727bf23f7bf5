import DevilzDen.Backend.Filesystem.FileSystemMonitor

/-! The file system monitor with its worker: `Start` and `Stop` from one thread, passes from the other.

A move is the next step of one of the two threads. The worker looks at the stop
request before it sleeps and after, and never in the middle of a pass. What a
walk through the directory shows comes with the step that takes it. The last
fields of a session are the history since the last `Start`.
-/

set_option autoImplicit false

namespace DevilzDen.Backend.FileSystemMonitor

open Foundation

variable {Path Time : Type}

/-- Where the worker stands. In a pass it has the events that are still to be
reported, and the snapshot that it will keep. -/
inductive WorkerPoint (Path Time : Type) where
  | testing
  | sleeping
  | walking
  | reporting (pending : List (FileSystemEvent Path)) (current : Table Path Time)
  | finished

structure Worker (Path Time : Type) where
  stopRequested : Bool := false
  point : WorkerPoint Path Time := .testing

inductive Control where
  | idle
  | building
  | spawning
  | requesting
  | joining
  deriving DecidableEq, Repr

structure Session (Path Time : Type) where
  monitor : FileSystemMonitor Path Time
  worker : Option (Worker Path Time) := none
  control : Control := .idle
  opened : Table Path Time := ∅
  walks : List (Walk Path Time) := []
  reported : List (FileSystemEvent Path) := []

inductive Move (Path Time : Type) where
  | start
  | stop
  | control (walk : Walk Path Time)
  | work (walk : Walk Path Time)

namespace Session

/-- `Start` and `Stop` up to the exchange of the flag. A call begins when the one before has returned. -/
def beginStart (session : Session Path Time) : Session Path Time :=
  if session.control ≠ .idle ∨ session.monitor.running then session
  else { session with monitor.running := true, control := .building }

def beginStop (session : Session Path Time) : Session Path Time :=
  if session.control ≠ .idle ∨ !session.monitor.running then session
  else { session with monitor.running := false, control := .requesting }

variable [DecidableEq Path]

def controlStep (session : Session Path Time) (walk : Walk Path Time) : Session Path Time :=
  match session.control with
  | .idle => session
  | .building =>
      match session.monitor.buildSnapshot walk with
      | .error _ => { session with monitor.running := false, control := .idle }
      | .ok snapshot =>
          { session with
            monitor.snapshot := snapshot
            control := .spawning
            opened := snapshot
            walks := []
            reported := [] }
  | .spawning => { session with worker := some {}, control := .idle }
  | .requesting =>
      match session.worker with
      | none => { session with control := .idle }
      | some worker => { session with worker := some { worker with stopRequested := true }, control := .joining }
  | .joining =>
      match session.worker with
      | some ⟨_, .finished⟩ => { session with worker := none, control := .idle }
      | _ => session

variable [DecidableEq Time]

def work (session : Session Path Time) (walk : Walk Path Time) : Session Path Time :=
  match session.worker with
  | none => session
  | some ⟨stop, .testing⟩ =>
      let next := if !stop && session.monitor.running then .sleeping else .finished
      { session with worker := some ⟨stop, next⟩ }
  | some ⟨stop, .sleeping⟩ => { session with worker := some ⟨stop, if stop then .finished else .walking⟩ }
  | some ⟨stop, .walking⟩ =>
      let next : WorkerPoint Path Time :=
        match session.monitor.buildSnapshot walk with
        | .error _ => .testing
        | .ok current => .reporting (session.monitor.pass walk).2 current
      { session with worker := some ⟨stop, next⟩, walks := session.walks ++ [walk] }
  | some ⟨stop, .reporting (event :: later) current⟩ =>
      { session with
        worker := some ⟨stop, .reporting later current⟩
        reported := session.reported ++ [event] }
  | some ⟨stop, .reporting [] current⟩ =>
      { session with monitor.snapshot := current, worker := some ⟨stop, .testing⟩ }
  | some ⟨_, .finished⟩ => session

def step (session : Session Path Time) : Move Path Time → Session Path Time
  | .start => session.beginStart
  | .stop => session.beginStop
  | .control walk => session.controlStep walk
  | .work walk => session.work walk

/-! ## Where the two threads stand together -/

/-- There is a worker from the end of `Start` to the end of `Stop`, and never a second one. -/
inductive Standing : Control → Option (Worker Path Time) → Bool → Prop where
  | stopped : Standing .idle none false
  | watching {point : WorkerPoint Path Time} (live : point ≠ .finished) : Standing .idle (some ⟨false, point⟩) true
  | building : Standing .building none true
  | spawning : Standing .spawning none true
  | requesting (point : WorkerPoint Path Time) : Standing .requesting (some ⟨false, point⟩) false
  | joining (point : WorkerPoint Path Time) : Standing .joining (some ⟨true, point⟩) false

def Sound (session : Session Path Time) : Prop :=
  Standing session.control session.worker session.monitor.running

inductive Worked (session : Session Path Time) (walk : Walk Path Time) : Session Path Time → Prop where
  | rested (still : ∀ worker ∈ session.worker, worker.point = .finished) : Worked session walk session
  | slept {stop : Bool} (found : session.worker = some ⟨stop, .testing⟩) :
      Worked session walk { session with worker := some ⟨stop, .sleeping⟩ }
  | woke {stop : Bool} (found : session.worker = some ⟨stop, .sleeping⟩) :
      Worked session walk { session with worker := some ⟨stop, .walking⟩ }
  | left {stop : Bool} {point : WorkerPoint Path Time} (found : session.worker = some ⟨stop, point⟩)
      (between : point = .testing ∨ point = .sleeping) (ended : stop = true ∨ session.monitor.running = false) :
      Worked session walk { session with worker := some ⟨stop, .finished⟩ }
  | failed {stop : Bool} {error : Error} (found : session.worker = some ⟨stop, .walking⟩)
      (built : session.monitor.buildSnapshot walk = .error error) :
      Worked session walk
        { session with worker := some ⟨stop, .testing⟩, walks := session.walks ++ [walk] }
  | listed {stop : Bool} {current : Table Path Time} (found : session.worker = some ⟨stop, .walking⟩)
      (built : session.monitor.buildSnapshot walk = .ok current) :
      Worked session walk
        { session with
          worker := some ⟨stop, .reporting (session.monitor.pass walk).2 current⟩
          walks := session.walks ++ [walk] }
  | called {stop : Bool} {event : FileSystemEvent Path} {later : List (FileSystemEvent Path)}
      {current : Table Path Time} (found : session.worker = some ⟨stop, .reporting (event :: later) current⟩) :
      Worked session walk
        { session with worker := some ⟨stop, .reporting later current⟩, reported := session.reported ++ [event] }
  | kept {stop : Bool} {current : Table Path Time} (found : session.worker = some ⟨stop, .reporting [] current⟩) :
      Worked session walk
        { session with monitor.snapshot := current, worker := some ⟨stop, .testing⟩ }

theorem work_cases (session : Session Path Time) (walk : Walk Path Time) : Worked session walk (session.work walk) := by
  unfold work
  split
  next none =>
    refine .rested fun worker here => ?_
    rw [none] at here
    cases here
  next stop found =>
    dsimp only
    split
    · exact .slept found
    next ends =>
      refine .left found (Or.inl rfl) ?_
      cases stop with
      | true => exact Or.inl rfl
      | false => exact Or.inr (by simpa using ends)
  next stop found =>
    split
    next asked => exact .left found (Or.inr rfl) (Or.inl asked)
    next => exact .woke found
  next stop found =>
    dsimp only
    cases built : session.monitor.buildSnapshot walk with
    | error error => exact .failed found built
    | ok current => exact .listed found built
  next stop event later current found => exact .called found
  next stop current found => exact .kept found
  next stop found =>
    refine .rested fun worker here => ?_
    rw [found] at here
    cases here
    rfl

omit [DecidableEq Path] [DecidableEq Time] in
theorem Standing.moveWorker {control : Control} {stop running : Bool} {point next : WorkerPoint Path Time}
    (standing : Standing control (some ⟨stop, point⟩) running)
    (live : stop = false → running = true → next ≠ .finished) :
    Standing control (some ⟨stop, next⟩) running := by
  cases standing with
  | watching => exact .watching (live rfl rfl)
  | requesting => exact .requesting next
  | joining => exact .joining next

theorem Sound.work {session : Session Path Time} (sound : Sound session) (walk : Walk Path Time) :
    Sound (session.work walk) := by
  have worked := work_cases session walk
  generalize session.work walk = after at worked
  unfold Sound at sound ⊢
  cases worked with
  | rested => exact sound
  | left found between ended =>
    rw [found] at sound
    apply sound.moveWorker
    intro unasked running
    rcases ended with asked | stopped
    · rw [unasked] at asked
      cases asked
    · rw [running] at stopped
      cases stopped
  | slept found | woke found | failed found | listed found | called found | kept found =>
    rw [found] at sound
    exact sound.moveWorker fun _ _ same => by cases same

omit [DecidableEq Time] in
theorem Sound.controlStep {session : Session Path Time} (sound : Sound session) (walk : Walk Path Time) :
    Sound (session.controlStep walk) := by
  obtain ⟨⟨root, callback, running, snapshot⟩, worker, control, opened, walks, reported⟩ := session
  unfold Sound at sound
  dsimp only at sound
  cases sound with
  | stopped => exact .stopped
  | watching live => exact .watching live
  | building =>
    rw [Session.controlStep]
    dsimp only
    split
    · exact Standing.stopped
    · exact Standing.spawning
  | spawning =>
    apply Standing.watching
    intro same
    cases same
  | requesting point => exact Standing.joining point
  | joining point =>
    cases point with
    | finished => exact Standing.stopped
    | testing | sleeping | walking | reporting => exact Standing.joining _

omit [DecidableEq Path] [DecidableEq Time] in
theorem Sound.beginStart {session : Session Path Time} (sound : Sound session) : Sound session.beginStart := by
  unfold Session.beginStart
  split
  · exact sound
  next begins =>
    simp only [not_or, not_not, Bool.not_eq_true] at begins
    unfold Sound at sound ⊢
    rw [begins.1, begins.2] at sound
    cases worker : session.worker with
    | none => exact .building
    | some worker' =>
      rw [worker] at sound
      cases sound

omit [DecidableEq Path] [DecidableEq Time] in
theorem Sound.beginStop {session : Session Path Time} (sound : Sound session) : Sound session.beginStop := by
  unfold Session.beginStop
  split
  · exact sound
  next begins =>
    simp only [not_or, not_not, Bool.not_eq_true, Bool.not_eq_false'] at begins
    unfold Sound at sound ⊢
    rw [begins.1, begins.2] at sound
    cases worker : session.worker with
    | none =>
      rw [worker] at sound
      cases sound
    | some worker' =>
      rw [worker] at sound
      cases sound with
      | watching live => exact .requesting _

theorem Sound.preserved {session : Session Path Time} (sound : Sound session) (move : Move Path Time) :
    Sound (session.step move) := by
  cases move with
  | start => exact sound.beginStart
  | stop => exact sound.beginStop
  | control walk => exact sound.controlStep walk
  | work walk => exact sound.work walk

/-! ## The worker's passes, one after the other -/

def base (session : Session Path Time) : FileSystemMonitor Path Time :=
  { root := session.monitor.root, callback := session.monitor.callback, snapshot := session.opened }

def pending (session : Session Path Time) : List (FileSystemEvent Path) :=
  match session.worker with
  | some ⟨_, .reporting pending _⟩ => pending
  | _ => []

/-- The last snapshot that could be taken. -/
def latest (session : Session Path Time) : Table Path Time :=
  match session.worker with
  | some ⟨_, .reporting _ current⟩ => current
  | _ => session.monitor.snapshot

/-- What was reported since `Start`, and what the pass under way has still to
report, is what the passes over the same walks report, one after the other. -/
structure Refined (session : Session Path Time) : Prop where
  events : session.reported ++ session.pending = outputs pass session.base session.walks
  snapshot : session.latest = (run (fun monitor walk => (pass monitor walk).1) session.base session.walks).snapshot

theorem pass_congr {monitor other : FileSystemMonitor Path Time} (root : monitor.root = other.root)
    (callback : monitor.callback = other.callback) (snapshot : monitor.snapshot = other.snapshot)
    (walk : Walk Path Time) : monitor.buildSnapshot walk = other.buildSnapshot walk ∧
      (monitor.pass walk).2 = (other.pass walk).2 ∧
      (monitor.pass walk).1.snapshot = (other.pass walk).1.snapshot := by
  obtain ⟨root', callback', running, snapshot'⟩ := monitor
  obtain ⟨root'', callback'', running', snapshot''⟩ := other
  cases root
  cases callback
  cases snapshot
  have built : ({ root := root', callback := callback', running, snapshot := snapshot' } :
      FileSystemMonitor Path Time).buildSnapshot walk =
        ({ root := root', callback := callback', running := running', snapshot := snapshot' } :
          FileSystemMonitor Path Time).buildSnapshot walk := by
    cases walk <;> rfl
  refine ⟨built, ?_⟩
  rw [pass, pass, built]
  cases FileSystemMonitor.buildSnapshot _ walk <;> exact ⟨rfl, rfl⟩

theorem run_pass_frame (monitor : FileSystemMonitor Path Time) (walks : List (Walk Path Time)) :
    let after := run (fun monitor walk => (pass monitor walk).1) monitor walks
    after.root = monitor.root ∧ after.callback = monitor.callback := by
  have kept : ∀ (later : FileSystemMonitor Path Time) (walk : Walk Path Time),
      later.root = monitor.root ∧ later.callback = monitor.callback →
        (later.pass walk).1.root = monitor.root ∧ (later.pass walk).1.callback = monitor.callback := by
    intro later walk same
    unfold pass poll
    split <;> exact same
  exact run_invariant kept ⟨rfl, rfl⟩ walks

theorem Refined.walked {session : Session Path Time} (refined : Refined session) {stop : Bool}
    (found : session.worker = some ⟨stop, .walking⟩) (walk : Walk Path Time) :
    session.reported ++ (session.monitor.pass walk).2 = outputs pass session.base (session.walks ++ [walk]) ∧
      (session.monitor.pass walk).1.snapshot =
        (run (fun monitor walk => (pass monitor walk).1) session.base (session.walks ++ [walk])).snapshot := by
  have events := refined.events
  have snapshot := refined.snapshot
  rw [pending, found, List.append_nil] at events
  rw [latest, found] at snapshot
  have frame := run_pass_frame session.base session.walks
  have root : session.monitor.root =
    (run (fun monitor walk => (pass monitor walk).1) session.base session.walks).root := frame.1.symm
  have same := pass_congr root frame.2.symm snapshot walk
  rw [outputs_append, run_append, ← events]
  refine ⟨?_, same.2.2⟩
  rw [outputs, outputs, List.append_nil]
  exact congrArg (session.reported ++ ·) same.2.1

theorem Refined.work {session : Session Path Time} (refined : Refined session) (walk : Walk Path Time) :
    Refined (session.work walk) := by
  have worked := work_cases session walk
  generalize session.work walk = after at worked
  have events := refined.events
  have snapshot := refined.snapshot
  cases worked with
  | rested => exact refined
  | slept found | woke found =>
    rw [pending, found] at events
    rw [latest, found] at snapshot
    exact ⟨events, snapshot⟩
  | left found between ended =>
    rcases between with rfl | rfl
    · rw [pending, found] at events
      rw [latest, found] at snapshot
      exact ⟨events, snapshot⟩
    · rw [pending, found] at events
      rw [latest, found] at snapshot
      exact ⟨events, snapshot⟩
  | failed found built =>
    have walked := refined.walked found walk
    rw [pass, built] at walked
    exact ⟨walked.1, walked.2⟩
  | listed found built =>
    have walked := refined.walked found walk
    have taken : ∀ current, session.monitor.buildSnapshot walk = .ok current →
        (session.monitor.pass walk).1.snapshot = current := by
      intro current built
      rw [pass, built]
      rfl
    exact ⟨walked.1, (taken _ built).symm.trans walked.2⟩
  | called found =>
    rw [pending, found] at events
    rw [latest, found] at snapshot
    exact ⟨(List.append_assoc session.reported _ _).trans events, snapshot⟩
  | kept found =>
    rw [pending, found] at events
    rw [latest, found] at snapshot
    exact ⟨events, snapshot⟩

theorem Refined.controlStep {session : Session Path Time} (refined : Refined session) (sound : Sound session)
    (walk : Walk Path Time) : Refined (session.controlStep walk) := by
  obtain ⟨monitor, worker, control, opened, walks, reported⟩ := session
  obtain ⟨events, snapshot⟩ := refined
  unfold Sound at sound
  dsimp only at sound
  generalize monitor.running = running at sound
  cases sound with
  | stopped | watching => exact ⟨events, snapshot⟩
  | building =>
    rw [Session.controlStep]
    dsimp only
    split
    · exact ⟨events, snapshot⟩
    · exact ⟨rfl, rfl⟩
  | spawning => exact ⟨events, snapshot⟩
  | requesting point => cases point <;> exact ⟨events, snapshot⟩
  | joining point => cases point <;> exact ⟨events, snapshot⟩

theorem Refined.preserved {session : Session Path Time} (refined : Refined session) (sound : Sound session)
    (move : Move Path Time) : Refined (session.step move) := by
  have ⟨events, snapshot⟩ := refined
  cases move with
  | start =>
    rw [step, beginStart]
    split <;> exact ⟨events, snapshot⟩
  | stop =>
    rw [step, beginStop]
    split <;> exact ⟨events, snapshot⟩
  | control walk => exact refined.controlStep sound walk
  | work walk => exact refined.work walk

theorem run_sound (root : Text) (callback : Bool) (moves : List (Move Path Time)) :
    let session := run step { monitor := { root, callback } } moves
    Sound session ∧ Refined session := by
  have start : Sound ({ monitor := { root, callback } } : Session Path Time) ∧
      Refined ({ monitor := { root, callback } } : Session Path Time) := ⟨.stopped, rfl, rfl⟩
  have preserved : ∀ (session : Session Path Time) (move : Move Path Time),
      Sound session ∧ Refined session → Sound (session.step move) ∧ Refined (session.step move) :=
    fun session move holds => ⟨holds.1.preserved move, holds.2.preserved holds.1 move⟩
  exact run_invariant preserved start moves

/-- `Stop` has returned, or `Start` was never called or has failed. -/
def Stopped (session : Session Path Time) : Prop := session.control = .idle ∧ session.monitor.running = false

omit [DecidableEq Path] [DecidableEq Time] in
theorem Sound.stopped {session : Session Path Time} (sound : Sound session) (stopped : Stopped session) :
    session.worker = none := by
  unfold Sound at sound
  rw [stopped.1, stopped.2] at sound
  cases worker : session.worker with
  | none => rfl
  | some worker' =>
    rw [worker] at sound
    cases sound

theorem Stopped.quiet {session : Session Path Time} (stopped : Stopped session) (none : session.worker = none)
    {moves : List (Move Path Time)} (unstarted : .start ∉ moves) : run step session moves = session := by
  apply run_of_forall_same
  intro move member
  cases move with
  | start => exact absurd member unstarted
  | stop => rw [step, beginStop, if_pos (Or.inr (by rw [stopped.2]; rfl))]
  | control walk => rw [step, Session.controlStep, stopped.1]
  | work walk => rw [step, Session.work, none]

/-- Whatever the interleaving, the callback is given the events of the passes
since the last `Start`, in their order. When `Stop` has returned it was given
all of them, and it is given none until the next `Start`. -/
theorem monitor_reports_passes (root : Text) (callback : Bool) (moves : List (Move Path Time)) :
    let session := run step { monitor := { root, callback } } moves
    session.reported ++ session.pending = outputs pass session.base session.walks ∧
      (Stopped session → session.reported = outputs pass session.base session.walks ∧
        ∀ later, .start ∉ later → run step session later = session) := by
  intro session
  obtain ⟨sound, refined⟩ := run_sound root callback moves
  refine ⟨refined.events, fun stopped => ?_⟩
  have none := sound.stopped stopped
  refine ⟨?_, fun later => stopped.quiet none⟩
  have events := refined.events
  rw [pending, none, List.append_nil] at events
  exact events

/-! ## `Stop` returns -/

theorem work_control (session : Session Path Time) (walk : Walk Path Time) :
    (session.work walk).control = session.control := by
  have worked := work_cases session walk
  generalize session.work walk = after at worked
  cases worked <;> rfl

def works (walks : Nat → Walk Path Time) (count : Nat) : List (Move Path Time) :=
  (List.range count).map fun index => .work (walks index)

theorem run_works_succ (session : Session Path Time) (walks : Nat → Walk Path Time) (count : Nat) :
    run step session (works walks (count + 1)) =
      run step (session.work (walks 0)) (works (fun index => walks (index + 1)) count) := by
  rw [works, List.range_succ_eq_map, List.map_cons, List.map_map]
  rfl

/-- However the directory changes, enough steps of the worker finish it. -/
def Finishes (session : Session Path Time) : Prop :=
  ∀ walks : Nat → Walk Path Time, ∃ count, (run step session (works walks count)).worker = some ⟨true, .finished⟩ ∧
    (run step session (works walks count)).control = session.control

theorem Finishes.of_next {session : Session Path Time} (next : ∀ walk, Finishes (session.work walk)) :
    Finishes session := by
  intro walks
  obtain ⟨count, finished, control⟩ := next (walks 0) fun index => walks (index + 1)
  refine ⟨count + 1, ?_, ?_⟩
  · rw [run_works_succ, finished]
  · rw [run_works_succ, control, work_control]

theorem finishes_of_requested {session : Session Path Time} {point : WorkerPoint Path Time}
    (found : session.worker = some ⟨true, point⟩) : Finishes session := by
  have finished : ∀ {session : Session Path Time}, session.worker = some ⟨true, .finished⟩ → Finishes session :=
    fun found _ => ⟨0, found, rfl⟩
  have testing : ∀ {session : Session Path Time}, session.worker = some ⟨true, .testing⟩ → Finishes session := by
    intro session found
    refine .of_next fun walk => finished ?_
    rw [Session.work, found]
    rfl
  have reporting : ∀ (pending : List (FileSystemEvent Path)) {session : Session Path Time}
      {current : Table Path Time}, session.worker = some ⟨true, .reporting pending current⟩ → Finishes session := by
    intro pending
    induction pending with
    | nil =>
      intro session current found
      refine .of_next fun walk => testing ?_
      rw [Session.work, found]
    | cons event later ih =>
      intro session current found
      refine .of_next fun walk => ?_
      have reported : (session.work walk).worker = some ⟨true, .reporting later current⟩ := by
        rw [Session.work, found]
      exact ih reported
  cases point with
  | finished => exact finished found
  | testing => exact testing found
  | sleeping =>
    refine .of_next fun walk => finished ?_
    rw [Session.work, found]
    rfl
  | walking =>
    refine .of_next fun walk => ?_
    have worked : (session.work walk).worker = some ⟨true,
        match session.monitor.buildSnapshot walk with
        | .error _ => .testing
        | .ok current => .reporting (session.monitor.pass walk).2 current⟩ := by
      rw [Session.work, found]
    split at worked
    · exact testing worked
    · exact reporting _ worked
  | reporting pending current => exact reporting pending found

def Joining (session : Session Path Time) : Prop := session.control = .joining

omit [DecidableEq Time] in
theorem Sound.joined {session : Session Path Time} (sound : Sound session) (joining : Joining session)
    (finished : session.worker = some ⟨true, .finished⟩) (walk : Walk Path Time) :
    Stopped (session.controlStep walk) := by
  obtain ⟨⟨root, callback, running, snapshot⟩, worker, control, opened, walks, reported⟩ := session
  cases joining
  cases finished
  cases sound with
  | joining => exact ⟨rfl, rfl⟩

omit [DecidableEq Path] [DecidableEq Time] in
theorem Sound.asked {session : Session Path Time} (sound : Sound session) (joining : Joining session) :
    ∃ point, session.worker = some ⟨true, point⟩ := by
  obtain ⟨⟨root, callback, running, snapshot⟩, worker, control, opened, walks, reported⟩ := session
  cases joining
  cases sound with
  | joining point => exact ⟨point, rfl⟩

/-- In every run a `Stop` that waits returns after some more steps of the worker,
whatever the directory shows it, and leaves the monitor stopped. -/
theorem stop_returns (root : Text) (callback : Bool) (moves : List (Move Path Time))
    (joining : Joining (run step { monitor := { root, callback } } moves)) (walks : Nat → Walk Path Time) :
    ∃ count, Stopped (run step { monitor := { root, callback } }
      (moves ++ works walks count ++ [.control (walks count)])) := by
  obtain ⟨sound, -⟩ := run_sound root callback moves
  obtain ⟨point, found⟩ := sound.asked joining
  obtain ⟨count, finished, control⟩ := finishes_of_requested found walks
  obtain ⟨sound', -⟩ := run_sound root callback (moves ++ works walks count)
  refine ⟨count, ?_⟩
  rw [run_append] at sound'
  rw [run_append, run_append]
  exact sound'.joined (control.trans joining) finished (walks count)

/-- A `Stop` that is called while the worker reports waits for the rest of the pass. -/
theorem stop_returns_within_pass : ∃ count, Stopped (run step { monitor := { root := [], callback := true } }
    ([.start, .control (.entries []), .control (.entries []), .work (.entries []), .work (.entries []),
      .work (.entries [((1 : Nat), some (7 : Nat))]), .stop, .control (.entries [])] ++
      works (fun _ => .entries []) count ++ [.control (.entries [])])) :=
  stop_returns [] true _ (by rfl) fun _ => .entries []

end Session

end DevilzDen.Backend.FileSystemMonitor
