import DevilzDen.Foundation.Run
import DevilzDen.Foundation.Table
import DevilzDen.Backend.Error

/-! The file system monitor: a directory's entries, compared at each poll with the last ones seen.

A snapshot's entries stand in the order in which an iteration meets them, so
every order is covered. What a walk through the directory shows is a parameter.
-/

set_option autoImplicit false

namespace DevilzDen.Backend

open Foundation

inductive FileSystemEventType where
  | created
  | modified
  | removed
  deriving DecidableEq, Repr

structure FileSystemEvent (Path : Type) where
  type : FileSystemEventType
  path : Path
  deriving DecidableEq, Repr

/-- The directory as one walk through it shows it, with the operating system's code where it breaks off. -/
inductive Walk (Path Time : Type) where
  | notDirectory (code : UInt32)
  | interrupted (code : UInt32)
  | entries (listed : List (Path × Option Time))

structure FileSystemMonitor (Path Time : Type) where
  root : Text
  /-- Whether a callback was given. -/
  callback : Bool
  running : Bool := false
  snapshot : Table Path Time := ∅

namespace FileSystemMonitor

variable {Path Time : Type} [DecidableEq Path]

/-- Entries whose time cannot be read are left out. -/
def buildSnapshot (monitor : FileSystemMonitor Path Time) : Walk Path Time → Result (Table Path Time)
  | .notDirectory code => .error ((Error.fromWin32 .directoryOpenFailed .filesystem code
      "Unable to monitor directory").withContext "Path" monitor.root)
  | .interrupted code => .error ((Error.fromWin32 .directoryOpenFailed .filesystem code
      "Filesystem snapshot failed").withContext "Path" monitor.root)
  | .entries listed => .ok (listed.foldl
      (fun snapshot entry => entry.2.elim snapshot fun time => snapshot.insert entry.1 time) ∅)

def start (monitor : FileSystemMonitor Path Time) (built : Result (Table Path Time)) :
    Result Unit × FileSystemMonitor Path Time :=
  if monitor.running then (.ok (), monitor)
  else
    match built with
    | .error error => (.error error, monitor)
    | .ok snapshot => (.ok (), { monitor with running := true, snapshot })

def stop (monitor : FileSystemMonitor Path Time) : FileSystemMonitor Path Time :=
  { monitor with running := false }

/-- The second loop of `Worker`: through the previous entries. -/
def vanished (previous current : Table Path Time) : List (FileSystemEvent Path) :=
  (previous.keys.filter (· ∉ current)).map fun path => { type := .removed, path }

variable [DecidableEq Time]

def appearance (previous : Table Path Time) (path : Path) (time : Time) : Option (FileSystemEvent Path) :=
  match previous.lookup path with
  | none => some { type := .created, path }
  | some before => if before ≠ time then some { type := .modified, path } else none

def appeared (previous current : Table Path Time) : List (FileSystemEvent Path) :=
  current.entries.filterMap fun entry => appearance previous entry.1 entry.2

/-- What a pass of `Worker` does with the outcome of its snapshot, and the events that reach the callback. -/
def poll (monitor : FileSystemMonitor Path Time) (built : Result (Table Path Time)) :
    FileSystemMonitor Path Time × List (FileSystemEvent Path) :=
  match built with
  | .error _ => (monitor, [])
  | .ok current =>
      ({ monitor with snapshot := current },
        if monitor.callback then
          appeared monitor.snapshot current ++ vanished monitor.snapshot current
        else [])

def pass (monitor : FileSystemMonitor Path Time) (walk : Walk Path Time) :
    FileSystemMonitor Path Time × List (FileSystemEvent Path) :=
  monitor.poll (monitor.buildSnapshot walk)

/-! ## What there is to report -/

omit [DecidableEq Time] in
def Reports (previous current : Table Path Time) (event : FileSystemEvent Path) : Prop :=
  match event.type with
  | .created => event.path ∉ previous ∧ event.path ∈ current
  | .modified => ∃ before ∈ previous.lookup event.path, ∃ after ∈ current.lookup event.path, before ≠ after
  | .removed => event.path ∈ previous ∧ event.path ∉ current

instance decidableReports (previous current : Table Path Time) : DecidablePred (Reports previous current)
  | ⟨.created, path⟩ => inferInstanceAs (Decidable (path ∉ previous ∧ path ∈ current))
  | ⟨.modified, path⟩ => inferInstanceAs (Decidable
      (∃ before ∈ previous.lookup path, ∃ after ∈ current.lookup path, before ≠ after))
  | ⟨.removed, path⟩ => inferInstanceAs (Decidable (path ∈ previous ∧ path ∉ current))

theorem appearance_eq_some {previous : Table Path Time} {path : Path} {time : Time}
    {event : FileSystemEvent Path} (reported : appearance previous path time = some event) :
    event.path = path := by
  unfold appearance at reported
  split at reported
  · cases reported
    rfl
  · split at reported
    · cases reported
      rfl
    · exact nomatch reported

theorem appearance_iff {previous current : Table Path Time} {path : Path} {time : Time}
    (found : current.lookup path = some time) (type : FileSystemEventType) :
    appearance previous path time = some { type, path } ↔
      type ≠ .removed ∧ Reports previous current { type, path } := by
  have present : path ∈ current := AList.lookup_isSome.mp (by rw [found]; rfl)
  cases seen : previous.lookup path with
  | none =>
    have absent : path ∉ previous := AList.lookup_eq_none.mp seen
    cases type <;> simp [appearance, Reports, seen, absent, present]
  | some before =>
    have known : path ∈ previous := AList.lookup_isSome.mp (by rw [seen]; rfl)
    by_cases same : before = time
    · cases type <;> simp [appearance, Reports, seen, found, same, known]
    · cases type <;> simp [appearance, Reports, seen, found, same, known]

theorem mem_appeared {previous current : Table Path Time} {event : FileSystemEvent Path} :
    event ∈ appeared previous current ↔ event.type ≠ .removed ∧ Reports previous current event := by
  obtain ⟨type, path⟩ := event
  simp only [appeared, List.mem_filterMap, Sigma.exists]
  constructor
  · intro ⟨other, time, listed, reported⟩
    obtain rfl : path = other := appearance_eq_some reported
    exact (appearance_iff (AList.mem_lookup_iff.mpr listed) type).mp reported
  · intro ⟨notRemoved, reports⟩
    have present : path ∈ current := by
      cases type with
      | created => exact reports.2
      | modified =>
        obtain ⟨_, _, time, found, _⟩ := reports
        exact AList.lookup_isSome.mp (Option.isSome_iff_exists.mpr ⟨time, found⟩)
      | removed => exact absurd rfl notRemoved
    obtain ⟨time, found⟩ := Option.isSome_iff_exists.mp (AList.lookup_isSome.mpr present)
    exact ⟨path, time, AList.mem_lookup_iff.mp found,
      (appearance_iff found type).mpr ⟨notRemoved, reports⟩⟩

omit [DecidableEq Time] in
theorem mem_vanished {previous current : Table Path Time} {event : FileSystemEvent Path} :
    event ∈ vanished previous current ↔ event.type = .removed ∧ Reports previous current event := by
  obtain ⟨type, path⟩ := event
  cases type <;> simp [vanished, Reports, AList.mem_keys]

theorem appeared_nodup (previous current : Table Path Time) : (appeared previous current).Nodup := by
  have distinct := List.nodupKeys_iff_pairwise.mp current.nodupKeys
  refine List.Pairwise.filterMap _ ?_ distinct
  intro entry other different event fromEntry event' fromOther same
  -- an event carries the path of its entry
  apply different
  rw [← appearance_eq_some fromEntry, ← appearance_eq_some fromOther, same]

omit [DecidableEq Time] in
theorem vanished_nodup (previous current : Table Path Time) : (vanished previous current).Nodup :=
  (previous.keys_nodup.filter _).map fun _ _ same => congrArg FileSystemEvent.path same

theorem mem_events {previous current : Table Path Time} {event : FileSystemEvent Path} :
    event ∈ appeared previous current ++ vanished previous current ↔ Reports previous current event := by
  rw [List.mem_append, mem_appeared, mem_vanished, ← or_and_right]
  exact and_iff_right (ne_or_eq _ _)

theorem count_events (previous current : Table Path Time) (event : FileSystemEvent Path) :
    (appeared previous current ++ vanished previous current).count event =
      if Reports previous current event then 1 else 0 := by
  have apart : (appeared previous current).Disjoint (vanished previous current) :=
    fun _ first second => (mem_appeared.mp first).1 (mem_vanished.mp second).1
  have nodup := (appeared_nodup previous current).append (vanished_nodup previous current) apart
  rw [nodup.count]
  simp only [mem_events]

/-! ## Runs -/

/-- What a run of polls compares with: the last snapshot that could be taken. -/
def lastSnapshot (start : Table Path Time) (polls : List (Result (Table Path Time))) : Table Path Time :=
  (polls.filterMap Except.toOption).getLast?.getD start

def applyEvent (paths : Set Path) (event : FileSystemEvent Path) : Set Path :=
  match event.type with
  | .created => insert event.path paths
  | .modified => paths
  | .removed => paths \ {event.path}

omit [DecidableEq Path] [DecidableEq Time] in
/-- Where no path is both created and removed, the order of the events does not matter. -/
theorem mem_applyEvents {events : List (FileSystemEvent Path)} {path : Path}
    (consistent : { type := .created, path } ∈ events → { type := .removed, path } ∉ events)
    (paths : Set Path) :
    path ∈ events.foldl applyEvent paths ↔
      { type := .created, path } ∈ events ∨ path ∈ paths ∧ { type := .removed, path } ∉ events := by
  induction events generalizing paths with
  | nil => simp
  | cons event rest ih =>
    have later : { type := .created, path } ∈ rest → { type := .removed, path } ∉ rest :=
      fun created removed => consistent (List.mem_cons_of_mem _ created) (List.mem_cons_of_mem _ removed)
    rw [List.foldl_cons, ih later]
    obtain ⟨type, other⟩ := event
    by_cases same : path = other
    · subst same
      cases type <;> simp [applyEvent] at consistent ⊢
      all_goals tauto
    · cases type <;> simp [applyEvent, same]

theorem applyEvents_poll (monitor : FileSystemMonitor Path Time) (callback : monitor.callback = true)
    (built : Result (Table Path Time)) :
    (monitor.poll built).2.foldl applyEvent {path | path ∈ monitor.snapshot} =
      {path | path ∈ (monitor.poll built).1.snapshot} := by
  cases built with
  | error error => rfl
  | ok current =>
    simp only [poll, callback, if_true]
    ext path
    -- a path that is created was not there before, one that is removed was
    have consistent :
        { type := .created, path } ∈ appeared monitor.snapshot current ++ vanished monitor.snapshot current →
        { type := .removed, path } ∉ appeared monitor.snapshot current ++ vanished monitor.snapshot current := by
      rw [mem_events, mem_events]
      exact fun created removed => created.1 removed.1
    rw [mem_applyEvents consistent, mem_events, mem_events]
    simp only [Reports, Set.mem_ofPred_eq]
    tauto

@[simp] theorem poll_callback (monitor : FileSystemMonitor Path Time) (built : Result (Table Path Time)) :
    (monitor.poll built).1.callback = monitor.callback := by
  cases built <;> rfl

theorem run_callback (monitor : FileSystemMonitor Path Time) (polls : List (Result (Table Path Time))) :
    (run (fun monitor built => (poll monitor built).1) monitor polls).callback = monitor.callback := by
  have preserved : ∀ (later : FileSystemMonitor Path Time) (built : Result (Table Path Time)),
      later.callback = monitor.callback → (later.poll built).1.callback = monitor.callback :=
    fun later built same => (poll_callback later built).trans same
  exact run_invariant preserved rfl polls

theorem run_snapshot (monitor : FileSystemMonitor Path Time) (polls : List (Result (Table Path Time))) :
    (run (fun monitor built => (poll monitor built).1) monitor polls).snapshot =
      lastSnapshot monitor.snapshot polls := by
  induction polls generalizing monitor with
  | nil => rfl
  | cons built rest ih =>
    rw [run_cons, ih]
    cases built with
    | error error => rfl
    | ok current => simp [lastSnapshot, poll, Except.toOption, List.getLast?_cons]

omit [DecidableEq Time] in
theorem lookup_buildSnapshot {monitor : FileSystemMonitor Path Time} {listed : List (Path × Option Time)}
    {snapshot : Table Path Time} (built : monitor.buildSnapshot (.entries listed) = .ok snapshot) (path : Path) :
    snapshot.lookup path = listed.reverse.findSome? fun entry => if path = entry.1 then entry.2 else none := by
  cases built
  induction listed using List.reverseRecOn with
  | nil => rfl
  | append_singleton earlier entry ih =>
    obtain ⟨other, time⟩ := entry
    rw [List.foldl_append, List.foldl_cons, List.foldl_nil, List.reverse_append, List.reverse_singleton,
      List.singleton_append, List.findSome?_cons, ← ih]
    cases time with
    | none => simp
    | some time => by_cases same : path = other <;> simp [Table.lookup_insert_eq, same]

theorem run_pass (monitor : FileSystemMonitor Path Time) (walks : List (Walk Path Time)) :
    run (fun monitor walk => (pass monitor walk).1) monitor walks =
        run (fun monitor built => (poll monitor built).1) monitor (walks.map monitor.buildSnapshot) ∧
      outputs pass monitor walks = outputs poll monitor (walks.map monitor.buildSnapshot) := by
  induction walks generalizing monitor with
  | nil => exact ⟨rfl, rfl⟩
  | cons walk rest ih =>
    -- the root that a failure names stays the same
    have root : (monitor.pass walk).1.buildSnapshot = monitor.buildSnapshot := by
      unfold pass poll
      cases monitor.buildSnapshot walk <;> rfl
    obtain ⟨last, events⟩ := ih (monitor.pass walk).1
    rw [root] at last events
    rw [run_cons, outputs, last, events, List.map_cons, run_cons, outputs]
    exact ⟨rfl, rfl⟩

/-- From `Start` on, each poll reports its differences to the last snapshot that
could be taken, once each, and all of them together lead to the last one. -/
theorem events_exact (monitor : FileSystemMonitor Path Time) (callback : monitor.callback = true)
    (idle : monitor.running = false) (initial : Table Path Time) (polls : List (Result (Table Path Time))) :
    let started := (monitor.start (.ok initial)).2
    (∀ earlier built later, polls = earlier ++ built :: later →
      let before := run (fun monitor built => (poll monitor built).1) started earlier
      match built with
      | .error _ => before.poll built = (before, [])
      | .ok current => ∀ event, (before.poll built).2.count event =
          if Reports (lastSnapshot initial earlier) current event then 1 else 0) ∧
    (outputs poll started polls).foldl applyEvent {path | path ∈ initial} =
      {path | path ∈ lastSnapshot initial polls} := by
  intro started
  have begun : started = { monitor with running := true, snapshot := initial } := by
    simp [started, start, idle]
  have called : started.callback = true := by rw [begun, callback]
  have baseline : ∀ done, (run (fun monitor built => (poll monitor built).1) started done).snapshot =
      lastSnapshot initial done := by
    intro done
    rw [run_snapshot, begun]
  constructor
  · intro earlier built later _ before
    cases built with
    | error error => rfl
    | ok current =>
      intro event
      have heard : before.callback = true := (run_callback started earlier).trans called
      simp only [poll, heard, if_true]
      rw [count_events, baseline]
  · have replayed := replay_outputs (fun monitor => {path | path ∈ monitor.snapshot}) applyEvent
      (fun later built heard => (poll_callback later built).trans heard)
      (fun later built heard => applyEvents_poll later heard built) called polls
    rw [baseline] at replayed
    rw [← replayed, begun]

theorem events_exact_recreated :
    let monitor : FileSystemMonitor Nat Nat := { root := text "watched", callback := true }
    let initial : Table Nat Nat := AList.singleton 1 10
    let polls := [.ok (AList.singleton 2 20), .error (Error.runtime "busy"),
      .ok ((AList.singleton 1 11).insert 2 21)]
    outputs poll (monitor.start (.ok initial)).2 polls =
      [⟨.created, 2⟩, ⟨.removed, 1⟩, ⟨.modified, 2⟩, ⟨.created, 1⟩] ∧
    (outputs poll (monitor.start (.ok initial)).2 polls).foldl applyEvent {path | path ∈ initial} =
      {path | path ∈ lastSnapshot initial polls} := by
  intro monitor initial polls
  exact ⟨by decide, (events_exact monitor rfl rfl initial polls).2⟩

end FileSystemMonitor

end DevilzDen.Backend
