import DevilzDen.Backend.Filesystem.FileSystemMonitor
import DevilzDen.Foundation.Threads

/-! The manager of the file system monitors, with any number of calls on it under way.

A move is one thread's next atomic step: a section under the lock, or one `Stop`
or one destruction outside it. A pointer to a monitor is its place among all
monitors made so far, so it outlives the monitor, as a raw pointer does. The
order of the map's iteration is a parameter.
-/

set_option autoImplicit false

namespace DevilzDen.Backend

open Foundation

abbrev MonitorPointer := Nat

structure FileSystemMonitorManager (Path Time : Type) where
  monitors : Table Text MonitorPointer := ∅
  made : List (FileSystemMonitor Path Time) := []
  destroyed : List MonitorPointer := []
  /-- The destroyed monitors on which `StopAll` called `Stop`. -/
  touched : List MonitorPointer := []

namespace FileSystemMonitorManager

variable {Path Time : Type}

def monitorError (message : String) : Error :=
  { code := .directoryOpenFailed, category := .filesystem, message := text message }

def add (manager : FileSystemMonitorManager Path Time) (name root : Text) (callback : Bool) :
    Result Unit × FileSystemMonitorManager Path Time :=
  if name = [] then (.error (monitorError "Monitor requires a name"), manager)
  else if name ∈ manager.monitors then
    (.error ((monitorError "Filesystem monitor already exists").withContext "Monitor" name), manager)
  else
    (.ok (), { manager with
      monitors := manager.monitors.insert name manager.made.length
      made := manager.made ++ [{ root, callback }] })

def notFound (name : Text) : Error := (monitorError "Filesystem monitor not found").withContext "Monitor" name

/-- Where a call stands. `Start` keeps the lock while it walks through the directory. -/
inductive CallPoint (Path Time : Type) where
  | adding (name root : Text) (callback : Bool)
  | starting (name : Text) (walk : Walk Path Time)
  | removing (name : Text)
  | stopping (monitor : MonitorPointer)
  | destroying (monitor : MonitorPointer)
  | stoppingAll
  | stoppingEach (monitors : List MonitorPointer)
  | returned (result : Result Unit)

variable [DecidableEq Path]

def start (manager : FileSystemMonitorManager Path Time) (name : Text) (walk : Walk Path Time) :
    Result Unit × FileSystemMonitorManager Path Time :=
  match manager.monitors.lookup name with
  | none => (.error (notFound name), manager)
  | some pointer =>
      match manager.made[pointer]? with
      | none => (.error (notFound name), manager) -- not reached: what is in the map was made
      | some monitor =>
          let (result, monitor) := monitor.start (monitor.buildSnapshot walk)
          (result, { manager with made := manager.made.set pointer monitor })

def stop (manager : FileSystemMonitorManager Path Time) (pointer : MonitorPointer) :
    FileSystemMonitorManager Path Time :=
  { manager with made := manager.made.modify pointer FileSystemMonitor.stop }

def advance (iteration : Iteration Text MonitorPointer) (manager : FileSystemMonitorManager Path Time) :
    CallPoint Path Time → FileSystemMonitorManager Path Time × CallPoint Path Time
  | .adding name root callback =>
      let (result, manager) := manager.add name root callback
      (manager, .returned result)
  | .starting name walk =>
      let (result, manager) := manager.start name walk
      (manager, .returned result)
  | .removing name =>
      match manager.monitors.lookup name with
      | none => (manager, .returned (.error (notFound name)))
      | some monitor => ({ manager with monitors := manager.monitors.erase name }, .stopping monitor)
  | .stopping monitor => (manager.stop monitor, .destroying monitor)
  -- the owner goes out of scope
  | .destroying monitor => ({ manager with destroyed := manager.destroyed ++ [monitor] }, .returned (.ok ()))
  | .stoppingAll => (manager, .stoppingEach (iteration.values manager.monitors))
  | .stoppingEach [] => (manager, .stoppingEach [])
  | .stoppingEach (monitor :: later) =>
      if monitor ∈ manager.destroyed then
        ({ manager with touched := manager.touched ++ [monitor] }, .stoppingEach later)
      else (manager.stop monitor, .stoppingEach later)
  | .returned result => (manager, .returned result)

structure Session (Path Time : Type) where
  manager : FileSystemMonitorManager Path Time := {}
  calls : List (CallPoint Path Time) := []

inductive Move (Path Time : Type) where
  | add (name root : Text) (callback : Bool)
  | start (name : Text) (walk : Walk Path Time)
  | remove (name : Text)
  | stopAll
  | call (index : Nat)

def step (iteration : Iteration Text MonitorPointer) (session : Session Path Time) :
    Move Path Time → Session Path Time
  | .add name root callback => { session with calls := session.calls ++ [.adding name root callback] }
  | .start name walk => { session with calls := session.calls ++ [.starting name walk] }
  | .remove name => { session with calls := session.calls ++ [.removing name] }
  | .stopAll => { session with calls := session.calls ++ [.stoppingAll] }
  | .call index =>
      match session.calls[index]? with
      | none => session
      | some point =>
          let (manager, next) := session.manager.advance iteration point
          { manager, calls := session.calls.set index next }

def Safe (session : Session Path Time) : Prop := session.manager.touched = []

instance decidableSafe (session : Session Path Time) : Decidable (Safe session) :=
  inferInstanceAs (Decidable (_ = []))

/-! ## Where the monitors are -/

/-- The monitor that a call of `Remove` has taken out of the map. -/
def CallPoint.owns : CallPoint Path Time → List MonitorPointer
  | .stopping monitor | .destroying monitor => [monitor]
  | _ => []

/-- Those that a call of `StopAll` has still to stop. -/
def CallPoint.pending : CallPoint Path Time → List MonitorPointer
  | .stoppingEach monitors => monitors
  | _ => []

/-- What the manager itself accounts for. -/
def places (manager : FileSystemMonitorManager Path Time) : List MonitorPointer :=
  manager.monitors.values ++ manager.destroyed

/-- Each monitor that was made is in the map, in the hands of a `Remove`, or destroyed, and once. -/
def Placed (session : Session Path Time) : Prop :=
  (session.manager.places ++ Threads.held CallPoint.owns session.calls).Perm
    (List.range session.manager.made.length)

theorem advance_places (iteration : Iteration Text MonitorPointer) (manager : FileSystemMonitorManager Path Time)
    (point : CallPoint Path Time) :
    ∃ fresh,
      List.range (manager.advance iteration point).1.made.length = List.range manager.made.length ++ fresh ∧
        ((manager.advance iteration point).1.places ++ (manager.advance iteration point).2.owns).Perm
          (manager.places ++ fresh ++ point.owns) := by
  cases point with
  | adding name root callback =>
    simp only [advance, add]
    split
    · exact ⟨[], by simp [CallPoint.owns]⟩
    · split
      · exact ⟨[], by simp [CallPoint.owns]⟩
      next absent =>
        refine ⟨[manager.made.length], by simp [List.range_succ], ?_⟩
        have absent := AList.lookup_eq_none.mpr absent
        simp only [places, Table.values_insert_of_absent absent, CallPoint.owns, List.append_nil, List.cons_append]
        exact List.perm_append_singleton _ _ |>.symm
  | starting name walk =>
    simp only [advance, start]
    split
    · exact ⟨[], by simp [CallPoint.owns]⟩
    · split
      · exact ⟨[], by simp [CallPoint.owns]⟩
      · exact ⟨[], by simp [CallPoint.owns, places]⟩
  | removing name =>
    simp only [advance]
    split
    · exact ⟨[], by simp [CallPoint.owns]⟩
    next monitor found =>
      refine ⟨[], by simp, ?_⟩
      have erased := (Table.values_erase_perm found).append_right manager.destroyed
      simp only [places, CallPoint.owns, List.append_nil]
      exact (List.perm_append_singleton _ _).trans erased
  | stopping monitor => exact ⟨[], by simp [advance, stop, CallPoint.owns, places]⟩
  | destroying monitor => exact ⟨[], by simp [advance, CallPoint.owns, places]⟩
  | stoppingAll => exact ⟨[], by simp [advance, CallPoint.owns]⟩
  | stoppingEach monitors =>
    cases monitors with
    | nil => exact ⟨[], by simp [advance, CallPoint.owns]⟩
    | cons monitor later =>
      simp only [advance]
      split <;> exact ⟨[], by simp [stop, CallPoint.owns, places]⟩
  | returned result => exact ⟨[], by simp [advance, CallPoint.owns]⟩

inductive Stepped (iteration : Iteration Text MonitorPointer) (session : Session Path Time) :
    Move Path Time → Session Path Time → Prop where
  | called {move : Move Path Time} (point : CallPoint Path Time) (owns : point.owns = [])
      (pending : point.pending = []) :
      Stepped iteration session move { session with calls := session.calls ++ [point] }
  | absent (index : Nat) : Stepped iteration session (.call index) session
  | advanced {index : Nat} {point : CallPoint Path Time} (found : session.calls[index]? = some point) :
      Stepped iteration session (.call index)
        { manager := (session.manager.advance iteration point).1
          calls := session.calls.set index (session.manager.advance iteration point).2 }

theorem step_cases (iteration : Iteration Text MonitorPointer) (session : Session Path Time)
    (move : Move Path Time) : Stepped iteration session move (step iteration session move) := by
  cases move with
  | add name root callback => exact .called _ rfl rfl
  | start name walk => exact .called _ rfl rfl
  | remove name => exact .called _ rfl rfl
  | stopAll => exact .called _ rfl rfl
  | call index =>
    rw [step]
    split
    · exact .absent index
    next point found => exact .advanced found

theorem Placed.preserved {iteration : Iteration Text MonitorPointer} {session : Session Path Time}
    (placed : Placed session) (move : Move Path Time) : Placed (step iteration session move) := by
  have stepped := step_cases iteration session move
  generalize step iteration session move = after at stepped
  cases stepped with
  | called point owns =>
    have same : Threads.held CallPoint.owns (session.calls ++ [point]) =
        Threads.held CallPoint.owns session.calls := by
      simp [Threads.held, owns]
    rw [Placed, same]
    exact placed
  | absent => exact placed
  | @advanced index point found =>
    obtain ⟨fresh, range, balance⟩ := advance_places iteration session.manager point
    have held := Threads.held_set_perm CallPoint.owns found balance
    have before := placed.append_right fresh
    rw [Placed]
    dsimp only
    rw [range]
    apply held.trans
    refine List.Perm.trans ?_ before
    simp only [List.append_assoc]
    exact List.perm_append_comm.append_left _

omit [DecidableEq Path] in
theorem Placed.not_mem_destroyed {session : Session Path Time} (placed : Placed session) {monitor : MonitorPointer}
    (registered : monitor ∈ session.manager.monitors.values) : monitor ∉ session.manager.destroyed := by
  have nodup := placed.nodup_iff.mpr List.nodup_range
  have apart := (List.nodup_append.mp (List.nodup_append.mp nodup).1).2.2
  exact fun gone => apart monitor registered monitor gone rfl

/-! ## What `StopAll` meets -/

def CallPoint.destroys : CallPoint Path Time → Option MonitorPointer
  | .destroying monitor => some monitor
  | _ => none

/-- A monitor is destroyed when no `StopAll` that is under way has still to stop it. -/
def Respects (session : Session Path Time) : Move Path Time → Prop
  | .call index => ∀ monitor ∈ session.calls[index]?.bind CallPoint.destroys,
      ∀ call ∈ session.calls, monitor ∉ call.pending
  | _ => True

instance decidableRespects (session : Session Path Time) : ∀ move, Decidable (Respects session move)
  | .call _ => inferInstanceAs (Decidable (∀ monitor ∈ _, ∀ call ∈ _, monitor ∉ CallPoint.pending call))
  | .add .. | .start .. | .remove _ | .stopAll => isTrue trivial

/-- The invariant of the runs in which destructions respect the pointers of `StopAll`. -/
structure Spared (session : Session Path Time) : Prop where
  placed : Placed session
  live : ∀ call ∈ session.calls, ∀ monitor ∈ call.pending, monitor ∉ session.manager.destroyed
  safe : Safe session

inductive Advanced (iteration : Iteration Text MonitorPointer) (manager : FileSystemMonitorManager Path Time) :
    CallPoint Path Time → FileSystemMonitorManager Path Time → CallPoint Path Time → Prop where
  | quiet {point next : CallPoint Path Time} {after : FileSystemMonitorManager Path Time}
      (destroyed : after.destroyed = manager.destroyed) (touched : after.touched = manager.touched)
      (fewer : next.pending ⊆ point.pending)
      (stopped : ∀ monitor ∈ point.pending, monitor ∈ manager.destroyed → monitor ∈ next.pending) :
      Advanced iteration manager point after next
  | copied : Advanced iteration manager .stoppingAll manager (.stoppingEach (iteration.values manager.monitors))
  | destroyed (monitor : MonitorPointer) : Advanced iteration manager (.destroying monitor)
      { manager with destroyed := manager.destroyed ++ [monitor] } (.returned (.ok ()))
  | touched {monitor : MonitorPointer} (gone : monitor ∈ manager.destroyed) (later : List MonitorPointer) :
      Advanced iteration manager (.stoppingEach (monitor :: later))
        { manager with touched := manager.touched ++ [monitor] } (.stoppingEach later)

theorem advance_cases (iteration : Iteration Text MonitorPointer) (manager : FileSystemMonitorManager Path Time)
    (point : CallPoint Path Time) :
    Advanced iteration manager point (manager.advance iteration point).1 (manager.advance iteration point).2 := by
  have none {point next : CallPoint Path Time} {after : FileSystemMonitorManager Path Time}
      (before : point.pending = []) (behind : next.pending = []) (destroyed : after.destroyed = manager.destroyed)
      (touched : after.touched = manager.touched) : Advanced iteration manager point after next := by
    refine .quiet destroyed touched ?_ ?_
    · rw [behind]
      exact List.nil_subset _
    · rw [before]
      exact fun _ member => nomatch member
  cases point with
  | adding name root callback =>
    refine none rfl rfl ?_ ?_ <;> simp only [advance, add] <;> repeat' split
    all_goals rfl
  | starting name walk =>
    refine none rfl rfl ?_ ?_ <;> simp only [advance, start] <;> repeat' split
    all_goals rfl
  | removing name =>
    simp only [advance]
    split <;> exact none rfl rfl rfl rfl
  | stopping monitor => exact none rfl rfl rfl rfl
  | destroying monitor => exact .destroyed monitor
  | stoppingAll => exact .copied
  | stoppingEach monitors =>
    cases monitors with
    | nil => exact none rfl rfl rfl rfl
    | cons monitor later =>
      simp only [advance]
      split
      next gone => exact .touched gone later
      next live =>
        refine .quiet rfl rfl (List.subset_cons_self _ _) fun other member gone => ?_
        rcases List.mem_cons.mp member with rfl | left
        · exact absurd gone live
        · exact left
  | returned result => exact none rfl rfl rfl rfl

omit [DecidableEq Path] in
theorem spared_start : Spared ({} : Session Path Time) := by
  refine ⟨List.Perm.refl _, fun call member => ?_, rfl⟩
  cases member

omit [DecidableEq Path] in
theorem Spared.call {iteration : Iteration Text MonitorPointer} {session : Session Path Time} {index : Nat}
    {point next : CallPoint Path Time} {manager : FileSystemMonitorManager Path Time} (spared : Spared session)
    (found : session.calls[index]? = some point) (respects : Respects session (.call index))
    (advanced : Advanced iteration session.manager point manager next) :
    (∀ call ∈ session.calls.set index next, ∀ monitor ∈ call.pending, monitor ∉ manager.destroyed) ∧
      manager.touched = [] := by
  have listed := List.mem_of_getElem? found
  have safe : session.manager.touched = [] := spared.safe
  cases advanced with
  | quiet destroyed touched fewer stopped =>
    rw [destroyed, touched]
    exact ⟨Threads.forall_set spared.live fun monitor pending => spared.live point listed monitor (fewer pending),
      safe⟩
  | copied =>
    refine ⟨Threads.forall_set spared.live fun monitor copied => ?_, safe⟩
    exact spared.placed.not_mem_destroyed ((iteration.enumerates_values _).mem_iff.mp copied)
  | destroyed monitor =>
    have unneeded : ∀ call ∈ session.calls, monitor ∉ call.pending := respects monitor (by rw [found]; rfl)
    refine ⟨Threads.forall_set (fun call member other pending gone => ?_) (fun _ none => nomatch none), safe⟩
    rcases List.mem_append.mp gone with before | now
    · exact spared.live call member other pending before
    · rw [List.mem_singleton.mp now] at pending
      exact unneeded call member pending
  | touched gone later => exact absurd gone (spared.live _ listed _ List.mem_cons_self)

theorem Spared.preserved {iteration : Iteration Text MonitorPointer} (session : Session Path Time)
    (move : Move Path Time) (spared : Spared session) (respects : Respects session move) :
    Spared (step iteration session move) := by
  have placed : Placed (step iteration session move) := spared.placed.preserved move
  have stepped := step_cases iteration session move
  generalize step iteration session move = after at placed stepped
  cases stepped with
  | called point _ none =>
    refine ⟨placed, fun call member monitor pending => ?_, spared.safe⟩
    rcases List.mem_append.mp member with old | new
    · exact spared.live call old monitor pending
    · rw [List.mem_singleton.mp new, none] at pending
      cases pending
  | absent => exact spared
  | advanced found =>
    obtain ⟨live, safe⟩ := spared.call found respects (advance_cases iteration session.manager _)
    exact ⟨placed, live, safe⟩

/-! ## What is lost once a destruction does not wait -/

/-- A `StopAll` has stopped a destroyed monitor, or is going to. -/
def Lost (session : Session Path Time) : Prop :=
  session.manager.touched ≠ [] ∨
    ∃ call ∈ session.calls, ∃ monitor ∈ call.pending, monitor ∈ session.manager.destroyed

theorem Spared.lost {iteration : Iteration Text MonitorPointer} (session : Session Path Time)
    (move : Move Path Time) (_ : Spared session) (breaks : ¬Respects session move) :
    Lost (step iteration session move) := by
  cases move with
  | call index =>
    simp only [Respects, not_forall, not_not] at breaks
    obtain ⟨monitor, destroys, call, member, pending⟩ := breaks
    obtain ⟨point, found, same⟩ := Option.bind_eq_some_iff.mp destroys
    have destroying : point = .destroying monitor := by
      cases point <;> cases same
      rfl
    subst destroying
    rw [step, found]
    refine Or.inr ⟨call, Threads.mem_set_of_ne found member ?_, monitor, pending,
      List.mem_append_right _ List.mem_cons_self⟩
    rintro rfl
    cases pending
  | add | start | remove | stopAll => exact absurd trivial breaks

omit [DecidableEq Path] in
theorem Lost.call {iteration : Iteration Text MonitorPointer} {session : Session Path Time} {index : Nat}
    {point next : CallPoint Path Time} {manager : FileSystemMonitorManager Path Time} (lost : Lost session)
    (found : session.calls[index]? = some point)
    (advanced : Advanced iteration session.manager point manager next) :
    Lost ⟨manager, session.calls.set index next⟩ := by
  have inside : index < session.calls.length := (List.getElem?_eq_some_iff.mp found).1
  have moved (touched : session.manager.touched ≠ [] → manager.touched ≠ [])
      (destroyed : session.manager.destroyed ⊆ manager.destroyed)
      (kept : ∀ monitor ∈ point.pending, monitor ∈ session.manager.destroyed →
        manager.touched ≠ [] ∨ monitor ∈ next.pending) : Lost ⟨manager, session.calls.set index next⟩ := by
    rcases lost with before | ⟨call, member, monitor, pending, gone⟩
    · exact Or.inl (touched before)
    · by_cases same : call = point
      · subst same
        rcases kept monitor pending gone with now | still
        · exact Or.inl now
        · exact Or.inr ⟨next, List.mem_set inside next, monitor, still, destroyed gone⟩
      · exact Or.inr ⟨call, Threads.mem_set_of_ne found member same, monitor, pending, destroyed gone⟩
  cases advanced with
  | quiet destroyed touched fewer stopped =>
    rw [← destroyed, ← touched] at moved
    exact moved id (List.Subset.refl _) fun monitor pending gone =>
      Or.inr (stopped monitor pending (destroyed ▸ gone))
  | copied => exact moved id (List.Subset.refl _) fun _ none => nomatch none
  | destroyed monitor => exact moved id (List.subset_append_left _ _) fun _ none => nomatch none
  | touched gone later =>
    have touches {earlier : List MonitorPointer} {monitor : MonitorPointer} : earlier ++ [monitor] ≠ [] := by simp
    exact moved (fun _ => touches) (List.Subset.refl _) fun _ _ _ => Or.inl touches

theorem Lost.preserved {iteration : Iteration Text MonitorPointer} (session : Session Path Time)
    (move : Move Path Time) (lost : Lost session) : Lost (step iteration session move) := by
  have stepped := step_cases iteration session move
  generalize step iteration session move = after at stepped
  cases stepped with
  | called point =>
    rcases lost with touched | ⟨call, member, monitor, pending, gone⟩
    · exact Or.inl touched
    · exact Or.inr ⟨call, List.mem_append_left _ member, monitor, pending, gone⟩
  | absent => exact lost
  | advanced found => exact lost.call found (advance_cases iteration session.manager _)

theorem stoppingEach_touches {iteration : Iteration Text MonitorPointer} {session : Session Path Time}
    {index : Nat} {monitors : List MonitorPointer} (found : session.calls[index]? = some (.stoppingEach monitors))
    (gone : ∃ monitor ∈ monitors, monitor ∈ session.manager.destroyed) :
    ∃ count, ¬Safe (run (step iteration) session (List.replicate count (.call index))) := by
  have inside : index < session.calls.length := (List.getElem?_eq_some_iff.mp found).1
  induction monitors generalizing session with
  | nil =>
    obtain ⟨monitor, none, _⟩ := gone
    cases none
  | cons monitor later ih =>
    by_cases first : monitor ∈ session.manager.destroyed
    · refine ⟨1, ?_⟩
      rw [List.replicate_one, run_cons, run_nil, step, found]
      simp [advance, first, Safe]
    · have stepped : step iteration session (.call index) =
          ⟨session.manager.stop monitor, session.calls.set index (.stoppingEach later)⟩ := by
        rw [step, found]
        simp [advance, first]
      obtain ⟨other, member, otherGone⟩ := gone
      have left : other ∈ later := by
        rcases List.mem_cons.mp member with rfl | left
        · exact absurd otherGone first
        · exact left
      have next : (step iteration session (.call index)).calls[index]? = some (.stoppingEach later) := by
        rw [stepped, List.getElem?_set_self inside]
      have still : index < (step iteration session (.call index)).calls.length := by
        rwa [stepped, List.length_set]
      obtain ⟨count, touched⟩ := ih next ⟨other, left, by rwa [stepped]⟩ still
      exact ⟨count + 1, touched⟩

theorem Lost.touches (iteration : Iteration Text MonitorPointer) {session : Session Path Time}
    (lost : Lost session) : ∃ more, ¬Safe (run (step iteration) session more) := by
  rcases lost with touched | ⟨call, member, monitor, pending, gone⟩
  · exact ⟨[], touched⟩
  · obtain ⟨index, found⟩ := List.mem_iff_getElem?.mp member
    cases call with
    | stoppingEach monitors =>
      obtain ⟨count, touched⟩ := stoppingEach_touches found ⟨monitor, pending, gone⟩
      exact ⟨_, touched⟩
    | adding | starting | removing | stopping | destroying | stoppingAll | returned => cases pending

/-- `StopAll` meets live monitors only in every run in which a destruction waits
for the `StopAll` that has the pointer; a run in which one does not can be
continued until a destroyed monitor is stopped. -/
theorem stopAll_meets_live_monitors (iteration : Iteration Text MonitorPointer) (moves : List (Move Path Time)) :
    (Guarded (step iteration) Respects {} moves → Always (step iteration) Safe {} moves) ∧
      (¬Guarded (step iteration) Respects {} moves →
        ∃ more, ¬Safe (run (step iteration) {} (moves ++ more))) := by
  constructor
  · exact Guarded.always Spared.preserved (fun _ spared => spared.safe) spared_start
  · intro broken
    rcases guarded_or_run Spared.preserved Spared.lost Lost.preserved spared_start moves with guarded | lost
    · exact absurd guarded broken
    · obtain ⟨more, touched⟩ := lost.touches iteration
      exact ⟨more, by rwa [run_append]⟩

/-- `Remove` takes its monitor before `StopAll` copies the pointers of the others. -/
theorem stopAll_meets_live_monitors_after_remove :
    let moves : List (Move Text Nat) := [.add [1] [] true, .call 0, .add [2] [] true, .call 1, .remove [1],
      .call 2, .stopAll, .call 3, .call 2, .call 2, .call 3, .call 3]
    (run (step Iteration.listed) {} moves).manager.destroyed = [0] ∧
      Always (step Iteration.listed) Safe {} moves :=
  ⟨by decide, (stopAll_meets_live_monitors Iteration.listed _).1 (by decide)⟩

/-- `StopAll` has copied the pointer when `Remove` takes the monitor, stops and destroys it. -/
theorem stopAll_touches_removed_monitor :
    let moves : List (Move Text Nat) := [.add [1] [] true, .call 0, .stopAll, .call 1, .remove [1], .call 2,
      .call 2, .call 2, .call 1]
    ¬Always (step Iteration.listed) Safe {} moves ∧
      (run (step Iteration.listed) {} moves).manager.touched = [0] := by
  refine ⟨?_, by decide⟩
  intro always
  exact absurd (always _ [] (List.append_nil _).symm) (by decide)

end FileSystemMonitorManager

end DevilzDen.Backend
