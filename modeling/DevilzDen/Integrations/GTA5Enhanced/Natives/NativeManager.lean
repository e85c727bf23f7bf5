import DevilzDen.Foundation.Run
import DevilzDen.Integrations.GTA5Enhanced.Natives.NativeCrossmap
import DevilzDen.Integrations.GTA5Enhanced.Natives.NativeTable
import DevilzDen.Integrations.GTA5Enhanced.Runtime.BuildInfo

/-! The native manager: the crossmap of the detected build and the cache of resolved handlers. -/

set_option autoImplicit false

namespace DevilzDen.Integrations.GTA5Enhanced

open Backend Foundation

structure NativeManager where
  build : BuildInfo := {}
  crossmap : NativeCrossmap := {}
  cache : NativeCache := {}
  ready : Bool := false

namespace NativeManager

/-- `Initialize`, with what reading the crossmap file returned. -/
def initializeBuild (manager : NativeManager) (build : BuildInfo) (crossmapPath : Text)
    (read : Result Text) : Result Unit × NativeManager :=
  let cleared : NativeManager :=
    { build, crossmap := manager.crossmap.clear, cache := manager.cache.clear, ready := false }
  if build.fingerprint = 0 then
    (.error (Error.runtime "GTA build fingerprint is unavailable; refusing to load a crossmap"), cleared)
  else
    -- a load that stops midway keeps what it has added, and the manager stays unready
    let loaded := cleared.crossmap.loadText crossmapPath read build.fingerprint
    let filled := { cleared with crossmap := loaded.2 }
    match loaded.1 with
    | .error error => (.error error, filled)
    | .ok _ =>
        if filled.crossmap.statistics.entries = 0 then
          (.error (((Error.runtime "Crossmap contains no entries for the detected GTA build").withContext
            "BuildFingerprint" (decimal build.fingerprint.toNat)).withContext "Crossmap" crossmapPath), filled)
        else (.ok (), { filled with ready := true })

def shutdown (manager : NativeManager) : NativeManager :=
  { manager with ready := false, cache := manager.cache.clear, crossmap := manager.crossmap.clear }

def translate (manager : NativeManager) (canonical : NativeHash) : Result NativeHash × NativeManager :=
  if !manager.ready then (.error (Error.runtime "Native manager is not ready"), manager)
  else
    let translated := manager.crossmap.toRuntime canonical manager.build.fingerprint
    let counted := { manager with crossmap := translated.2 }
    match translated.1 with
    | none =>
        (.error (((Error.runtime "Native hash is not present in the active crossmap").withContext
          "CanonicalHash" (decimal canonical.value.toNat)).withContext
          "BuildFingerprint" (decimal manager.build.fingerprint.toNat)), counted)
    | some runtime => (.ok runtime, counted)

def findCached (manager : NativeManager) (canonical : NativeHash) :
    Option NativeRegistration × NativeManager :=
  match manager.translate canonical with
  | (.error _, counted) => (none, counted)
  | (.ok runtime, counted) => (counted.cache.find runtime, counted)

def cacheResolved (manager : NativeManager) (canonical : NativeHash) (handler : Address) (validated : Bool) :
    NativeManager :=
  match manager.translate canonical with
  | (.error _, counted) => counted
  | (.ok runtime, counted) => { counted with cache := counted.cache.store ⟨runtime, handler, validated, 0⟩ }

/-- Managers that differ in the crossmap's counters only. -/
def Counted (before after : NativeManager) : Prop :=
  ∃ stats, after = { before with crossmap := { before.crossmap with stats } }

theorem Counted.refl (manager : NativeManager) : Counted manager manager := ⟨manager.crossmap.stats, rfl⟩

theorem Counted.trans {first second third : NativeManager} (left : Counted first second)
    (right : Counted second third) : Counted first third := by
  obtain ⟨_, rfl⟩ := left
  obtain ⟨stats, rfl⟩ := right
  exact ⟨stats, rfl⟩

theorem Counted.cache {before after : NativeManager} (counted : Counted before after) :
    after.cache = before.cache := by
  obtain ⟨stats, rfl⟩ := counted
  rfl

theorem Counted.translate {before after : NativeManager} (counted : Counted before after)
    (canonical : NativeHash) : (after.translate canonical).1 = (before.translate canonical).1 := by
  obtain ⟨stats, rfl⟩ := counted
  unfold NativeManager.translate NativeCrossmap.toRuntime
  split
  · rfl
  · cases before.crossmap.byCanonical.lookup ⟨canonical.value, before.build.fingerprint⟩ <;> rfl

theorem translate_counted (manager : NativeManager) (canonical : NativeHash) :
    Counted manager (manager.translate canonical).2 := by
  unfold NativeManager.translate NativeCrossmap.toRuntime
  split
  · exact Counted.refl manager
  · cases manager.crossmap.byCanonical.lookup ⟨canonical.value, manager.build.fingerprint⟩ <;>
      exact ⟨_, rfl⟩

theorem translate_cache (manager : NativeManager) (cache : NativeCache) (canonical : NativeHash) :
    ({ manager with cache } : NativeManager).translate canonical =
      ((manager.translate canonical).1, { (manager.translate canonical).2 with cache }) := by
  unfold NativeManager.translate
  split
  · rfl
  · dsimp only
    split <;> rfl

theorem initializeBuild_cache (manager : NativeManager) (build : BuildInfo) (crossmapPath : Text)
    (read : Result Text) : (manager.initializeBuild build crossmapPath read).2.cache = {} := by
  unfold initializeBuild
  dsimp only
  split
  · rfl
  · split
    · rfl
    · split <;> rfl

theorem findCached_counted (manager : NativeManager) (canonical : NativeHash) :
    Counted manager (manager.findCached canonical).2 := by
  have counted := translate_counted manager canonical
  unfold findCached
  split
  next same =>
    rw [same] at counted
    exact counted
  next same =>
    rw [same] at counted
    exact counted

theorem findCached_fst (manager : NativeManager) (canonical : NativeHash) :
    (manager.findCached canonical).1 =
      (manager.translate canonical).1.toOption.bind fun runtime => manager.cache.find runtime := by
  have counted := translate_counted manager canonical
  unfold findCached
  split
  next same => rw [same]; rfl
  next same =>
    rw [same] at counted
    rw [same, counted.cache]
    rfl

theorem cacheResolved_of_translate {manager : NativeManager} {canonical runtime : NativeHash}
    (translated : (manager.translate canonical).1 = .ok runtime) (handler : Address) (validated : Bool) :
    ∃ counted, Counted manager counted ∧ manager.cacheResolved canonical handler validated =
      { counted with cache := manager.cache.store ⟨runtime, handler, validated, 0⟩ } := by
  have counted := translate_counted manager canonical
  refine ⟨_, counted, ?_⟩
  rw [cacheResolved, ← Prod.eta (manager.translate canonical), translated]
  dsimp only
  rw [counted.cache]

/-! ## Natives of the build in force only -/

/-- What a manager that is ready serves natives from. -/
structure Serves (manager : NativeManager) : Prop where
  fingerprint : manager.build.fingerprint ≠ 0
  entries : 0 < manager.crossmap.byCanonical.size
  ofBuild : manager.crossmap.OfBuild manager.build.fingerprint

/-- What `Initialize` leaves behind, whether it fails or not. -/
structure Initialized (build : BuildInfo) (result : Result Unit) (manager : NativeManager) : Prop where
  build : manager.build = build
  cache : manager.cache = {}
  ready : manager.ready = true ↔ result = .ok ()
  serves : manager.ready = true → Serves manager

theorem initializeBuild_initialized (manager : NativeManager) (build : BuildInfo) (crossmapPath : Text)
    (read : Result Text) : Initialized build (manager.initializeBuild build crossmapPath read).1
      (manager.initializeBuild build crossmapPath read).2 := by
  have cache := initializeBuild_cache manager build crossmapPath read
  revert cache
  unfold initializeBuild
  dsimp only
  split
  · exact fun cache => ⟨rfl, cache, ⟨nofun, nofun⟩, nofun⟩
  next present =>
    have ofBuild := (NativeCrossmap.OfBuild.empty build.fingerprint).loadText present crossmapPath read
    split
    · exact fun cache => ⟨rfl, cache, ⟨nofun, nofun⟩, nofun⟩
    · split
      · exact fun cache => ⟨rfl, cache, ⟨nofun, nofun⟩, nofun⟩
      next filled =>
        exact fun cache => ⟨rfl, cache, ⟨fun _ => rfl, fun _ => rfl⟩,
          fun _ => ⟨present, Nat.pos_of_ne_zero filled, ofBuild⟩⟩

inductive Call where
  | initializeBuild (build : BuildInfo) (crossmapPath : Text) (read : Result Text)
  | shutdown
  | translate (canonical : NativeHash)
  | findCached (canonical : NativeHash)
  | cacheResolved (canonical : NativeHash) (handler : Address) (validated : Bool)

def step (manager : NativeManager) : Call → NativeManager
  | .initializeBuild build crossmapPath read => (manager.initializeBuild build crossmapPath read).2
  | .shutdown => manager.shutdown
  | .translate canonical => (manager.translate canonical).2
  | .findCached canonical => (manager.findCached canonical).2
  | .cacheResolved canonical handler validated => manager.cacheResolved canonical handler validated

/-- The calls that bring the manager up or down. -/
def Call.Lifecycle : Call → Prop
  | .initializeBuild _ _ _ | .shutdown => True
  | _ => False

def Call.Initializes : Call → Prop
  | .initializeBuild _ _ _ => True
  | _ => False

/-- Managers that serve the same natives, up to what is cached. -/
structure Alike (before after : NativeManager) : Prop where
  build : after.build = before.build
  ready : after.ready = before.ready
  byCanonical : after.crossmap.byCanonical = before.crossmap.byCanonical
  byRuntime : after.crossmap.byRuntime = before.crossmap.byRuntime

theorem Counted.alike {before after : NativeManager} (counted : Counted before after) : Alike before after := by
  obtain ⟨stats, rfl⟩ := counted
  exact ⟨rfl, rfl, rfl, rfl⟩

theorem cacheResolved_cases (manager : NativeManager) (canonical : NativeHash) (handler : Address)
    (validated : Bool) : Alike manager (manager.cacheResolved canonical handler validated) ∧
      ((manager.cacheResolved canonical handler validated).cache = manager.cache ∨
        ∃ runtime, (manager.cacheResolved canonical handler validated).cache =
          manager.cache.store ⟨runtime, handler, validated, 0⟩) := by
  have counted := translate_counted manager canonical
  unfold cacheResolved
  split
  next same =>
    rw [same] at counted
    exact ⟨counted.alike, Or.inl counted.cache⟩
  next runtime after same =>
    rw [same] at counted
    obtain ⟨build, ready, byCanonical, byRuntime⟩ := counted.alike
    exact ⟨⟨build, ready, byCanonical, byRuntime⟩, Or.inr ⟨runtime, by rw [counted.cache]⟩⟩

theorem step_alike (manager : NativeManager) {call : Call} (other : ¬call.Lifecycle) :
    Alike manager (step manager call) := by
  cases call with
  | initializeBuild | shutdown => exact absurd trivial other
  | translate canonical => exact (translate_counted manager canonical).alike
  | findCached canonical => exact (findCached_counted manager canonical).alike
  | cacheResolved canonical handler validated =>
    exact (cacheResolved_cases manager canonical handler validated).1

theorem Serves.alike {before after : NativeManager} (serves : Serves before) (alike : Alike before after) :
    Serves after where
  fingerprint := by rw [alike.build]; exact serves.fingerprint
  entries := by rw [alike.byCanonical]; exact serves.entries
  ofBuild := by
    rw [alike.build]
    exact ⟨alike.byCanonical ▸ serves.ofBuild.canonical, alike.byRuntime ▸ serves.ofBuild.runtime⟩

theorem step_serves {manager : NativeManager} {call : Call} (serves : manager.ready = true → Serves manager) :
    (step manager call).ready = true → Serves (step manager call) := by
  by_cases lifecycle : call.Lifecycle
  · cases call with
    | initializeBuild build crossmapPath read =>
      exact (initializeBuild_initialized manager build crossmapPath read).serves
    | shutdown => exact nofun
    | translate | findCached | cacheResolved => exact absurd lifecycle id
  · have alike := step_alike manager lifecycle
    exact fun ready => (serves (alike.ready ▸ ready)).alike alike

theorem run_serves {manager : NativeManager} (serves : manager.ready = true → Serves manager) (calls : List Call) :
    (run step manager calls).ready = true → Serves (run step manager calls) := by
  induction calls generalizing manager with
  | nil => exact serves
  | cons call later ih => exact ih (step_serves serves)

/-! ## Any sequence of calls -/

/-- The last call that brings the manager up or down is an `Initialize` that succeeds. -/
def Up (calls : List Call) : Prop :=
  ∃ earlier build crossmapPath read later,
    Last Call.Lifecycle calls earlier (.initializeBuild build crossmapPath read) later ∧
      ((run step {} earlier).initializeBuild build crossmapPath read).1 = .ok ()

theorem run_ready {manager : NativeManager} {calls : List Call} (others : ∀ call ∈ calls, ¬call.Lifecycle) :
    (run step manager calls).ready = manager.ready := by
  induction calls generalizing manager with
  | nil => rfl
  | cons call later ih =>
    rw [List.forall_mem_cons] at others
    rw [run_cons, ih others.2, (step_alike manager others.1).ready]

theorem ready_iff_up (calls : List Call) : (run step {} calls).ready = true ↔ Up calls := by
  have initialized (earlier : List Call) (build : BuildInfo) (crossmapPath : Text) (read : Result Text)
      (later : List Call) (others : ∀ call ∈ later, ¬call.Lifecycle) :
      (run step {} (earlier ++ .initializeBuild build crossmapPath read :: later)).ready = true ↔
        ((run step {} earlier).initializeBuild build crossmapPath read).1 = .ok () := by
    rw [run_append, run_cons, run_ready others]
    exact (initializeBuild_initialized _ build crossmapPath read).ready
  constructor
  · intro ready
    rcases exists_last Call.Lifecycle calls with others | ⟨earlier, last, later, rfl, lifecycle, others⟩
    · rw [run_ready others] at ready
      exact absurd ready Bool.false_ne_true
    · cases last with
      | initializeBuild build crossmapPath read =>
        exact ⟨earlier, build, crossmapPath, read, later, ⟨rfl, lifecycle, others⟩,
          (initialized earlier build crossmapPath read later others).mp ready⟩
      | shutdown =>
        rw [run_append, run_cons, run_ready others] at ready
        exact absurd ready Bool.false_ne_true
      | translate | findCached | cacheResolved => exact absurd lifecycle id
  · rintro ⟨earlier, build, crossmapPath, read, later, ⟨rfl, _, others⟩, succeeded⟩
    exact (initialized earlier build crossmapPath read later others).mpr succeeded

theorem translate_of_not_ready {manager : NativeManager} (down : manager.ready = false) (canonical : NativeHash) :
    (manager.translate canonical).1 = .error (Error.runtime "Native manager is not ready") := by
  rw [translate, if_pos (by simp [down])]

def CachedBy (calls : List Call) (manager : NativeManager) : Prop :=
  ∀ hash registration, manager.cache.find hash = some registration → ∃ canonical handler validated,
    .cacheResolved canonical handler validated ∈ calls ∧ registration.handler = handler ∧
      registration.validated = validated

theorem CachedBy.step {calls : List Call} {manager : NativeManager} (cachedBy : CachedBy calls manager)
    {call : Call} (member : call ∈ calls) : CachedBy calls (NativeManager.step manager call) := by
  unfold CachedBy
  cases call with
  | initializeBuild build crossmapPath read =>
    rw [NativeManager.step, initializeBuild_cache]
    exact nofun
  | shutdown => exact nofun
  | translate canonical =>
    rw [NativeManager.step, (translate_counted manager canonical).cache]
    exact cachedBy
  | findCached canonical =>
    rw [NativeManager.step, (findCached_counted manager canonical).cache]
    exact cachedBy
  | cacheResolved canonical handler validated =>
    rw [NativeManager.step]
    rcases (cacheResolved_cases manager canonical handler validated).2 with same | ⟨runtime, stored⟩
    · rw [same]
      exact cachedBy
    · rw [stored]
      intro hash registration found
      rw [NativeCache.find_store] at found
      split at found
      · cases found
        exact ⟨canonical, handler, validated, member, rfl, rfl⟩
      · exact cachedBy hash registration found

structure ServesInForce (calls : List Call) (manager : NativeManager) : Prop where
  ready : manager.ready = true → Serves manager
  up : manager.ready = true ↔ Up calls
  down : ¬Up calls → ∀ canonical,
    (∃ error, (manager.translate canonical).1 = .error error) ∧ (manager.findCached canonical).1 = none
  fresh : ∀ earlier build crossmapPath read later,
    Last Call.Initializes calls earlier (.initializeBuild build crossmapPath read) later →
      ∀ canonical registration, (manager.findCached canonical).1 = some registration →
        ∃ resolved handler validated, .cacheResolved resolved handler validated ∈ later ∧
          registration.handler = handler ∧ registration.validated = validated

/-- The manager serves natives of the build in force only, after any calls. -/
theorem run_servesInForce (calls : List Call) : ServesInForce calls (run step {} calls) where
  ready := run_serves (fun ready => absurd ready Bool.false_ne_true) calls
  up := ready_iff_up calls
  down notUp canonical := by
    have notReady : (run step {} calls).ready = false :=
      Bool.eq_false_iff.mpr fun ready => notUp ((ready_iff_up calls).mp ready)
    have fails := translate_of_not_ready notReady canonical
    refine ⟨⟨_, fails⟩, ?_⟩
    rw [findCached_fst, fails]
    rfl
  fresh earlier build crossmapPath read later last canonical registration found := by
    obtain ⟨rfl, _, _⟩ := last
    have cachedBy : CachedBy later (run step {} (earlier ++ .initializeBuild build crossmapPath read :: later)) := by
      rw [run_append, run_cons]
      apply run_invariant_of_mem (fun call member manager cachedBy => cachedBy.step member)
      unfold CachedBy
      rw [step, initializeBuild_cache]
      exact nofun
    rw [findCached_fst, Option.bind_eq_some_iff] at found
    obtain ⟨runtime, _, cached⟩ := found
    exact cachedBy runtime registration cached

end NativeManager

end DevilzDen.Integrations.GTA5Enhanced
