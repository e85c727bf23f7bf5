import DevilzDen.Backend.Memory.PatternCacheLoads
import DevilzDen.Backend.Memory.PatternManager

/-! Sessions of the pattern manager, and the cache file that goes from one to the next.

A session begins with an empty cache. It loads the lines of its main module,
and of every module that it resolves by name, and writes the whole file after
each resolution that succeeds and when it stops. The jobs of a call that has
failed run on beside later calls. File access does not fail here.
-/

set_option autoImplicit false

namespace DevilzDen.Backend.PatternSessions

open Foundation PatternBatchScanner PatternCachePersistence

def cachePath : Text := text "Cache/patterns.ddpc"

/-- One `ResolveMain` or `ResolveModule`, with the module that it finds and the
bytes mapped then. Only `ResolveModule` loads the module's lines. -/
structure ResolveCall where
  loads : Bool
  memory : Memory
  module : ModuleInfo
  requests : List PatternRequest

/-- The jobs of a call, and whether the call still waits for them. -/
structure Running where
  jobs : List (CacheProgram (Result PatternResolution))
  waiting : Bool := true

structure Manager where
  cache : PatternCache := {}
  file : Option Text
  running : List Running := []

structure Traversal where
  order : PatternCache → List PatternCacheEntry
  snapshot : ∀ cache, PatternCache.Snapshot cache (order cache)

/-- A call begins, one of its jobs performs its next operation on the cache, or the call returns. -/
inductive Event where
  | resolve (call : ResolveCall)
  | work (call job : Nat)
  | answer (call : Nat) (traversal : Traversal)

namespace Manager

def load (manager : Manager) (module : ModuleInfo) : Manager :=
  let access : FileAccess := ⟨.ok manager.file.isSome, .ok (manager.file.getD [])⟩
  { manager with cache := (loadForModule (some access) manager.cache module cachePath).2 }

def persistCache (manager : Manager) (traversal : Traversal) : Manager :=
  { manager with file := some (saveText (traversal.order manager.cache)) }

def outcome? {α : Type} : CacheProgram α → Option α
  | .done value => some value
  | .perform _ _ => none

def step (manager : Manager) : Event → Manager
  | .resolve call =>
      let loaded := if call.loads then manager.load call.module else manager
      -- a call without requests returns at once, and saves nothing
      if call.requests.isEmpty then loaded
      else
        let jobs := call.requests.map (PatternManager.job call.memory call.module)
        { loaded with running := loaded.running ++ [{ jobs }] }
  | .work call job =>
      match manager.running[call]? with
      | none => manager
      | some running =>
          match running.jobs[job]? with
          | none | some (.done _) => manager
          | some (.perform action next) =>
              let answered := PatternCache.handler action manager.cache
              { manager with
                cache := answered.2
                running := manager.running.set call { running with jobs := running.jobs.set job (next answered.1) } }
  | .answer call traversal =>
      match manager.running[call]? with
      | none => manager
      | some running =>
          if !running.waiting then manager
          else
            let returned := { manager with running := manager.running.set call { running with waiting := false } }
            match PatternManager.collect (running.jobs.map outcome?) [] with
            | none => manager
            -- the first failure returns, while other jobs may not have run yet
            | some (.error _) => returned
            | some (.ok _) => returned.persistCache traversal

end Manager

/-- `Initialize` with the main module, what happens until `Stop`, and `Stop` itself. -/
structure Session where
  main : ModuleInfo
  events : List Event
  traversal : Traversal

def Session.run (file : Option Text) (session : Session) : Option Text :=
  let initialized := Manager.load { file } session.main
  ((Foundation.run Manager.step initialized session.events).persistCache session.traversal).file

def linesOf : Option Text → List Text
  | none => []
  | some contents =>
      match Lines.lines newline contents with
      | [] => []
      | first :: body => if first = header then body else []

/-- The module is not resolved in the session. -/
def Session.Untouched (session : Session) (module : Text) : Prop :=
  ∀ call, .resolve call ∈ session.events → call.module.name ≠ module

/-- What keeps the line of an entry in the file of a session: its module is the
session's main module, and no other line or module has a part in its key. -/
structure Reloaded (file : Option Text) (session : Session) (entry : PatternCacheEntry) : Prop where
  restored : Restored session.main entry
  mapped : session.main.base ≤ session.main.base + entry.relativeOffset
  sole : ∀ line ∈ linesOf file, ∀ offset, parseLine session.main line = some (entry.key, offset) →
    offset = entry.relativeOffset
  apart : ∀ call, .resolve call ∈ session.events → ¬call.module.name ++ text "::" <+: entry.key.stableKey

/-! ## An entry in the cache -/

/-- The cache holds what the line of an entry says. -/
def Held (entry : PatternCacheEntry) (cache : PatternCache) : Prop :=
  ∃ held, cache.entries.lookup entry.key.stableKey = some held ∧ held.key = entry.key ∧
    held.relativeOffset = entry.relativeOffset

/-- The operations of the cache that leave an entry in it. -/
def Spares (entry : PatternCacheEntry) : PatternCache.Action → Prop
  | .invalidateFingerprint module _ => module ≠ entry.key.module
  | .find _ => True
  | .invalidate module name => entry.key.stableKey ≠ module ++ text "::" ++ name
  | .store key _ _ => entry.key.stableKey ≠ key.stableKey

theorem Held.handler {entry : PatternCacheEntry} {cache : PatternCache} (held : Held entry cache)
    {action : PatternCache.Action} (spares : Spares entry action) :
    Held entry (PatternCache.handler action cache).2 := by
  obtain ⟨kept, found, key, offset⟩ := held
  cases action with
  | invalidateFingerprint module validFingerprint =>
    have current : PatternCache.outdated module validFingerprint kept = false := by
      simp [PatternCache.outdated, key, spares.symm]
    refine ⟨kept, ?_, key, offset⟩
    rw [PatternCache.handler, PatternCache.lookup_invalidateFingerprint, found]
    simp [current]
  | find other =>
    rw [PatternCache.handler, Held, PatternCache.lookup_find]
    by_cases same : entry.key.stableKey = other.stableKey
    -- a hit is counted in the entry, and nothing else of it changes
    · rw [if_pos same, ← same, found, PatternCache.findEntry]
      split
      · exact ⟨kept, rfl, key, offset⟩
      · exact ⟨_, rfl, key, offset⟩
    · rw [if_neg same]
      exact ⟨kept, found, key, offset⟩
  | invalidate module name =>
    refine ⟨kept, ?_, key, offset⟩
    rw [PatternCache.handler, PatternCache.lookup_invalidate, if_neg spares, found]
  | store other address moduleBase =>
    refine ⟨kept, ?_, key, offset⟩
    rw [PatternCache.handler, PatternCache.lookup_store, if_neg spares, found]

theorem spares_of_own {entry : PatternCacheEntry} {module : ModuleInfo}
    (apart : ¬module.name ++ text "::" <+: entry.key.stableKey) {name : Text} {action : PatternCache.Action}
    (own : PatternManager.own module name action) : Spares entry action := by
  cases action with
  | invalidateFingerprint affected validFingerprint =>
    rintro rfl
    apply apart
    rw [← own.1, PatternCacheKey.stableKey]
    exact List.prefix_append _ _
  | find key => trivial
  | invalidate affected affectedName =>
    obtain ⟨rfl, rfl⟩ := own
    intro same
    exact apart (same ▸ List.prefix_append _ _)
  | store key address moduleBase =>
    cases own
    intro same
    exact apart (same ▸ List.prefix_append _ _)

theorem parseLine_module {module : ModuleInfo} {line : Text} {key : PatternCacheKey} {offset : UInt64}
    (parsed : parseLine module line = some (key, offset)) :
    key.module = module.name ∧ key.moduleFingerprint = module.fingerprint.value := by
  obtain ⟨_, row, _⟩ := parseLine_eq_some_iff.mp parsed
  exact ⟨row.name, row.fingerprint⟩

theorem Held.loadLine {entry : PatternCacheEntry} {module : ModuleInfo} {line : Text}
    {loaded : PatternCache × Nat} (held : Held entry loaded.1)
    (agrees : ∀ key offset, parseLine module line = some (key, offset) →
      entry.key.stableKey = key.stableKey →
        key = entry.key ∧ (PatternCache.makeEntry key (module.base + offset) module.base).relativeOffset =
          entry.relativeOffset) :
    Held entry (PatternCachePersistence.loadLine module loaded line).1 := by
  unfold PatternCachePersistence.loadLine
  split
  · exact held
  next key offset parsed =>
    rw [Held, PatternCache.lookup_store]
    by_cases same : entry.key.stableKey = key.stableKey
    · obtain ⟨sameKey, sameOffset⟩ := agrees key offset parsed same
      rw [if_pos same]
      exact ⟨_, rfl, sameKey, sameOffset⟩
    · rw [if_neg same]
      exact held

theorem Manager.load_cache (manager : Manager) (module : ModuleInfo) :
    (manager.load module).cache =
      (Foundation.run (PatternCachePersistence.loadLine module) (manager.cache, 0) (linesOf manager.file)).1 := by
  unfold load loadForModule linesOf
  cases manager.file with
  | none => rfl
  | some contents =>
    simp only [Option.isSome_some, Option.getD_some]
    cases Lines.lines newline contents with
    | nil => rfl
    | cons first body =>
      simp only [ne_eq, ite_not]
      split <;> rfl

/-- What every line of the file keeps, loading keeps. -/
theorem Manager.load_invariant {good : PatternCache → Prop} {manager : Manager} {module : ModuleInfo}
    (preserved : ∀ line ∈ linesOf manager.file, ∀ loaded : PatternCache × Nat, good loaded.1 →
      good (PatternCachePersistence.loadLine module loaded line).1)
    (holds : good manager.cache) : good (manager.load module).cache := by
  rw [Manager.load_cache]
  show (fun loaded : PatternCache × Nat => good loaded.1) _
  exact run_invariant_of_mem preserved holds

theorem Held.load {entry : PatternCacheEntry} {manager : Manager} (held : Held entry manager.cache)
    {module : ModuleInfo} (apart : ¬module.name ++ text "::" <+: entry.key.stableKey) :
    Held entry (manager.load module).cache := by
  refine Manager.load_invariant (fun line _ loaded held => ?_) held
  refine held.loadLine fun key offset parsed same => absurd ?_ apart
  rw [same, PatternCacheKey.stableKey, (parseLine_module parsed).1]
  exact List.prefix_append _ _

theorem key_eq_of_stableKey {first second : PatternCacheKey} (module : first.module = second.module)
    (fingerprint : first.moduleFingerprint = second.moduleFingerprint)
    (same : first.stableKey = second.stableKey) : first = second := by
  obtain ⟨firstModule, firstName, firstFingerprint⟩ := first
  obtain ⟨secondModule, secondName, secondFingerprint⟩ := second
  cases module
  cases fingerprint
  cases List.append_cancel_left same
  rfl

theorem held_initialized {entry : PatternCacheEntry} {file : Option Text} {session : Session}
    (plain : Plain entry.key) (written : entryLine entry ∈ linesOf file) (reloaded : Reloaded file session entry) :
    Held entry (Manager.load { file } session.main).cache := by
  have offset : (PatternCache.makeEntry entry.key (session.main.base + entry.relativeOffset)
      session.main.base).relativeOffset = entry.relativeOffset := by
    rw [PatternCache.makeEntry]
    dsimp only
    rw [if_pos reloaded.mapped, UInt64.add_comm, UInt64.add_sub_cancel]
  have preserved : ∀ line ∈ linesOf file, ∀ loaded : PatternCache × Nat, Held entry loaded.1 →
      Held entry (PatternCachePersistence.loadLine session.main loaded line).1 := by
    intro line member loaded held
    apply held.loadLine
    intro key other parsed same
    obtain ⟨module, fingerprint⟩ := parseLine_module parsed
    obtain ⟨ours, current, _⟩ := reloaded.restored
    have sameKey : key = entry.key :=
      key_eq_of_stableKey (module.trans ours.symm) (fingerprint.trans current.symm) same.symm
    subst sameKey
    rw [reloaded.sole line member other parsed]
    exact ⟨rfl, offset⟩
  obtain ⟨before, after, split⟩ := List.append_of_mem written
  have stored : Held entry (PatternCachePersistence.loadLine session.main
      (Foundation.run (PatternCachePersistence.loadLine session.main) ({}, 0) before) (entryLine entry)).1 := by
    rw [PatternCachePersistence.loadLine, parseLine_entryLine _ plain, if_pos reloaded.restored]
    rw [Held, PatternCache.lookup_store, if_pos rfl]
    exact ⟨_, rfl, rfl, offset⟩
  rw [Manager.load_cache, split, run_append, run_cons]
  show (fun loaded : PatternCache × Nat => Held entry loaded.1) _
  refine run_invariant_of_mem (fun line member => preserved line ?_) stored
  rw [split]
  exact List.mem_append_right _ (List.mem_cons_of_mem _ member)

/-! ## What a session keeps -/

/-- A property of the cache, with the operations that keep it, as a session
goes on: the cache has it, and the jobs that are still running only perform such operations. -/
structure Settled (good : PatternCache → Prop) (allowed : PatternCache.Action → Prop) (manager : Manager) :
    Prop where
  cache : good manager.cache
  jobs : ∀ running ∈ manager.running, ∀ job ∈ running.jobs, job.All allowed

/-- A call that keeps the property: so does loading its module, and its jobs only perform such operations. -/
structure Admits (good : PatternCache → Prop) (allowed : PatternCache.Action → Prop) (call : ResolveCall) :
    Prop where
  load : ∀ manager : Manager, good manager.cache → good (manager.load call.module).cache
  jobs : ∀ request ∈ call.requests, (PatternManager.job call.memory call.module request).All allowed

section Step

variable {good : PatternCache → Prop} {allowed : PatternCache.Action → Prop} {manager : Manager}

theorem Settled.setRunning (settled : Settled good allowed manager) {cache : PatternCache} (holds : good cache)
    (call : Nat) {running : Running} (jobs : ∀ job ∈ running.jobs, job.All allowed) :
    Settled good allowed { manager with cache, running := manager.running.set call running } := by
  refine ⟨holds, fun other member => ?_⟩
  rcases List.mem_or_eq_of_mem_set member with earlier | rfl
  · exact settled.jobs other earlier
  · exact jobs

theorem Settled.resolve (settled : Settled good allowed manager) {call : ResolveCall}
    (admits : Admits good allowed call) : Settled good allowed (manager.step (.resolve call)) := by
  have loaded : Settled good allowed (if call.loads then manager.load call.module else manager) := by
    split
    · exact ⟨admits.load manager settled.cache, settled.jobs⟩
    · exact settled
  rw [Manager.step]
  dsimp only
  split
  · exact loaded
  · refine ⟨loaded.cache, fun running member job listed => ?_⟩
    rcases List.mem_append.mp member with earlier | new
    · exact loaded.jobs running earlier job listed
    · cases List.mem_singleton.mp new
      obtain ⟨request, asked, rfl⟩ := List.mem_map.mp listed
      exact admits.jobs request asked

theorem Settled.work (settled : Settled good allowed manager)
    (acts : ∀ cache action, good cache → allowed action → good (PatternCache.handler action cache).2)
    (call job : Nat) : Settled good allowed (manager.step (.work call job)) := by
  rw [Manager.step]
  cases begun : manager.running[call]? with
  | none => exact settled
  | some running =>
    have own := settled.jobs running (List.mem_of_getElem? begun)
    cases found : running.jobs[job]? with
    | none => simpa [found] using settled
    | some program =>
      cases program with
      | done value => simpa [found] using settled
      | perform action next =>
        obtain ⟨permitted, later⟩ := own _ (List.mem_of_getElem? found)
        simp only [found]
        apply settled.setRunning (acts _ _ settled.cache permitted) call
        intro other member
        rcases List.mem_or_eq_of_mem_set member with earlier | rfl
        · exact own other earlier
        · exact later _

theorem Settled.answer (settled : Settled good allowed manager) (call : Nat) (traversal : Traversal) :
    Settled good allowed (manager.step (.answer call traversal)) := by
  rw [Manager.step]
  cases begun : manager.running[call]? with
  | none => exact settled
  | some running =>
    dsimp only
    split
    · exact settled
    · have returned : Settled good allowed
          { manager with running := manager.running.set call { running with waiting := false } } :=
        settled.setRunning settled.cache call (settled.jobs running (List.mem_of_getElem? begun))
      split
      · exact settled
      · exact returned
      -- saving writes the file, and leaves the cache and the jobs
      · exact ⟨returned.cache, returned.jobs⟩

/-- A property of the initialized cache that every call of a session admits is there when it stops. -/
theorem good_at_stop {file : Option Text} {session : Session}
    (acts : ∀ cache action, good cache → allowed action → good (PatternCache.handler action cache).2)
    (admits : ∀ call, .resolve call ∈ session.events → Admits good allowed call)
    (initialized : good (Manager.load { file } session.main).cache) :
    good (run Manager.step (Manager.load { file } session.main) session.events).cache := by
  have start : Settled good allowed (Manager.load { file } session.main) := ⟨initialized, nofun⟩
  have stopped : Settled good allowed (run Manager.step (Manager.load { file } session.main) session.events) := by
    refine run_invariant_of_mem (fun event member manager settled => ?_) start
    cases event with
    | resolve call => exact settled.resolve (admits call member)
    | work call job => exact settled.work acts call job
    | answer call traversal => exact settled.answer call traversal
  exact stopped.cache

end Step

/-! ## A line through the sessions -/

theorem linesOf_saved (order : List PatternCacheEntry) :
    linesOf (some (saveText order)) = Lines.lines newline (Lines.unlines newline (order.map entryLine)) := by
  have header : Lines.lines newline (saveText order) = header ::
      Lines.lines newline (Lines.unlines newline (order.map entryLine)) := by
    rw [saveText, Lines.unlines, List.flatMap_cons, List.append_assoc, List.singleton_append]
    exact Lines.lines_line_append (by decide) _
  rw [linesOf, header]
  exact if_pos rfl

theorem linesOf_saved_of_plain {order : List PatternCacheEntry} (plain : ∀ entry ∈ order, Plain entry.key) :
    linesOf (some (saveText order)) = order.map entryLine := by
  rw [linesOf_saved]
  apply Lines.lines_unlines
  intro line member
  obtain ⟨entry, listed, rfl⟩ := List.mem_map.mp member
  exact newline_notMem_entryLine (plain entry listed)

theorem Held.saved {entry : PatternCacheEntry} {cache : PatternCache} (held : Held entry cache)
    (plain : Plain entry.key) (traversal : Traversal) :
    entryLine entry ∈ linesOf (some (saveText (traversal.order cache))) := by
  obtain ⟨kept, found, key, offset⟩ := held
  have listed : kept ∈ traversal.order cache :=
    (traversal.snapshot cache).mem_iff.mpr (Table.mem_values_iff.mpr ⟨_, found⟩)
  have line : entryLine kept = entryLine entry := by rw [entryLine, key, offset, entryLine]
  rw [linesOf_saved]
  apply Lines.mem_lines_unlines (newline_notMem_entryLine plain)
  rw [← line]
  exact List.mem_map_of_mem listed

theorem session_keeps_line {file : Option Text} {session : Session} {entry : PatternCacheEntry}
    (plain : Plain entry.key) (written : entryLine entry ∈ linesOf file) (reloaded : Reloaded file session entry) :
    entryLine entry ∈ linesOf (session.run file) := by
  have admits : ∀ call, .resolve call ∈ session.events → Admits (Held entry) (Spares entry) call := by
    intro call member
    have apart := reloaded.apart call member
    exact ⟨fun manager held => held.load apart, fun request _ =>
      (PatternManager.job_own call.memory call.module request).mono fun action => spares_of_own apart⟩
  have acts : ∀ cache action, Held entry cache → Spares entry action →
      Held entry (PatternCache.handler action cache).2 := fun cache action held spares => held.handler spares
  have stopped := good_at_stop acts admits (held_initialized plain written reloaded)
  exact stopped.saved plain session.traversal

/-- Every line of a module that the session leaves alone is restored by its main module. -/
def Respects (file : Option Text) (session : Session) : Prop :=
  ∀ entry, Plain entry.key → entryLine entry ∈ linesOf file → session.Untouched entry.key.module →
    Reloaded file session entry

/-- In a run of sessions that all respect the file, a line stays in it through
any number of sessions that do not resolve its module. -/
theorem lines_survive {file : Option Text} {sessions : List Session}
    (respected : Guarded Session.run Respects file sessions) :
    ∀ earlier during later, sessions = earlier ++ during ++ later → ∀ entry, Plain entry.key →
      entryLine entry ∈ linesOf (run Session.run file earlier) →
      (∀ session ∈ during, session.Untouched entry.key.module) →
      entryLine entry ∈ linesOf (run Session.run file (earlier ++ during)) := by
  rintro earlier during later rfl entry plain written untouched
  have guarded := (guarded_append.mp respected.of_append).2
  clear respected
  rw [run_append]
  generalize run Session.run file earlier = reached at written guarded
  induction during generalizing reached with
  | nil => exact written
  | cons session rest ih =>
    obtain ⟨now, others⟩ := List.forall_mem_cons.mp untouched
    have kept := session_keeps_line plain written (guarded.1 entry plain written now)
    exact ih others _ kept guarded.2

/-! ## What a session drops -/

def AllKeys (kind : PatternCacheKey → Prop) (cache : PatternCache) : Prop :=
  ∀ stable entry, cache.entries.lookup stable = some entry → kind entry.key

def StoresOnly (kind : PatternCacheKey → Prop) : PatternCache.Action → Prop
  | .store key _ _ => kind key
  | _ => True

section Keys

variable {kind : PatternCacheKey → Prop}

theorem AllKeys.store {cache : PatternCache} (all : AllKeys kind cache) {key : PatternCacheKey} (new : kind key)
    (address moduleBase : Address) : AllKeys kind (cache.store key address moduleBase) := by
  intro stable entry found
  rw [PatternCache.lookup_store] at found
  split at found
  · cases found
    exact new
  · exact all stable entry found

theorem AllKeys.handler {cache : PatternCache} (all : AllKeys kind cache) {action : PatternCache.Action}
    (allowed : StoresOnly kind action) : AllKeys kind (PatternCache.handler action cache).2 := by
  cases action with
  | store key address moduleBase => exact all.store allowed address moduleBase
  | invalidateFingerprint module validFingerprint =>
    intro stable entry found
    rw [PatternCache.handler, PatternCache.lookup_invalidateFingerprint, Option.filter_eq_some_iff] at found
    exact all stable entry found.1
  | invalidate module name =>
    intro stable entry found
    rw [PatternCache.handler, PatternCache.lookup_invalidate] at found
    split at found
    · cases found
    · exact all stable entry found
  | find key =>
    intro stable entry found
    rw [PatternCache.handler, PatternCache.lookup_find] at found
    split at found
    · cases known : cache.entries.lookup key.stableKey with
      | none => simp [PatternCache.findEntry, known] at found
      | some kept =>
        have same : entry.key = kept.key := by
          rw [known, PatternCache.findEntry] at found
          split at found <;> cases found <;> rfl
        exact same ▸ all _ kept known
    · exact all stable entry found

theorem AllKeys.load {manager : Manager} (all : AllKeys kind manager.cache) {module : ModuleInfo}
    (parsed : ∀ line ∈ linesOf manager.file, ∀ key offset, parseLine module line = some (key, offset) → kind key) :
    AllKeys kind (manager.load module).cache := by
  refine Manager.load_invariant (fun line member loaded all => ?_) all
  rw [PatternCachePersistence.loadLine]
  split
  · exact all
  next key offset read => exact all.store (parsed line member key offset read) _ _

theorem AllKeys.ordered {cache : PatternCache} (all : AllKeys kind cache) (traversal : Traversal) :
    ∀ entry ∈ traversal.order cache, kind entry.key := by
  intro entry member
  obtain ⟨stable, found⟩ := Table.mem_values_iff.mp ((traversal.snapshot cache).mem_iff.mp member)
  exact all stable entry found

end Keys

theorem newline_notMem_linesOf {file : Option Text} {line : Text} (member : line ∈ linesOf file) :
    newline ∉ line := by
  cases file with
  | none => cases member
  | some contents =>
    rw [linesOf] at member
    split at member
    · cases member
    next first body read =>
      split at member
      · exact Lines.notMem_of_mem_lines (read ▸ List.mem_cons_of_mem first member)
      · cases member

theorem parseLine_plain {module : ModuleInfo} {line : Text} {key : PatternCacheKey} {offset : UInt64}
    (whole : newline ∉ line) (parsed : parseLine module line = some (key, offset)) : Plain key := by
  obtain ⟨_, row, _⟩ := parseLine_eq_some_iff.mp parsed
  obtain ⟨_, _, fields, _⟩ := row.fields
  rw [fields.split] at whole
  simp only [List.mem_append, List.mem_cons, not_or] at whole
  obtain ⟨moduleLine, _, nameLine, _⟩ := whole
  exact ⟨fields.wholeFirst, moduleLine, fields.wholeSecond, nameLine⟩

def Session.PlainNames (session : Session) : Prop :=
  ∀ call, .resolve call ∈ session.events → ∀ request ∈ call.requests, Plain (cacheKey call.module request)

/-- A session with another main module leaves no line of a module that it does not resolve. -/
theorem session_drops_lines {file : Option Text} {session : Session} {module : Text}
    (main : session.main.name ≠ module) (untouched : session.Untouched module) (plain : session.PlainNames)
    {entry : PatternCacheEntry} (plainEntry : Plain entry.key)
    (written : entryLine entry ∈ linesOf (session.run file)) : entry.key.module ≠ module := by
  let Foreign (key : PatternCacheKey) : Prop := Plain key ∧ key.module ≠ module
  have parsed : ∀ resolved : ModuleInfo, resolved.name ≠ module → ∀ manager : Manager,
      AllKeys Foreign manager.cache → AllKeys Foreign (manager.load resolved).cache := by
    intro resolved other manager all
    apply all.load
    intro line member key offset read
    exact ⟨parseLine_plain (newline_notMem_linesOf member) read, (parseLine_module read).1 ▸ other⟩
  have admits : ∀ call, .resolve call ∈ session.events →
      Admits (AllKeys Foreign) (StoresOnly Foreign) call := by
    intro call member
    refine ⟨parsed call.module (untouched call member), fun request asked => ?_⟩
    apply (PatternManager.job_own call.memory call.module request).mono
    intro action own
    cases action with
    | store key address moduleBase =>
      cases own
      exact ⟨plain call member request asked, untouched call member⟩
    | invalidateFingerprint | find | invalidate => trivial
  have acts : ∀ cache action, AllKeys Foreign cache → StoresOnly Foreign action →
      AllKeys Foreign (PatternCache.handler action cache).2 := fun cache action all allowed => all.handler allowed
  have stopped := good_at_stop acts admits (parsed session.main main { file } nofun)
  rw [Session.run] at written
  generalize run Manager.step _ session.events = last at stopped written
  have foreign := stopped.ordered session.traversal
  -- every line of the file is that of an entry of another module
  rw [Manager.persistCache, linesOf_saved_of_plain fun kept member => (foreign kept member).1] at written
  obtain ⟨kept, member, same⟩ := List.mem_map.mp written
  obtain ⟨plainKept, other⟩ := foreign kept member
  obtain ⟨sameModule, _⟩ := (Lines.append_cons_eq_iff plainKept.1 plainEntry.1).mp same
  exact sameModule ▸ other

/-! A second module's line is lost as soon as a session does not resolve it again. -/

def listed : Traversal where
  order cache := cache.entries.values
  snapshot cache := cache.entries.enumerates_values

def hostModule : ModuleInfo where
  name := text "host.exe"
  base := 0x8000
  size := 0x1000
  fingerprint := ⟨4, 5, 6⟩
  sections := []

def resolvingSession (main : ModuleInfo) : Session where
  main := main
  events := [.resolve ⟨true, twoByteMemory, twoByteModule, [requestFor "AA"]⟩,
    .work 0 0, .work 0 0, .work 0 0, .answer 0 listed]
  traversal := listed

def idleSession (main : ModuleInfo) : Session := ⟨main, [], listed⟩

def targetEntry : PatternCacheEntry :=
  PatternCache.makeEntry (cacheKey twoByteModule (requestFor "AA")) 0x1000 0x1000

/-- Each session has a `Pattern_Manager` of its own: on one that is kept, the cache keeps the line. -/
theorem other_module_line_lost :
    let written := Session.run none (resolvingSession hostModule)
    Plain targetEntry.key ∧ entryLine targetEntry ∈ linesOf written ∧
      (idleSession hostModule).Untouched targetEntry.key.module ∧
      entryLine targetEntry ∉ linesOf (Session.run written (idleSession hostModule)) := by
  have plain : Plain targetEntry.key := by
    simp [Plain]
    decide
  exact ⟨plain, by decide, fun _ member => absurd member List.not_mem_nil, by decide⟩

theorem idleSession_respects {file : Option Text} (lines : linesOf file = [entryLine targetEntry]) :
    Respects file (idleSession twoByteModule) := by
  have read : parseLine twoByteModule (entryLine targetEntry) = some (targetEntry.key, 0) := by decide
  intro entry plain written _
  rw [lines, List.mem_singleton] at written
  have parsed := parseLine_entryLine twoByteModule plain
  rw [written, read] at parsed
  split at parsed
  next restored =>
    obtain ⟨_, offset⟩ := Prod.mk.inj (Option.some.inj parsed)
    refine ⟨restored, ?_, fun line member other parsedLine => ?_, nofun⟩
    · rw [← offset]
      decide
    · rw [lines, List.mem_singleton] at member
      rw [member] at parsedLine
      have same := Option.some.inj (read.symm.trans parsedLine)
      rw [← offset, (Prod.mk.inj same).2]
  · cases parsed

theorem main_module_line_survives :
    entryLine targetEntry ∈ linesOf (run Session.run none
      [resolvingSession twoByteModule, idleSession twoByteModule, idleSession twoByteModule]) := by
  have once : linesOf (Session.run none (resolvingSession twoByteModule)) = [entryLine targetEntry] := by decide
  have again : linesOf (Session.run (Session.run none (resolvingSession twoByteModule))
      (idleSession twoByteModule)) = [entryLine targetEntry] := by decide
  have respected : Guarded Session.run Respects none
      [resolvingSession twoByteModule, idleSession twoByteModule, idleSession twoByteModule] :=
    ⟨fun entry _ written => absurd written List.not_mem_nil, idleSession_respects once,
      idleSession_respects again, trivial⟩
  have plain : Plain targetEntry.key := by
    simp [Plain]
    decide
  refine lines_survive respected [resolvingSession twoByteModule]
    [idleSession twoByteModule, idleSession twoByteModule] [] rfl targetEntry plain ?_ ?_
  · rw [run_cons, run_nil, once]
    exact List.mem_cons_self
  · simp [Session.Untouched, idleSession]

end DevilzDen.Backend.PatternSessions
