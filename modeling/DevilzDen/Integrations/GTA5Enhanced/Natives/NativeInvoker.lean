import DevilzDen.Integrations.GTA5Enhanced.Natives.NativeManager

/-! Native invocation by canonical hash, through the cache or the table.

`resolveHandler` is `Invoke` up to its call of `InvokeResolved`. The cache is
consulted first and never again compared with the table.
-/

set_option autoImplicit false

namespace DevilzDen.Integrations.GTA5Enhanced

open Backend Foundation

structure NativeInvokeStats where
  calls : UInt64 := 0
  failures : UInt64 := 0
  cacheHits : UInt64 := 0
  tableHits : UInt64 := 0
  deriving DecidableEq, Repr

/-- The invoker with the manager and the table it refers to. -/
structure NativeInvoker where
  manager : NativeManager := {}
  table : NativeTable := {}
  stats : NativeInvokeStats := {}

namespace NativeInvoker

def failed (invoker : NativeInvoker) : NativeInvoker :=
  { invoker with stats.failures := invoker.stats.failures + 1 }

def invokeResolved (invoker : NativeInvoker) (handler : Address) (argumentCount : Nat)
    (canonicalHash : NativeHash) : Result Unit × NativeInvoker :=
  (.error ((((Error.runtime "Native handler resolved, but no verified call ABI adapter is installed").withContext
    "CanonicalHash" (decimal canonicalHash.value.toNat)).withContext
    "Handler" (decimal handler.toNat)).withContext "ArgumentCount" (decimal argumentCount)), invoker.failed)

/-- The handler that `InvokeResolved` is called with, or the failure before it. -/
def resolveHandler (invoker : NativeInvoker) (canonicalHash : NativeHash) : Result Address × NativeInvoker :=
  let called := { invoker with stats.calls := invoker.stats.calls + 1 }
  if !called.manager.ready then
    (.error (Error.runtime "Native invocation requested before Native_Manager is ready"), called.failed)
  else
    let cached := called.manager.findCached canonicalHash
    let looked := { called with manager := cached.2 }
    -- the cached copy decides here; the table is not asked again
    match cached.1.filter (·.validated) with
    | some hit => (.ok hit.handler, { looked with stats.cacheHits := looked.stats.cacheHits + 1 })
    | none =>
        let translated := looked.manager.translate canonicalHash
        let counted := { looked with manager := translated.2 }
        match translated.1 with
        | .error error => (.error error, counted.failed)
        | .ok runtime =>
            match (counted.table.find runtime).filter fun registration =>
                registration.validated && registration.handler != 0 with
            | none =>
                (.error (((Error.runtime "Native handler is unresolved or unvalidated").withContext
                  "CanonicalHash" (decimal canonicalHash.value.toNat)).withContext
                  "RuntimeHash" (decimal runtime.value.toNat)), counted.failed)
            | some registration =>
                (.ok registration.handler,
                  { counted with
                    manager := counted.manager.cacheResolved canonicalHash registration.handler true
                    stats.tableHits := counted.stats.tableHits + 1 })

def invoke (invoker : NativeInvoker) (canonicalHash : NativeHash) (argumentCount : Nat) :
    Result Unit × NativeInvoker :=
  match invoker.resolveHandler canonicalHash with
  | (.error error, refused) => (.error error, refused)
  | (.ok handler, resolved) => resolved.invokeResolved handler argumentCount canonicalHash

/-! ## The cached path against the table -/

/-- The table holds a validated, non-null registration of the handler under the
runtime hash that the crossmap gives. -/
def Registered (invoker : NativeInvoker) (canonical : NativeHash) (handler : Address) : Prop :=
  ∃ runtime registration, (invoker.manager.translate canonical).1 = .ok runtime ∧
    invoker.table.find runtime = some registration ∧ registration.validated = true ∧
    registration.handler ≠ 0 ∧ registration.handler = handler

/-- Whatever an invocation in this state would hand to `InvokeResolved` is registered. -/
def Coherent (invoker : NativeInvoker) : Prop :=
  ∀ canonical handler, (invoker.resolveHandler canonical).1 = .ok handler → invoker.Registered canonical handler

/-- Every cached handler came through the table and is still validated there. -/
structure Backed (invoker : NativeInvoker) : Prop where
  usable : ∀ runtime cached, invoker.manager.cache.find runtime = some cached →
    cached.validated = true ∧ cached.handler ≠ 0 ∧
      ∃ canonical, (invoker.manager.translate canonical).1 = .ok runtime
  registered : ∀ runtime cached, invoker.manager.cache.find runtime = some cached →
    ∃ registration, invoker.table.find runtime = some registration ∧ registration.validated = true ∧
      registration.handler = cached.handler
  nonzero : ∀ hash registration, invoker.table.find hash = some registration → hash.value ≠ 0

inductive Resolution (invoker : NativeInvoker) (canonical : NativeHash) : Result Address → NativeManager → Prop where
  | refused {error : Error} {manager : NativeManager} (counted : NativeManager.Counted invoker.manager manager) :
      Resolution invoker canonical (.error error) manager
  | fromCache {runtime : NativeHash} {cached : NativeRegistration} {manager : NativeManager}
      (translated : (invoker.manager.translate canonical).1 = .ok runtime)
      (found : invoker.manager.cache.find runtime = some cached) (validated : cached.validated = true)
      (counted : NativeManager.Counted invoker.manager manager) :
      Resolution invoker canonical (.ok cached.handler) manager
  | fromTable {runtime : NativeHash} {registration : NativeRegistration} {counted : NativeManager}
      (translated : (invoker.manager.translate canonical).1 = .ok runtime)
      (found : invoker.table.find runtime = some registration) (validated : registration.validated = true)
      (present : registration.handler ≠ 0) (same : NativeManager.Counted invoker.manager counted) :
      Resolution invoker canonical (.ok registration.handler)
        { counted with cache := invoker.manager.cache.store ⟨runtime, registration.handler, true, 0⟩ }

theorem resolveHandler_resolution (invoker : NativeInvoker) (canonical : NativeHash) :
    Resolution invoker canonical (invoker.resolveHandler canonical).1
      (invoker.resolveHandler canonical).2.manager := by
  have looked := NativeManager.findCached_counted invoker.manager canonical
  unfold resolveHandler
  dsimp only
  split
  · exact .refused (NativeManager.Counted.refl _)
  · split
    next hit found =>
      rw [Option.filter_eq_some_iff, NativeManager.findCached_fst, Option.bind_eq_some_iff] at found
      obtain ⟨⟨runtime, translated, cached⟩, validated⟩ := found
      have ok : (invoker.manager.translate canonical).1 = .ok runtime := by
        cases outcome : (invoker.manager.translate canonical).1 with
        | error error => rw [outcome] at translated; cases translated
        | ok value => rw [outcome] at translated; cases translated; rfl
      exact .fromCache ok cached validated looked
    next missed =>
      -- the two translations of one invocation differ in the counters only
      have counted := looked.trans (NativeManager.translate_counted _ canonical)
      have again := looked.translate canonical
      split
      next error failed => exact .refused counted
      next runtime translated =>
        rw [again] at translated
        split
        · exact .refused counted
        next registration found =>
          rw [Option.filter_eq_some_iff, Bool.and_eq_true, bne_iff_ne] at found
          have still := (counted.translate canonical).trans translated
          obtain ⟨stored, same, cached⟩ :=
            NativeManager.cacheResolved_of_translate still registration.handler true
          rw [cached, counted.cache]
          exact .fromTable translated found.1 found.2.1 found.2.2 (counted.trans same)

theorem resolveHandler_table (invoker : NativeInvoker) (canonical : NativeHash) :
    (invoker.resolveHandler canonical).2.table = invoker.table := by
  unfold resolveHandler
  dsimp only
  split
  · rfl
  · split
    · rfl
    · split
      · rfl
      · split <;> rfl

theorem resolveHandler_of_cached {invoker : NativeInvoker} {canonical runtime : NativeHash}
    {cached : NativeRegistration} (translated : (invoker.manager.translate canonical).1 = .ok runtime)
    (found : invoker.manager.cache.find runtime = some cached) (validated : cached.validated = true) :
    (invoker.resolveHandler canonical).1 = .ok cached.handler := by
  have ready : invoker.manager.ready = true := by
    by_contra unready
    rw [NativeManager.translate, if_pos (by simpa using unready)] at translated
    cases translated
  have hit : (invoker.manager.findCached canonical).1.filter (·.validated) = some cached := by
    rw [NativeManager.findCached_fst, translated]
    exact Option.filter_eq_some_iff.mpr ⟨found, validated⟩
  unfold resolveHandler
  dsimp only
  rw [if_neg (by simp [ready])]
  simp only [hit]

/-! ## Runs -/

inductive Call where
  | initializeBuild (build : BuildInfo) (crossmapPath : Text) (read : Result Text)
  | shutdown
  | register (registration : NativeRegistration)
  | registerBatch (registrations : List NativeRegistration)
  | clear
  | invoke (canonical : NativeHash) (argumentCount : Nat)

def step (invoker : NativeInvoker) : Call → NativeInvoker
  | .initializeBuild build crossmapPath read =>
      { invoker with manager := (invoker.manager.initializeBuild build crossmapPath read).2 }
  | .shutdown => { invoker with manager := invoker.manager.shutdown }
  | .register registration => { invoker with table := (invoker.table.register registration).2 }
  | .registerBatch registrations => { invoker with table := (invoker.table.registerBatch registrations).2 }
  | .clear => { invoker with table := invoker.table.clear }
  | .invoke canonical argumentCount => (invoker.invoke canonical argumentCount).2

/-- The last registration made under a cached hash, if there is one, is validated. -/
def Keeps (cache : NativeCache) (made : List NativeRegistration) : Prop :=
  ∀ runtime cached registration, cache.find runtime = some cached →
    (made.reverse.find? fun last => last.hash = runtime) = some registration → registration.validated = true

def Respects (invoker : NativeInvoker) : Call → Prop
  | .register registration => Keeps invoker.manager.cache (invoker.table.accepted [registration])
  | .registerBatch registrations => Keeps invoker.manager.cache (invoker.table.accepted registrations)
  | .clear => ∀ runtime, invoker.manager.cache.find runtime = none
  | .initializeBuild .. | .shutdown | .invoke .. => True

theorem Backed.of_empty {invoker : NativeInvoker} (empty : ∀ runtime, invoker.manager.cache.find runtime = none)
    (nonzero : ∀ hash registration, invoker.table.find hash = some registration → hash.value ≠ 0) :
    Backed invoker where
  usable runtime cached found := by rw [empty] at found; cases found
  registered runtime cached found := by rw [empty] at found; cases found
  nonzero := nonzero

theorem Backed.coherent {invoker : NativeInvoker} (backed : Backed invoker) : Coherent invoker := by
  intro canonical handler resolved
  have resolution := resolveHandler_resolution invoker canonical
  rw [resolved] at resolution
  generalize (invoker.resolveHandler canonical).2.manager = manager at resolution
  cases resolution with
  | fromCache translated found validated counted =>
    obtain ⟨registration, registered, valid, same⟩ := backed.registered _ _ found
    have present := (backed.usable _ _ found).2.1
    exact ⟨_, registration, translated, registered, valid, same ▸ present, same⟩
  | fromTable translated found validated present same =>
    exact ⟨_, _, translated, found, validated, present, rfl⟩

theorem Backed.registerBatch {invoker : NativeInvoker} (backed : Backed invoker)
    {registrations : List NativeRegistration}
    (keeps : Keeps invoker.manager.cache (invoker.table.accepted registrations)) :
    Backed { invoker with table := (invoker.table.registerBatch registrations).2 } where
  usable := backed.usable
  registered runtime cached found := by
    obtain ⟨existing, before, validated, same⟩ := backed.registered runtime cached found
    obtain ⟨after, foundAfter, handler⟩ :=
      NativeTable.registerBatch_handler ⟨existing, before, same⟩ registrations
    refine ⟨after, foundAfter, ?_, handler⟩
    rw [NativeTable.find_registerBatch, Option.or_eq_some_iff] at foundAfter
    rcases foundAfter with last | ⟨_, kept⟩
    -- the batch has registered this hash last; otherwise the old registration is still there
    · exact keeps runtime cached after found last
    · rw [before] at kept
      cases kept
      exact validated
  nonzero := NativeTable.registerBatch_nonzero backed.nonzero registrations

theorem Backed.counted {invoker : NativeInvoker} (backed : Backed invoker) {manager : NativeManager}
    (counted : NativeManager.Counted invoker.manager manager) (stats : NativeInvokeStats) :
    Backed { manager, table := invoker.table, stats } where
  usable runtime cached found := by
    rw [counted.cache] at found
    obtain ⟨validated, present, canonical, translated⟩ := backed.usable runtime cached found
    exact ⟨validated, present, canonical, (counted.translate canonical).trans translated⟩
  registered runtime cached found := by
    rw [counted.cache] at found
    exact backed.registered runtime cached found
  nonzero := backed.nonzero

theorem Backed.resolved {invoker : NativeInvoker} (backed : Backed invoker) {canonical : NativeHash}
    {outcome : Result Address} {manager : NativeManager}
    (resolution : Resolution invoker canonical outcome manager) (stats : NativeInvokeStats) :
    Backed { manager, table := invoker.table, stats } := by
  cases resolution with
  | refused counted => exact backed.counted counted stats
  | fromCache translated found validated counted => exact backed.counted counted stats
  | @fromTable runtime registration counted translated found validated present same =>
    have before := backed.counted same stats
    constructor
    · intro other cached foundCached
      rw [NativeCache.find_store] at foundCached
      split at foundCached
      next atRuntime =>
        cases foundCached
        refine ⟨rfl, present, canonical, ?_⟩
        rw [NativeManager.translate_cache, atRuntime]
        exact (same.translate canonical).trans translated
      next =>
        rw [← same.cache] at foundCached
        obtain ⟨usable, nonzero, known, ok⟩ := before.usable other cached foundCached
        exact ⟨usable, nonzero, known, (congrArg Prod.fst (NativeManager.translate_cache _ _ known)).trans ok⟩
    · intro other cached foundCached
      rw [NativeCache.find_store] at foundCached
      split at foundCached
      next atRuntime =>
        cases foundCached
        exact ⟨registration, atRuntime ▸ found, validated, rfl⟩
      next => exact backed.registered other cached foundCached
    · exact backed.nonzero

theorem Backed.preserved {invoker : NativeInvoker} (backed : Backed invoker) {call : Call}
    (respects : Respects invoker call) : Backed (invoker.step call) := by
  cases call with
  | initializeBuild build crossmapPath read =>
    refine Backed.of_empty (fun runtime => ?_) backed.nonzero
    rw [step, NativeManager.initializeBuild_cache]
    rfl
  | shutdown => exact Backed.of_empty (fun _ => rfl) backed.nonzero
  | register registration =>
    have batch := backed.registerBatch respects
    rw [NativeTable.registerBatch_singleton] at batch
    exact batch
  | registerBatch registrations => exact backed.registerBatch respects
  | clear => exact Backed.of_empty respects fun _ _ found => by cases found
  | invoke canonical argumentCount =>
    have table := resolveHandler_table invoker canonical
    have resolved := backed.resolved (resolveHandler_resolution invoker canonical)
    rw [← table] at resolved
    rw [step, invoke]
    split
    next error refused same =>
      rw [same] at resolved
      exact resolved refused.stats
    next handler hit same =>
      rw [same] at resolved
      exact resolved hit.failed.stats

/-- A handler that is cached but no longer registered is still invoked. -/
theorem Backed.not_coherent {invoker : NativeInvoker} (backed : Backed invoker) {runtime : NativeHash}
    {cached : NativeRegistration} (found : invoker.manager.cache.find runtime = some cached)
    {table : NativeTable} (withdrawn : ∀ registration, table.find runtime = some registration →
      registration.validated = false) : ¬Coherent { invoker with table } := by
  intro coherent
  obtain ⟨validated, _, canonical, translated⟩ := backed.usable runtime cached found
  have resolved : (({ invoker with table } : NativeInvoker).resolveHandler canonical).1 = .ok cached.handler :=
    resolveHandler_of_cached translated found validated
  obtain ⟨other, registration, sameRuntime, registered, valid, _⟩ := coherent canonical _ resolved
  rw [translated] at sameRuntime
  cases sameRuntime
  exact Bool.false_ne_true ((withdrawn registration registered).symm.trans valid)

theorem Backed.keeps_of_coherent {invoker : NativeInvoker} (backed : Backed invoker)
    {registrations : List NativeRegistration}
    (coherent : Coherent { invoker with table := (invoker.table.registerBatch registrations).2 }) :
    Keeps invoker.manager.cache (invoker.table.accepted registrations) := by
  intro runtime cached registration found last
  by_contra withdrawn
  refine backed.not_coherent found (fun after registered => ?_) coherent
  rw [NativeTable.find_registerBatch, last] at registered
  cases registered
  simpa using withdrawn

theorem Backed.respects_of_coherent {invoker : NativeInvoker} (backed : Backed invoker) (call : Call)
    (coherent : Coherent (invoker.step call)) : Respects invoker call := by
  cases call with
  | initializeBuild | shutdown | invoke => trivial
  | register registration =>
    apply backed.keeps_of_coherent
    rw [NativeTable.registerBatch_singleton]
    exact coherent
  | registerBatch registrations => exact backed.keeps_of_coherent coherent
  | clear =>
    intro runtime
    by_contra present
    obtain ⟨cached, found⟩ := Option.ne_none_iff_exists'.mp present
    exact backed.not_coherent found (fun _ registered => by cases registered) coherent

/-- In every state of a run the cached path agrees with the table, exactly when
the calls never withdraw from the table what is cached. -/
theorem cached_path_coherent (calls : List Call) :
    Always step Coherent {} calls ↔ Guarded step Respects {} calls :=
  always_iff_guarded Backed (fun _ _ backed respects => backed.preserved respects)
    (fun _ => Backed.coherent) (fun _ call backed => backed.respects_of_coherent call)
    (Backed.of_empty (fun _ => rfl) fun _ _ found => by cases found) calls

/-- One native is registered, invoked once, and withdrawn by clearing the table. -/
def clearedAfterUse : List Call :=
  [.initializeBuild { fingerprint := 7 } (text "map.txt") (.ok (NativeCrossmap.saveText [⟨⟨0xA1⟩, ⟨0xB2⟩, 7, []⟩])),
    .register ⟨⟨0xB2⟩, 0x1000, true, 0⟩, .invoke ⟨0xA1⟩ 0, .clear]

theorem cleared_handler_still_invoked :
    ((run step {} clearedAfterUse).resolveHandler ⟨0xA1⟩).1 = .ok 0x1000 ∧
      (run step {} clearedAfterUse).table.find ⟨0xB2⟩ = none ∧
      ¬Always step Coherent {} clearedAfterUse := by
  have resolved : ((run step {} clearedAfterUse).resolveHandler ⟨0xA1⟩).1 = .ok 0x1000 := by decide
  refine ⟨resolved, rfl, fun always => ?_⟩
  obtain ⟨runtime, registration, _, registered, _⟩ := always clearedAfterUse [] (by simp) _ _ resolved
  cases registered

end NativeInvoker

end DevilzDen.Integrations.GTA5Enhanced
