import DevilzDen.Backend.Memory.PatternBatchScanner
import Mathlib.Data.List.FinRange

/-! Parallel resolution: one worker job for each request, all on the manager's cache.

The jobs interleave at the granularity of the cache's locked sections. Each job
owns the entry under its own key. The module-wide clean-up that every job
performs first is idempotent on each entry. Workers that run every submitted
job and validators that return are assumed here; saving the cache afterwards
does not change the outcome and is left out.
-/

set_option autoImplicit false

namespace DevilzDen.Backend.PatternManager

open Foundation PatternBatchScanner

/-- What a worker runs: resolve the one request and keep its promise. -/
def job (memory : Memory) (module : ModuleInfo) (request : PatternRequest) :
    CacheProgram (Result PatternResolution) :=
  (resolve true memory module [request]).bind fun
    | .error error => .done (.error error)
    | .ok resolutions => .done (.ok (resolutions.headD ⟨[], 0, false, {}⟩))

/-- Wait for the futures in request order; `none` while one it needs is missing. -/
def collect : List (Option (Result PatternResolution)) → List PatternResolution →
    Option (Result (List PatternResolution))
  | [], resolutions => some (.ok resolutions)
  | none :: _, _ => none
  | some (.error error) :: _, _ => some (.error error)
  | some (.ok resolution) :: later, resolutions => collect later (resolutions ++ [resolution])

def submitted (memory : Memory) (module : ModuleInfo) (requests : List PatternRequest)
    (cache : PatternCache) :
    Pool PatternCache.Action PatternCache.Reply (Fin requests.length) PatternCache
      (Result PatternResolution) where
  jobs index := job memory module (requests.get index)
  store := cache

/-- The outcome under a schedule of the jobs' cache operations. -/
def resolveParallel (memory : Memory) (module : ModuleInfo) (requests : List PatternRequest)
    (cache : PatternCache) (schedule : List (Fin requests.length)) :
    Option (Result (List PatternResolution)) :=
  if requests.isEmpty then some (.ok [])
  else
    let finished := (submitted memory module requests cache).runSchedule PatternCache.handler schedule
    collect ((List.finRange requests.length).map finished.result?) []

/-! ## Jobs of one module work on separate entries -/

section Separation

variable (module : ModuleInfo)

def keyFor (name : Text) : PatternCacheKey := ⟨module.name, name, module.fingerprint.value⟩

def view (name : Text) (cache : PatternCache) : Option PatternCacheEntry :=
  cache.entries.lookup (keyFor module name).stableKey

/-- What the operations of the job for a name do to the entry under its key. -/
def localHandler (_name : Text) :
    Handler PatternCache.Action PatternCache.Reply (Option PatternCacheEntry)
  | .invalidateFingerprint affected validFingerprint, entry =>
      ((), entry.filter fun entry => !PatternCache.outdated affected validFingerprint entry)
  | .find key, entry => PatternCache.findEntry key entry
  | .invalidate _ _, _ => ((), none)
  | .store key address moduleBase, _ => ((), some (PatternCache.makeEntry key address moduleBase))

/-- The clean-up every job starts with, on one entry. -/
def settle (_name : Text) (entry : Option PatternCacheEntry) : Option PatternCacheEntry :=
  entry.filter fun entry => !PatternCache.outdated module.name module.fingerprint.value entry

def own (name : Text) : PatternCache.Action → Prop
  | .invalidateFingerprint affected validFingerprint =>
      affected = module.name ∧ validFingerprint = module.fingerprint.value
  | .find key => key = keyFor module name
  | .invalidate affected affectedName => affected = module.name ∧ affectedName = name
  | .store key _ _ => key = keyFor module name

theorem stableKey_injective {first second : Text}
    (same : (keyFor module first).stableKey = (keyFor module second).stableKey) : first = second :=
  List.append_cancel_left same

theorem separated :
    Separated PatternCache.handler (view module) localHandler (settle module) (own module) where
  settle_idem name entry := by
    cases entry with
    | none => rfl
    | some entry => simp [settle, Option.filter_filter]
  reply name action cache mine := by
    cases action with
    | find key =>
      cases mine
      exact PatternCache.find_fst _ _
    | invalidateFingerprint | invalidate | store => rfl
  changes name action cache mine := by
    cases action with
    | invalidateFingerprint affected validFingerprint =>
      exact PatternCache.lookup_invalidateFingerprint _ _ _ _
    | find key =>
      cases mine
      exact (PatternCache.lookup_find _ _ _).trans (if_pos rfl)
    | invalidate affected affectedName =>
      obtain ⟨rfl, rfl⟩ := mine
      exact (PatternCache.lookup_invalidate _ _ _ _).trans (if_pos rfl)
    | store key address moduleBase =>
      cases mine
      exact (PatternCache.lookup_store _ _ _ _ _).trans (if_pos rfl)
  settled name action entry mine fixed := by
    cases action with
    | invalidateFingerprint affected validFingerprint =>
      obtain ⟨rfl, rfl⟩ := mine
      simp [settle, localHandler, Option.filter_filter]
    -- counting a hit does not change the fingerprint that settling looks at
    | find key =>
      cases entry with
      | none => rfl
      | some entry =>
        have current : PatternCache.outdated module.name module.fingerprint.value entry = false := by
          simpa [settle, Option.filter_eq_some_iff] using fixed
        have counted : PatternCache.outdated module.name module.fingerprint.value
            { entry with hits := entry.hits + 1 } = false := current
        unfold localHandler PatternCache.findEntry settle
        dsimp only
        split
        · simp [current]
        · simp [counted]
    | invalidate => rfl
    | store key address moduleBase =>
      cases mine
      simp [settle, localHandler, PatternCache.outdated, PatternCache.makeEntry, keyFor]
  foreign name other action cache different theirs := by
    -- two names of one module never share a text key
    have apart : (keyFor module name).stableKey ≠ (keyFor module other).stableKey :=
      fun same => different (stableKey_injective module same).symm
    cases action with
    | invalidateFingerprint affected validFingerprint =>
      obtain ⟨rfl, rfl⟩ := theirs
      exact Or.inr (PatternCache.lookup_invalidateFingerprint _ _ _ _)
    | find key =>
      cases theirs
      exact Or.inl ((PatternCache.lookup_find _ _ _).trans (if_neg apart))
    | invalidate affected affectedName =>
      obtain ⟨rfl, rfl⟩ := theirs
      exact Or.inl ((PatternCache.lookup_invalidate _ _ _ _).trans (if_neg apart))
    | store key address moduleBase =>
      cases theirs
      exact Or.inl ((PatternCache.lookup_store _ _ _ _ _).trans (if_neg apart))

variable (memory : Memory) (request : PatternRequest)

theorem scanAndStore_own : (scanAndStore true memory module request).All (own module request.name) := by
  unfold scanAndStore
  split
  · trivial
  · exact ⟨rfl, fun _ => trivial⟩

theorem resolveOne_own : (resolveOne true memory module request).All (own module request.name) := by
  refine ⟨⟨rfl, rfl⟩, fun _ => ⟨rfl, fun found => ?_⟩⟩
  unfold afterFind
  split
  · split
    · trivial
    · exact ⟨⟨rfl, rfl⟩, fun _ => scanAndStore_own module memory request⟩
  · exact scanAndStore_own module memory request

theorem resolveOne_opens (entry : Option PatternCacheEntry) :
    Opens (localHandler request.name) (settle module request.name)
      (resolveOne true memory module request) entry :=
  ⟨congrArg (Prod.mk ()) ((separated module).settle_idem request.name entry),
    (separated module).settle_idem request.name entry⟩

end Separation

/-! ## Any schedule against the sequential resolution -/

section Schedule

variable (memory : Memory) (module : ModuleInfo) (cache : PatternCache)

/-- What a request resolves to from the entry under its key in the initial cache. -/
def isolated (request : PatternRequest) : Result PatternResolution :=
  ((resolveOne true memory module request).run (localHandler request.name)
    (view module request.name cache)).1

theorem job_run {σ : Type} (handler : Handler PatternCache.Action PatternCache.Reply σ)
    (request : PatternRequest) (store : σ) :
    (job memory module request).run handler store =
      (resolveOne true memory module request).run handler store := by
  rw [job, resolve, resolveFrom, Program.run_bind, Program.run_bind]
  obtain ⟨outcome, after⟩ := (resolveOne true memory module request).run handler store
  cases outcome with
  | error error => rfl
  | ok resolution => rfl

theorem job_own (request : PatternRequest) : (job memory module request).All (own module request.name) := by
  refine Program.all_bind (Program.all_bind (resolveOne_own module memory request) ?_) ?_
  · rintro (error | resolution) <;> trivial
  · rintro (error | resolutions) <;> trivial

/-- A cache that the other requests' resolutions may have left: under the
request's key it holds the initial entry or the settled one. -/
def Undisturbed (request : PatternRequest) (later : PatternCache) : Prop :=
  view module request.name later = view module request.name cache ∨
    view module request.name later = settle module request.name (view module request.name cache)

variable {module cache}

theorem resolveOne_undisturbed {request : PatternRequest} {later : PatternCache}
    (undisturbed : Undisturbed module cache request later) :
    ((resolveOne true memory module request).run PatternCache.handler later).1 =
      isolated memory module cache request := by
  rw [((separated module).run_view request.name _ (resolveOne_own module memory request) later).1]
  rcases undisturbed with kept | cleaned
  · rw [kept]
    rfl
  · rw [cleaned]
    exact Separated.run_settled (Or.inr (resolveOne_opens module memory request _))

theorem Undisturbed.resolveOne {request other : PatternRequest} {later : PatternCache}
    (undisturbed : Undisturbed module cache request later) (different : other.name ≠ request.name) :
    Undisturbed module cache request
      ((PatternBatchScanner.resolveOne true memory module other).run PatternCache.handler later).2 := by
  have effect := (separated module).run_foreign different _ (resolveOne_own module memory other) later
  rcases effect with kept | cleaned
  · rw [Undisturbed, kept]
    exact undisturbed
  · rw [Undisturbed, cleaned]
    rcases undisturbed with before | before
    · exact Or.inr (congrArg _ before)
    · rw [before, (separated module).settle_idem]
      exact Or.inr rfl

theorem resolveFrom_isolated {requests : List PatternRequest} (distinct : (requests.map (·.name)).Nodup)
    {later : PatternCache} (undisturbed : ∀ request ∈ requests, Undisturbed module cache request later)
    (resolutions : List PatternResolution) :
    some ((resolveFrom true memory module requests resolutions).run PatternCache.handler later).1 =
      collect (requests.map fun request => some (isolated memory module cache request)) resolutions := by
  induction requests generalizing later resolutions with
  | nil => rfl
  | cons request rest ih =>
    rw [List.map_cons, List.nodup_cons] at distinct
    have first := resolveOne_undisturbed memory (undisturbed request List.mem_cons_self)
    have others : ∀ other ∈ rest, Undisturbed module cache other
        ((resolveOne true memory module request).run PatternCache.handler later).2 := by
      intro other member
      apply (undisturbed other (List.mem_cons_of_mem _ member)).resolveOne memory
      intro same
      exact distinct.1 (List.mem_map.mpr ⟨other, member, same.symm⟩)
    rw [resolveFrom, Program.run_bind, first, List.map_cons]
    cases isolated memory module cache request with
    | error error => rfl
    | ok resolution => exact ih distinct.2 others _

theorem submitted_outcome {requests : List PatternRequest} (distinct : (requests.map (·.name)).Nodup)
    {schedule : List (Fin requests.length)} {index : Fin requests.length}
    {outcome : Result PatternResolution}
    (finished : ((submitted memory module requests cache).runSchedule PatternCache.handler
      schedule).result? index = some outcome) :
    outcome = isolated memory module cache (requests.get index) := by
  have injective : Function.Injective fun index => (requests.get index).name := by
    intro first second same
    have sameRequest := List.inj_on_of_nodup_map distinct (List.get_mem _ first) (List.get_mem _ second) same
    exact List.nodup_iff_injective_get.mp distinct.of_map sameRequest
  refine ((separated module).comap _ injective).schedule_outcome
    (fun index => isolated memory module cache (requests.get index)) (fun index => ?_) schedule finished
  exact {
    mine := job_own memory module _
    insensitive := Or.inr (resolveOne_opens module memory _ _)
    outcome := congrArg Prod.fst (job_run memory module _ _ _) }

/-- Whatever the schedule, once every job has run the outcome is that of the
sequential resolution: the same resolutions, or the same first failure. -/
theorem resolveParallel_eq_resolve (memory : Memory) (module : ModuleInfo) (requests : List PatternRequest)
    (cache : PatternCache) (schedule : List (Fin requests.length))
    (distinct : (requests.map (·.name)).Nodup)
    (everyJobRan : ∀ index, (((submitted memory module requests cache).runSchedule PatternCache.handler
      schedule).result? index).isSome) :
    resolveParallel memory module requests cache schedule =
      some ((resolve true memory module requests).run PatternCache.handler cache).1 := by
  have outcomes : (List.finRange requests.length).map
      ((submitted memory module requests cache).runSchedule PatternCache.handler schedule).result? =
        requests.map fun request => some (isolated memory module cache request) := by
    -- job by job: each index of the pool stands for the request at that position
    conv_rhs => rw [← List.map_get_finRange requests, List.map_map]
    apply List.map_congr_left
    intro index _
    obtain ⟨outcome, finished⟩ := Option.isSome_iff_exists.mp (everyJobRan index)
    rw [finished, submitted_outcome memory distinct finished]
    rfl
  have undisturbed : ∀ request ∈ requests, Undisturbed module cache request cache :=
    fun _ _ => Or.inl rfl
  have sequential := resolveFrom_isolated memory distinct undisturbed []
  rw [resolve, sequential, resolveParallel]
  split
  next empty =>
    rw [List.isEmpty_iff.mp empty]
    rfl
  next => exact congrArg (collect · []) outcomes

/-- Two jobs that take turns at the cache, three operations each. -/
theorem resolveParallel_eq_resolve_alternating :
    let requests := [{ requestFor "AA" with name := text "first" }, { requestFor "BB" with name := text "second" }]
    resolveParallel twoByteMemory twoByteModule requests {} [0, 1, 1, 0, 0, 1] =
      some ((resolve true twoByteMemory twoByteModule requests).run PatternCache.handler {}).1 :=
  resolveParallel_eq_resolve _ _ _ _ _ (by decide) (by decide)

end Schedule

end DevilzDen.Backend.PatternManager
