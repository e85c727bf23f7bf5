import DevilzDen.Backend.Memory.PatternBatchScanner
import DevilzDen.Integrations.GTA5Enhanced.Memory.GTATargetDefinition
import DevilzDen.Integrations.GTA5Enhanced.Runtime.GTARuntime

/-! The pointers of a build, resolved by its patterns.

`Resolve` looks at the manager only when it takes the lock to store what it has
found, so that calls which overlap go by the order of their locks. The pattern
sets and the answers of the pattern manager are parameters.
-/

set_option autoImplicit false

namespace DevilzDen.Integrations.GTA5Enhanced

open Backend Foundation

structure GTAPatternSet where
  buildFingerprint : UInt64 := 0
  requests : List PatternRequest := []

/-- There are no signatures yet for any build. -/
def GTAPatterns.core (build : BuildInfo) : GTAPatternSet where
  buildFingerprint := build.fingerprint

namespace GTAPointers

def coreReady (pointers : GTAPointers) : Bool := pointers.gameState != 0 && pointers.scriptGlobals != 0

def scriptReady (pointers : GTAPointers) : Bool :=
  pointers.scriptGlobals != 0 && pointers.scriptThreads != 0 && pointers.programTable != 0

def ready (pointers : GTAPointers) : Bool := pointers.coreReady && pointers.scriptReady

end GTAPointers

structure GTAPointerManager where
  pointers : GTAPointers := {}
  buildFingerprint : UInt64 := 0
  deriving DecidableEq

namespace GTAPointerManager

def assignOne (pointers : GTAPointers) (resolution : PatternResolution) : GTAPointers :=
  if resolution.name = text "NativeTable" then { pointers with nativeTable := resolution.address }
  else if resolution.name = text "GameState" then { pointers with gameState := resolution.address }
  else if resolution.name = text "ScriptGlobals" then { pointers with scriptGlobals := resolution.address }
  else if resolution.name = text "FrameCount" then { pointers with frameCount := resolution.address }
  else pointers

def assign (resolutions : List PatternResolution) (pointers : GTAPointers) : GTAPointers :=
  resolutions.foldl assignOne pointers

def validate (pointers : GTAPointers) : Result Unit :=
  if pointers.nativeTable = 0 then .error (Error.runtime "NativeTable pointer was not resolved")
  else if pointers.gameState = 0 then .error (Error.runtime "GameState pointer was not resolved")
  else .ok ()

/-- `Resolve` up to the lock, with what `ResolveModule` returns for the requests. -/
def find (core : BuildInfo → GTAPatternSet) (build : BuildInfo)
    (resolveModule : List PatternRequest → Result (List PatternResolution)) : Result GTAPointers :=
  if build.fingerprint = 0 then
    .error (Error.runtime "Cannot resolve GTA pointers without a build fingerprint")
  else
    let set := core build
    if set.buildFingerprint ≠ build.fingerprint ∨ set.requests.isEmpty then
      .error ((Error.runtime "No verified GTA Enhanced pattern set is registered for this build").withContext
        "BuildFingerprint" (decimal build.fingerprint.toNat))
    else match resolveModule set.requests with
      | .error error => .error error
      | .ok resolved =>
          let pointers := assign resolved {}
          match validate pointers with
          | .error error => .error error
          | .ok _ => .ok pointers

def resolve (core : BuildInfo → GTAPatternSet) (manager : GTAPointerManager) (build : BuildInfo)
    (resolveModule : List PatternRequest → Result (List PatternResolution)) :
    Result GTAPointers × GTAPointerManager :=
  match find core build resolveModule with
  | .error error => (.error error, manager)
  | .ok pointers => (.ok pointers, { pointers, buildFingerprint := build.fingerprint })

def snapshot (manager : GTAPointerManager) : GTAPointers := manager.pointers

def ready (manager : GTAPointerManager) : Bool := manager.buildFingerprint != 0 && manager.pointers.ready

def clear (_manager : GTAPointerManager) : GTAPointerManager := {}

end GTAPointerManager

namespace GTAPointerValidator

def makeStatus (id : GTARuntimeTargetId) (name : String) (present : Bool) : GTARuntimeTargetStatus where
  id := id
  name := text name
  state := if present then .located else .missing
  detail :=
    if present then text "Pointer resolved; semantic validation is still required"
    else text "Required pointer has not been resolved for this build"

def validate (pointers : GTAPointers) : List GTARuntimeTargetStatus :=
  [makeStatus .gameState "GameState" (pointers.gameState != 0),
    makeStatus .frameCount "FrameCount" (pointers.frameCount != 0),
    makeStatus .scriptGlobals "ScriptGlobals" (pointers.scriptGlobals != 0),
    makeStatus .programTable "ProgramTable" (pointers.programTable != 0),
    makeStatus .scriptThreads "ScriptThreads" (pointers.scriptThreads != 0),
    makeStatus .initNativeTables "InitNativeTables" (pointers.initNativeTables != 0),
    makeStatus .nativeTable "NativeTable" (pointers.nativeTable != 0)]

end GTAPointerValidator

namespace GTAPointerManager

inductive Move where
  | resolve (build : BuildInfo) (resolveModule : List PatternRequest → Result (List PatternResolution))
  | clear

def step (core : BuildInfo → GTAPatternSet) (manager : GTAPointerManager) : Move → GTAPointerManager
  | .resolve build resolveModule => (manager.resolve core build resolveModule).2
  | .clear => manager.clear

/-! ## What the resolutions say -/

def named (resolutions : List PatternResolution) (name : String) : Address :=
  ((resolutions.reverse.find? (·.name = text name)).map (·.address)).getD 0

theorem named_append (resolutions : List PatternResolution) (resolution : PatternResolution) (name : String) :
    named (resolutions ++ [resolution]) name =
      if resolution.name = text name then resolution.address else named resolutions name := by
  rw [named, List.reverse_append, List.reverse_singleton, List.singleton_append, List.find?_cons, named]
  by_cases same : resolution.name = text name <;> simp [same]

theorem assign_append (resolutions : List PatternResolution) (resolution : PatternResolution) (pointers : GTAPointers) :
    assign (resolutions ++ [resolution]) pointers = assignOne (assign resolutions pointers) resolution := by
  rw [assign, List.foldl_append]
  rfl

theorem assign_eq (resolutions : List PatternResolution) : assign resolutions {} =
    { nativeTable := named resolutions "NativeTable"
      gameState := named resolutions "GameState"
      scriptGlobals := named resolutions "ScriptGlobals"
      frameCount := named resolutions "FrameCount" } := by
  induction resolutions using List.reverseRecOn with
  | nil => rfl
  | append_singleton earlier resolution ih =>
    rw [assign_append, ih, assignOne]
    simp only [named_append]
    split
    next name => rw [name, if_neg (by decide), if_neg (by decide), if_neg (by decide)]
    · split
      next name => rw [name, if_neg (by decide), if_neg (by decide)]
      · split
        next name => rw [name, if_neg (by decide)]
        · split <;> rfl

/-- The moves that change the manager: a resolution that succeeds, and `Clear`. -/
def Changes (core : BuildInfo → GTAPatternSet) : Move → Prop
  | .resolve build resolveModule => ∃ pointers, find core build resolveModule = .ok pointers
  | .clear => True

structure Found (core : BuildInfo → GTAPatternSet) (build : BuildInfo)
    (resolveModule : List PatternRequest → Result (List PatternResolution)) (resolved : List PatternResolution)
    (pointers : GTAPointers) : Prop where
  registered : (core build).buildFingerprint = build.fingerprint ∧ (core build).requests ≠ []
  answered : resolveModule (core build).requests = .ok resolved
  assigned : pointers = assign resolved {}
  admissible : GTARuntime.Admissible build pointers

theorem find_eq_ok_iff {core : BuildInfo → GTAPatternSet} {build : BuildInfo}
    {resolveModule : List PatternRequest → Result (List PatternResolution)} {pointers : GTAPointers} :
    find core build resolveModule = .ok pointers ↔ ∃ resolved, Found core build resolveModule resolved pointers := by
  constructor
  · intro found
    unfold find at found
    split at found
    · cases found
    next fingerprint =>
      dsimp only at found
      split at found
      · cases found
      next registered =>
        rw [not_or, not_not] at registered
        split at found
        · cases found
        next resolved answered =>
          split at found
          · cases found
          next valid =>
            cases found
            refine ⟨resolved, ⟨registered.1, by simpa using registered.2⟩, answered, rfl, fingerprint, ?_⟩
            unfold validate at valid
            split at valid
            · cases valid
            next native =>
              split at valid
              · cases valid
              next state => exact ⟨native, state⟩
  · rintro ⟨resolved, ⟨same, requested⟩, answered, rfl, fingerprint, native, state⟩
    have asked : ¬((core build).buildFingerprint ≠ build.fingerprint ∨ (core build).requests.isEmpty = true) := by
      simp [same, requested]
    unfold find
    rw [if_neg fingerprint]
    dsimp only
    rw [if_neg asked, answered]
    dsimp only
    rw [validate, if_neg native, if_neg state]

theorem step_of_found {core : BuildInfo → GTAPatternSet} {build : BuildInfo}
    {resolveModule : List PatternRequest → Result (List PatternResolution)} {pointers : GTAPointers}
    (found : find core build resolveModule = .ok pointers) (manager : GTAPointerManager) :
    step core manager (.resolve build resolveModule) = { pointers, buildFingerprint := build.fingerprint } := by
  rw [step, resolve, found]

theorem step_of_not_changes {core : BuildInfo → GTAPatternSet} {move : Move} (same : ¬Changes core move)
    (manager : GTAPointerManager) : step core manager move = manager := by
  cases move with
  | clear => exact absurd trivial same
  | resolve build resolveModule =>
    rw [step, resolve]
    split
    · rfl
    next pointers found => exact absurd ⟨pointers, found⟩ same

theorem run_of_last {core : BuildInfo → GTAPatternSet} {moves earlier later : List Move} {last : Move}
    (isLast : Last (Changes core) moves earlier last later) (manager : GTAPointerManager) :
    run (step core) manager moves = step core (run (step core) manager earlier) last := by
  obtain ⟨rfl, _, unchanged⟩ := isLast
  rw [run_append, run_cons]
  exact run_of_forall_same _ fun move member => step_of_not_changes (unchanged move member) _

structure Unnamed (pointers : GTAPointers) : Prop where
  initNativeTables : pointers.initNativeTables = 0
  scriptThreads : pointers.scriptThreads = 0
  programTable : pointers.programTable = 0
  scriptVM : pointers.scriptVM = 0

/-- A manager without a build has no pointers, and none has those that are not named. -/
def Sparse (manager : GTAPointerManager) : Prop :=
  Unnamed manager.pointers ∧ (manager.buildFingerprint = 0 → manager = {})

theorem Sparse.preserved {core : BuildInfo → GTAPatternSet} (manager : GTAPointerManager) (move : Move)
    (sparse : Sparse manager) : Sparse (step core manager move) := by
  by_cases changes : Changes core move
  · cases move with
    | clear => exact ⟨⟨rfl, rfl, rfl, rfl⟩, fun _ => rfl⟩
    | resolve build resolveModule =>
      obtain ⟨pointers, found⟩ := changes
      obtain ⟨resolved, _, _, rfl, known, _⟩ := find_eq_ok_iff.mp found
      rw [step_of_found found]
      refine ⟨?_, fun unknown => absurd unknown known⟩
      rw [assign_eq]
      exact ⟨rfl, rfl, rfl, rfl⟩
  · rw [step_of_not_changes changes]
    exact sparse

/-- The pointers at any time are those of the last resolution that succeeded, unless they
were cleared since: each is the last address resolved under its name, and a runtime can be
initialized with them. Whatever the patterns, `Ready` is never true, and the validator
reports the targets that `Assign` has no name for, as missing. -/
theorem pointers_of_last_resolution (core : BuildInfo → GTAPatternSet) (moves : List Move) :
    let manager := run (step core) {} moves
    (manager.buildFingerprint ≠ 0 ↔ ∃ earlier build resolveModule later,
      Last (Changes core) moves earlier (.resolve build resolveModule) later) ∧
    (∀ earlier build resolveModule later, Last (Changes core) moves earlier (.resolve build resolveModule) later →
      manager.buildFingerprint = build.fingerprint ∧ GTARuntime.Admissible build manager.snapshot ∧
      ∃ resolved, resolveModule (core build).requests = .ok resolved ∧ manager.snapshot =
        { nativeTable := named resolved "NativeTable"
          gameState := named resolved "GameState"
          scriptGlobals := named resolved "ScriptGlobals"
          frameCount := named resolved "FrameCount" }) ∧
    (manager.buildFingerprint = 0 → manager.snapshot = {}) ∧ manager.ready = false ∧
    ∀ id ∈ [GTARuntimeTargetId.programTable, .scriptThreads, .initNativeTables],
      (∃ status ∈ GTAPointerValidator.validate manager.snapshot, status.id = id) ∧
        ∀ status ∈ GTAPointerValidator.validate manager.snapshot, status.id = id → status.state = .missing := by
  intro manager
  have sparse : Sparse manager := run_invariant Sparse.preserved ⟨⟨rfl, rfl, rfl, rfl⟩, fun _ => rfl⟩ moves
  have resolves {earlier later : List Move} {build : BuildInfo}
      {resolveModule : List PatternRequest → Result (List PatternResolution)}
      (last : Last (Changes core) moves earlier (.resolve build resolveModule) later) :
      ∃ resolved pointers, Found core build resolveModule resolved pointers ∧
        manager = { pointers, buildFingerprint := build.fingerprint } := by
    obtain ⟨pointers, found⟩ := last.2.1
    obtain ⟨resolved, through⟩ := find_eq_ok_iff.mp found
    exact ⟨resolved, pointers, through, (run_of_last last {}).trans (step_of_found found _)⟩
  refine ⟨⟨fun known => ?_, ?_⟩, fun earlier build resolveModule later last => ?_, fun unknown => ?_, ?_, ?_⟩
  · rcases exists_last (Changes core) moves with unchanged | ⟨earlier, move, later, last⟩
    · have same : manager = {} :=
        run_of_forall_same _ fun move member => step_of_not_changes (unchanged move member) _
      exact absurd (congrArg buildFingerprint same) known
    · cases move with
      | clear => exact absurd (congrArg buildFingerprint (run_of_last last {})) known
      | resolve build resolveModule => exact ⟨earlier, build, resolveModule, later, last⟩
  · rintro ⟨earlier, build, resolveModule, later, last⟩
    obtain ⟨resolved, pointers, found, same⟩ := resolves last
    rw [same]
    exact found.admissible.1
  · obtain ⟨resolved, pointers, found, same⟩ := resolves last
    rw [same]
    exact ⟨rfl, found.admissible, resolved, found.answered, found.assigned.trans (assign_eq resolved)⟩
  · exact congrArg pointers (sparse.2 unknown)
  · simp [ready, GTAPointers.ready, GTAPointers.scriptReady, sparse.1.scriptThreads]
  · intro id unnamed
    constructor
    · simp only [List.mem_cons, List.not_mem_nil, or_false] at unnamed
      rcases unnamed with rfl | rfl | rfl <;> simp [GTAPointerValidator.validate, GTAPointerValidator.makeStatus]
    · rintro status member rfl
      simp only [GTAPointerValidator.validate, snapshot, sparse.1.scriptThreads, sparse.1.programTable,
        sparse.1.initNativeTables, List.mem_cons, List.not_mem_nil, or_false] at member unnamed
      rcases member with rfl | rfl | rfl | rfl | rfl | rfl | rfl
      all_goals first | rfl | simp [GTAPointerValidator.makeStatus] at unnamed

/-- No build has patterns yet, so that every resolution fails and leaves no pointers. -/
theorem run_core (moves : List Move) : run (step GTAPatterns.core) {} moves = {} := by
  apply run_of_forall_same _
  intro move _
  cases move with
  | clear => rfl
  | resolve build resolveModule =>
    refine step_of_not_changes ?_ _
    rintro ⟨pointers, found⟩
    obtain ⟨resolved, through⟩ := find_eq_ok_iff.mp found
    exact through.registered.2 rfl

end GTAPointerManager

end DevilzDen.Integrations.GTA5Enhanced
