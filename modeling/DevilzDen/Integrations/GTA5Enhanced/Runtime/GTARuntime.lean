import DevilzDen.Integrations.GTA5Enhanced.Natives.NativeManager
import DevilzDen.Integrations.GTA5Enhanced.Script.ScriptRuntimeManager

/-! The runtime of a build: its pointers, its scripts and its natives.

The handler table and the invoker are left out: neither call here reads them.
-/

set_option autoImplicit false

namespace DevilzDen.Integrations.GTA5Enhanced

open Backend Foundation

structure GTAPointers where
  nativeTable : Address := 0
  initNativeTables : Address := 0
  gameState : Address := 0
  scriptGlobals : Address := 0
  scriptThreads : Address := 0
  programTable : Address := 0
  scriptVM : Address := 0
  frameCount : Address := 0
  deriving DecidableEq, Repr

inductive GameStateType where
  | unknown
  | booting
  | loading
  | playing
  | paused
  | transitioning
  | shuttingDown
  deriving DecidableEq, Repr

inductive GTARuntimeState where
  | created
  | initializing
  | ready
  | degraded
  | failed
  | stopped
  deriving DecidableEq, Repr

structure GTARuntime where
  build : BuildInfo := {}
  pointers : GTAPointers := {}
  scripts : ScriptRuntimeManager := {}
  natives : NativeManager := {}
  nativeTable : NativeTable := {}
  state : GTARuntimeState := .created
  gameState : GameStateType := .unknown

namespace GTARuntime

def validatePointers (runtime : GTARuntime) : Result Unit :=
  if runtime.pointers.nativeTable = 0 then .error (Error.runtime "GTA native table pointer is unresolved")
  else if runtime.pointers.gameState = 0 then .error (Error.runtime "GTA game-state pointer is unresolved")
  else .ok ()

/-- `Initialize`, with what reading the crossmap file returned. -/
def initializeBuild (runtime : GTARuntime) (build : BuildInfo) (pointers : GTAPointers) (crossmapPath : Text)
    (read : Result Text) : Result Unit × GTARuntime :=
  let started := { runtime with state := .initializing, build, pointers }
  -- the exits before the natives leave them, and the scripts, as an earlier call made them
  if build.fingerprint = 0 then
    (.error (Error.runtime "GTA runtime requires a validated build fingerprint"),
      { started with state := .failed })
  else match started.validatePointers with
    | .error error => (.error error, { started with state := .failed })
    | .ok _ =>
        let (scripted, scripts) := started.scripts.initializeBuild build
        match scripted with
        | .error error => (.error error, { started with scripts, state := .failed })
        | .ok _ =>
            let (loaded, natives) := started.natives.initializeBuild build crossmapPath read
            match loaded with
            | .error _ => (.ok (), { started with scripts, natives, state := .degraded })
            | .ok _ => (.ok (), { started with scripts, natives, state := .ready })

def shutdown (runtime : GTARuntime) : GTARuntime where
  build := {}
  pointers := {}
  scripts := runtime.scripts.shutdown
  natives := runtime.natives.shutdown
  nativeTable := runtime.nativeTable.clear
  state := .stopped
  gameState := .unknown

inductive Call where
  | initializeBuild (build : BuildInfo) (pointers : GTAPointers) (crossmapPath : Text) (read : Result Text)
  | shutdown

def step (runtime : GTARuntime) : Call → GTARuntime
  | .initializeBuild build pointers crossmapPath read =>
      (runtime.initializeBuild build pointers crossmapPath read).2
  | .shutdown => runtime.shutdown

/-! ## The runtime's state and that of its natives -/

/-- The runtime and its subsystems tell the same story. -/
structure Agrees (runtime : GTARuntime) : Prop where
  ready : runtime.natives.ready = true ↔ runtime.state = .ready
  build : runtime.state = .ready → runtime.natives.build.fingerprint = runtime.build.fingerprint ∧
    runtime.scripts.build.fingerprint = runtime.build.fingerprint
  down : runtime.state = .failed ∨ runtime.state = .stopped → ∀ canonical,
    ∃ error, (runtime.natives.translate canonical).1 = .error error

/-- The arguments that get past the first exits of `Initialize`. -/
def Admissible (build : BuildInfo) (pointers : GTAPointers) : Prop :=
  build.fingerprint ≠ 0 ∧ pointers.nativeTable ≠ 0 ∧ pointers.gameState ≠ 0

/-- A runtime that is ready is initialized again with admissible arguments only. -/
def Respects (runtime : GTARuntime) : Call → Prop
  | .initializeBuild build pointers _ _ => runtime.state = .ready → Admissible build pointers
  | .shutdown => True

/-- An early exit touches neither the natives nor the scripts. -/
theorem initializeBuild_of_not_admissible (runtime : GTARuntime) {build : BuildInfo} {pointers : GTAPointers}
    (short : ¬Admissible build pointers) (crossmapPath : Text) (read : Result Text) :
    (runtime.initializeBuild build pointers crossmapPath read).2 =
      { runtime with build, pointers, state := .failed } := by
  unfold initializeBuild validatePointers
  dsimp only
  by_cases fingerprint : build.fingerprint = 0
  · rw [if_pos fingerprint]
  · rw [if_neg fingerprint]
    by_cases nativeTable : pointers.nativeTable = 0
    · rw [if_pos nativeTable]
    · rw [if_neg nativeTable]
      by_cases gameState : pointers.gameState = 0
      · rw [if_pos gameState]
      · exact absurd ⟨fingerprint, nativeTable, gameState⟩ short

theorem initializeBuild_of_admissible (runtime : GTARuntime) {build : BuildInfo} {pointers : GTAPointers}
    (admissible : Admissible build pointers) (crossmapPath : Text) (read : Result Text) :
    ∃ scripts natives result, NativeManager.Initialized build result natives ∧ scripts.build = build ∧
      (runtime.initializeBuild build pointers crossmapPath read).2 =
        { runtime with
          build
          pointers
          scripts
          natives
          state := if result = .ok () then .ready else .degraded } := by
  obtain ⟨fingerprint, nativeTable, gameState⟩ := admissible
  have initialized := NativeManager.initializeBuild_initialized runtime.natives build crossmapPath read
  unfold initializeBuild validatePointers ScriptRuntimeManager.initializeBuild
  dsimp only
  rw [if_neg fingerprint, if_neg nativeTable, if_neg gameState, if_neg fingerprint]
  dsimp only
  generalize runtime.natives.initializeBuild build crossmapPath read = outcome at initialized
  obtain ⟨result, natives⟩ := outcome
  refine ⟨{ build, globals := runtime.scripts.globals.clear, state := .ready }, natives, result, initialized,
    rfl, ?_⟩
  cases result with
  | error error => rfl
  | ok => rfl

theorem Agrees.preserved {runtime : GTARuntime} (agrees : Agrees runtime) {call : Call}
    (respects : Respects runtime call) : Agrees (step runtime call) := by
  cases call with
  | initializeBuild build pointers crossmapPath read =>
    by_cases admissible : Admissible build pointers
    · obtain ⟨scripts, natives, result, initialized, scripted, next⟩ :=
        initializeBuild_of_admissible runtime admissible crossmapPath read
      rw [step, next]
      cases result with
      | ok =>
        refine ⟨iff_of_true (initialized.ready.mpr rfl) rfl, fun _ => ⟨?_, ?_⟩, ?_⟩
        · exact congrArg BuildInfo.fingerprint initialized.build
        · exact congrArg BuildInfo.fingerprint scripted
        · rintro (failed | stopped)
          · cases failed
          · cases stopped
      | error error =>
        refine ⟨iff_of_false (mt initialized.ready.mp nofun) nofun, nofun, ?_⟩
        rintro (failed | stopped)
        · cases failed
        · cases stopped
    · -- the runtime was not ready, so its natives were not either
      have idle : runtime.natives.ready = false :=
        Bool.eq_false_iff.mpr fun ready => admissible (respects (agrees.ready.mp ready))
      rw [step, initializeBuild_of_not_admissible runtime admissible]
      exact ⟨iff_of_false (Bool.eq_false_iff.mp idle) nofun, nofun,
        fun _ canonical => ⟨_, NativeManager.translate_of_not_ready idle canonical⟩⟩
  | shutdown =>
    exact ⟨iff_of_false Bool.false_ne_true nofun, nofun,
      fun _ canonical => ⟨_, NativeManager.translate_of_not_ready rfl canonical⟩⟩

theorem Agrees.respects {runtime : GTARuntime} (agrees : Agrees runtime) (call : Call)
    (next : Agrees (step runtime call)) : Respects runtime call := by
  cases call with
  | initializeBuild build pointers crossmapPath read =>
    intro ready
    by_contra short
    rw [step, initializeBuild_of_not_admissible runtime short] at next
    exact absurd (next.ready.mp (agrees.ready.mpr ready)) nofun
  | shutdown => trivial

theorem created_agrees : Agrees {} where
  ready := iff_of_false Bool.false_ne_true nofun
  build := nofun
  down := by
    rintro (failed | stopped)
    · cases failed
    · cases stopped

/-- The runtime agrees with its natives after every call, exactly when no
ready runtime is initialized with arguments that an early exit turns down. -/
theorem state_agrees_iff (calls : List Call) :
    Always step Agrees {} calls ↔ Guarded step Respects {} calls :=
  always_iff_guarded Agrees (fun _ _ agrees => agrees.preserved) (fun _ => id)
    (fun _ call agrees => agrees.respects call) created_agrees calls

def oneEntry : Text := text "DDXMAP1\n1\tA\tB\tWAIT\n"

def readyThenRefused : List Call :=
  [.initializeBuild { fingerprint := 1 } { nativeTable := 0x1000, gameState := 0x2000 } [] (.ok oneEntry),
    .initializeBuild {} {} [] (.ok [])]

theorem refused_runtime_translates :
    (run step {} readyThenRefused).state = .failed ∧
      ((run step {} readyThenRefused).natives.translate ⟨10⟩).1 = .ok ⟨11⟩ ∧
      ¬Always step Agrees {} readyThenRefused := by
  have failed : (run step {} readyThenRefused).state = .failed := by decide
  have translated : ((run step {} readyThenRefused).natives.translate ⟨10⟩).1 = .ok ⟨11⟩ := by decide
  refine ⟨failed, translated, fun always => ?_⟩
  have agrees : Agrees (run step {} readyThenRefused) := always readyThenRefused [] rfl
  obtain ⟨error, fails⟩ := agrees.down (Or.inl failed) ⟨10⟩
  cases fails.symm.trans translated

end GTARuntime

end DevilzDen.Integrations.GTA5Enhanced
