import DevilzDen.Integrations.GTA5Enhanced.GTAModuleManager
import DevilzDen.Integrations.GTA5Enhanced.Natives.GTANativeManager
import DevilzDen.Integrations.GTA5Enhanced.Runtime.GTARunScriptThreadsBridge

/-! Starting the library inside the game.

A start reaches foreign code twice: it calls the bootstrap routine of the
natives, and it patches the entry of `RunScriptThreads`. Logging and the
executors are left out.
-/

set_option autoImplicit false

namespace DevilzDen

open Backend Foundation Integrations.GTA5Enhanced

structure RuntimeManager where
  running : Bool := false
  gta : GTAModuleManager := {}
  natives : GTANativeManager := {}
  gameThreadBridge : GTARunScriptThreadsBridge := {}
  active : ActiveBridge := .none
  trampoline : List UInt8 := []

namespace RuntimeManager

/-- What a start meets, phase by phase: while it refreshes, while it initializes
the native manager, and while it installs the bridge. -/
structure Startup where
  refresh : GTAModuleManager.Observations
  initialization : HostProcess
  bootstrap : GTANativeManager.Bootstrap
  memory : Memory
  regions : VirtualQuery
  allocated : Address
  protection : GTARunScriptThreadsBridge.Protection
  hookThunk : Address
  nativesReference : Address
  loggerReference : Address

/-- The manager after a phase, with the addresses at which foreign code was
called or overwritten in it, and the memory it leaves. -/
structure Phase where
  manager : RuntimeManager
  memory : Memory
  called : List Address := []
  copied : List Address := []

/-- The address of the first target with the id that is validated, or null. -/
def validatedAddress (id : GTARuntimeTargetId) (targets : List GTATargetResolution) : Address :=
  ((targets.find? fun target => target.status.id == id && target.status.state == .validated).map
    (·.address)).getD 0

def initializeNativeManager (manager : RuntimeManager) (startup : Startup) (status : GTAModuleStatus) : Phase :=
  let idle : Phase := { manager, memory := startup.memory }
  match status.process, status.build, status.targetReport with
  | some process, some build, some report =>
      let initNativeTables := validatedAddress .initNativeTables report.targets
      if initNativeTables = 0 then idle
      else match ProcessModuleManager.find startup.initialization process.pid (text "GTA5_Enhanced.exe") with
        | .error _ => idle
        | .ok module =>
            let initialized := manager.natives.initializeNatives startup.initialization.regions
              startup.bootstrap initNativeTables module.baseAddress module.imageSize.toUInt64 build.fingerprint
            { idle with
              manager := { manager with natives := initialized.manager }
              called := initialized.called }
  | _, _, _ => idle

structure BridgeTargets where
  runScriptThreads : Address := 0
  scriptThreadsStorage : Address := 0
  expectedDispatch : Address := 0

def noteTarget (found : BridgeTargets) (target : GTATargetResolution) : BridgeTargets :=
  -- later validated targets replace earlier ones
  if target.status.state ≠ .validated then found
  else if target.status.id = .runScriptThreads then { found with runScriptThreads := target.address }
  else if target.status.id = .scriptThreads then
    { found with
      scriptThreadsStorage := target.address
      expectedDispatch := target.evidence.objectDominantFirstQwordAddress }
  else found

def installation (startup : Startup) (found : BridgeTargets) (nativesReady : Bool) :
    GTARunScriptThreadsBridge.Installation where
  runScriptThreadsAddress := found.runScriptThreads
  scriptThreadsStorageAddress := found.scriptThreadsStorage
  expectedThreadDispatchAddress := found.expectedDispatch
  natives := startup.nativesReference
  nativesReady := nativesReady
  logger := startup.loggerReference
  regions := startup.regions
  allocated := startup.allocated
  protection := startup.protection

def initializeGameThreadBridge (manager : RuntimeManager) (startup : Startup) (status : GTAModuleStatus) :
    Phase :=
  let idle : Phase := { manager, memory := startup.memory }
  match status.targetReport with
  | none => idle
  | some report =>
      if !manager.natives.ready then idle
      else
        let found := run noteTarget {} report.targets
        if found.runScriptThreads = 0 ∨ found.scriptThreadsStorage = 0 ∨ found.expectedDispatch = 0 then idle
        else
          let installed := GTARunScriptThreadsBridge.install startup.hookThunk
            { bridge := manager.gameThreadBridge
              active := manager.active
              memory := startup.memory
              trampoline := manager.trampoline }
            (installation startup found manager.natives.ready)
          { manager := { manager with
              gameThreadBridge := installed.host.bridge
              active := installed.host.active
              trampoline := installed.host.trampoline }
            memory := installed.host.memory
            copied := installed.copied }

/-- The part of `Start` that touches the game, and nothing where the manager runs already. -/
def start (manager : RuntimeManager) (startup : Startup) : Phase :=
  if manager.running then { manager, memory := startup.memory }
  else
    let refreshed := manager.gta.refresh startup.refresh
    let detected := { manager with running := true, gta := refreshed.2 }
    match refreshed.1 with
    | .error _ => { manager := detected, memory := startup.memory }
    | .ok status =>
        let initialized := detected.initializeNativeManager startup status
        let bridged := initialized.manager.initializeGameThreadBridge startup status
        { bridged with called := initialized.called }

/-! ## Where foreign code is reached -/

def Listed (status : GTAModuleStatus) (id : GTARuntimeTargetId) (target : GTATargetResolution) : Prop :=
  ∃ report, status.targetReport = some report ∧ target ∈ report.targets ∧ target.status.id = id ∧
    target.status.state = .validated

/-- An address at a fixed distance from the base of the game's module, as that
module was found when the target was resolved, in the supported build. -/
def EntryOf (startup : Startup) (status : GTAModuleStatus) (id : GTARuntimeTargetId) (rva address : Address) :
    Prop :=
  ∃ process build module, status.process = some process ∧ status.build = some build ∧
    build.fingerprint = GTATargetSemanticValidator.supportedFingerprint ∧
    ProcessModuleManager.find (startup.refresh.targets id) process.pid (text "GTA5_Enhanced.exe") = .ok module ∧
    address = module.baseAddress + rva

theorem identified_of_listed {registry : GTABuildRegistry} {startup : Startup} {id : GTARuntimeTargetId}
    {target : GTATargetResolution}
    (listed : Listed (GTAModuleManager.refreshStatus registry startup.refresh).1 id target) :
    ∃ process build module,
      (GTAModuleManager.refreshStatus registry startup.refresh).1.process = some process ∧
      (GTAModuleManager.refreshStatus registry startup.refresh).1.build = some build ∧
      build.fingerprint = GTATargetSemanticValidator.supportedFingerprint ∧
      ProcessModuleManager.find (startup.refresh.targets id) process.pid (text "GTA5_Enhanced.exe") =
        .ok module ∧
      GTATargetSemanticValidator.Identified id target.evidence build.fingerprint module.baseAddress
        target.address := by
  obtain ⟨report, present, member, rfl, validated⟩ := listed
  obtain ⟨process, build, reported⟩ := GTAModuleManager.refreshStatus_reported present
  cases reported.reported.symm.trans present
  obtain ⟨supported, module, found, identified⟩ :=
    GTABuildTargetCoordinator.resolve_validated reported.resolved member validated
  exact ⟨process, build, module, reported.inspected, reported.detected, supported, found, identified⟩

theorem exists_of_validatedAddress {id : GTARuntimeTargetId} {targets : List GTATargetResolution}
    (present : validatedAddress id targets ≠ 0) :
    ∃ target ∈ targets, target.status.id = id ∧ target.status.state = .validated ∧
      target.address = validatedAddress id targets := by
  unfold validatedAddress at present ⊢
  cases first : targets.find? fun target => target.status.id == id && target.status.state == .validated with
  | none => rw [first] at present; exact absurd rfl present
  | some target =>
    have accepted := List.find?_some first
    rw [Bool.and_eq_true, beq_iff_eq, beq_iff_eq] at accepted
    exact ⟨target, List.mem_of_find?_eq_some first, accepted.1, accepted.2, rfl⟩

theorem initializeNativeManager_called {manager : RuntimeManager} {startup : Startup} {status : GTAModuleStatus}
    {address : Address} (member : address ∈ (manager.initializeNativeManager startup status).called) :
    ∃ target, Listed status .initNativeTables target ∧ target.address = address := by
  unfold initializeNativeManager at member
  dsimp only at member
  split at member
  next process build report _ _ sameReport =>
    split at member
    · cases member
    next present =>
      split at member
      · cases member
      next module found =>
        -- initialization calls foreign code only at the address it was given
        let arguments : GTANativeManager.Arguments := ⟨startup.initialization.regions, startup.bootstrap,
          validatedAddress .initNativeTables report.targets, module.baseAddress, module.imageSize.toUInt64,
          build.fingerprint⟩
        have initialized : arguments.initialized manager.natives = arguments.initialized manager.natives := rfl
        obtain ⟨given, _⟩ := (GTANativeManager.initializeNatives_cases initialized).2 address member
        obtain ⟨target, listed, id, validated, same⟩ := exists_of_validatedAddress present
        exact ⟨target, ⟨report, sameReport, listed, id, validated⟩, same.trans given.symm⟩
  · cases member

/-- What the loop over the targets has found is null or comes from a validated target. -/
structure Noted (targets : List GTATargetResolution) (found : BridgeTargets) : Prop where
  runScriptThreads : found.runScriptThreads ≠ 0 → ∃ target ∈ targets, target.status.id = .runScriptThreads ∧
    target.status.state = .validated ∧ target.address = found.runScriptThreads
  scriptThreads : found.expectedDispatch ≠ 0 → ∃ target ∈ targets, target.status.id = .scriptThreads ∧
    target.status.state = .validated ∧
    target.evidence.objectDominantFirstQwordAddress = found.expectedDispatch

theorem Noted.next {targets : List GTATargetResolution} {found : BridgeTargets}
    (noted : Noted targets found) {target : GTATargetResolution} (member : target ∈ targets) :
    Noted targets (noteTarget found target) := by
  unfold noteTarget
  split
  · exact noted
  next validated =>
    rw [not_not] at validated
    split
    next id => exact ⟨fun _ => ⟨target, member, id, validated, rfl⟩, noted.scriptThreads⟩
    · split
      next id => exact ⟨noted.runScriptThreads, fun _ => ⟨target, member, id, validated, rfl⟩⟩
      · exact noted

theorem noted_run (targets : List GTATargetResolution) : Noted targets (run noteTarget {} targets) :=
  run_invariant_of_mem (fun _ member _ noted => noted.next member)
    ⟨fun present => absurd rfl present, fun present => absurd rfl present⟩

theorem initializeGameThreadBridge_copied (manager : RuntimeManager) (startup : Startup)
    (status : GTAModuleStatus) :
    let bridged := manager.initializeGameThreadBridge startup status
    (bridged.copied = [] ∧ bridged.memory = startup.memory) ∨
      (∃ target, Listed status .runScriptThreads target ∧ bridged.copied = [target.address] ∧
        bridged.memory = startup.memory.write target.address
          (GTARunScriptThreadsBridge.patch startup.hookThunk)) ∧
      bridged.manager.natives.ready = true ∧
      ∃ threads, Listed status .scriptThreads threads ∧
        threads.evidence.objectDominantFirstQwordAddress ≠ 0 := by
  unfold initializeGameThreadBridge
  dsimp only
  split
  · exact Or.inl ⟨rfl, rfl⟩
  next report present =>
    split
    · exact Or.inl ⟨rfl, rfl⟩
    next ready =>
      split
      · exact Or.inl ⟨rfl, rfl⟩
      next complete =>
        simp only [not_or] at complete
        have noted := noted_run report.targets
        obtain ⟨target, member, id, validated, address⟩ := noted.runScriptThreads complete.1
        obtain ⟨threads, threadsMember, threadsId, threadsValidated, dispatch⟩ :=
          noted.scriptThreads complete.2.2
        -- whether the copy was reported as a success or not, it was made at this target
        rcases GTARunScriptThreadsBridge.install_copied startup.hookThunk
          ⟨manager.gameThreadBridge, manager.active, startup.memory, manager.trampoline⟩
          (installation startup (run noteTarget {} report.targets) manager.natives.ready) with
          untouched | ⟨copied, memory⟩
        · exact Or.inl untouched
        · refine Or.inr ⟨⟨target, ⟨report, present, member, id, validated⟩, ?_, ?_⟩, by simpa using ready,
            threads, ⟨report, present, threadsMember, threadsId, threadsValidated⟩, dispatch ▸ complete.2.2⟩
          · rw [address]
            exact copied
          · rw [address]
            exact memory

/-- Foreign code is reached only where a target of the supported build was
validated in the same refresh: the bootstrap routine is called at the entry of
`InitNativeTables`, and only the entry of `RunScriptThreads` is patched. -/
theorem start_reaches_validated_code (manager : RuntimeManager) (startup : Startup) :
    let status := (GTAModuleManager.refreshStatus manager.gta.buildRegistry startup.refresh).1
    let started := manager.start startup
    (∀ address ∈ started.called,
      EntryOf startup status .initNativeTables GTATargetSemanticValidator.initNativeTablesEntryRva address) ∧
    (∀ address ∈ started.copied,
      EntryOf startup status .runScriptThreads GTATargetSemanticValidator.runScriptThreadsEntryRva address ∧
        started.manager.natives.ready = true ∧
        ∃ threads, Listed status .scriptThreads threads ∧
          threads.evidence.objectDominantFirstQwordAddress ≠ 0) ∧
    (started.memory = startup.memory ∨ ∃ address ∈ started.copied,
      started.memory = startup.memory.write address (GTARunScriptThreadsBridge.patch startup.hookThunk)) := by
  intro status started
  by_cases running : manager.running
  · have idle : started = { manager, memory := startup.memory } := if_pos running
    rw [idle]
    exact ⟨nofun, nofun, Or.inl rfl⟩
  · let detected : RuntimeManager :=
      { manager with running := true, gta := (manager.gta.refresh startup.refresh).2 }
    let initialized := detected.initializeNativeManager startup status
    let bridged := initialized.manager.initializeGameThreadBridge startup status
    have phases : started = { bridged with called := initialized.called } := if_neg running
    rw [phases]
    refine ⟨fun address member => ?_, ?_⟩
    · obtain ⟨target, listed, rfl⟩ := initializeNativeManager_called member
      obtain ⟨process, build, module, inspected, detected, supported, found, identified⟩ :=
        identified_of_listed listed
      exact ⟨process, build, module, inspected, detected, supported, found, identified.2.2⟩
    · rcases initializeGameThreadBridge_copied initialized.manager startup status with
        ⟨none, memory⟩ | ⟨⟨target, listed, copied, memory⟩, ready, threads⟩
      · exact ⟨fun address member => by simp [bridged, none] at member, Or.inl memory⟩
      · refine ⟨fun address member => ?_, Or.inr ⟨target.address, by simp [bridged, copied], memory⟩⟩
        rw [show bridged.copied = _ from copied, List.mem_singleton] at member
        subst member
        obtain ⟨process, build, module, inspected, detected, supported, found, identified⟩ :=
          identified_of_listed listed
        exact ⟨⟨process, build, module, inspected, detected, supported, found, identified.2.2⟩, ready, threads⟩

end RuntimeManager

end DevilzDen
