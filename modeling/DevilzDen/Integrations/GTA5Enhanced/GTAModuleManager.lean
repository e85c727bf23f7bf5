import DevilzDen.Integrations.GTA5Enhanced.Memory.GTATargetResolver
import DevilzDen.Integrations.GTA5Enhanced.Runtime.BuildInfoDetector
import DevilzDen.Integrations.GTA5Enhanced.Runtime.GTABuildRegistry

/-! Detecting the game, its build and its runtime targets. -/

set_option autoImplicit false

namespace DevilzDen.Integrations.GTA5Enhanced

open Backend Foundation

inductive GTAModuleManagerState where
  | notRunning
  | detected
  | buildIdentified
  | runtimeUnverified
  | unsupported
  | supported
  | runtimeReady
  | failed
  deriving DecidableEq, Repr

structure GTAModuleStatus where
  state : GTAModuleManagerState := .notRunning
  process : Option ProcessInfo := none
  build : Option BuildInfo := none
  profile : Option GTABuildProfile := none
  targetReport : Option GTABuildTargetReport := none
  detail : Text := []
  deriving DecidableEq, Repr

structure GTAModuleManager where
  buildRegistry : GTABuildRegistry := GTABuildRegistry.initial
  status : GTAModuleStatus := {}

namespace GTAModuleManager

/-- The states in which a refresh meets the process: while it is detected, and
while each target is resolved. -/
structure Observations where
  detection : HostProcess
  targets : GTARuntimeTargetId → HostProcess

def applyReport (registry : GTABuildRegistry) (fingerprint : UInt64) (status : GTAModuleStatus)
    (report : GTABuildTargetReport) : GTAModuleStatus × GTABuildRegistry :=
  let reported := { status with targetReport := some report }
  let applied := registry.applyTargetStatuses fingerprint (report.targets.map (·.status))
  if !applied.1 then
    ({ reported with
      state := .failed
      detail := text "Unable to apply runtime target results to the GTA build profile" }, applied.2)
  else match applied.2.find fingerprint with
    | none =>
        ({ reported with
          state := .failed
          detail := text "GTA build profile disappeared after runtime target discovery" }, applied.2)
    | some profile =>
        let profiled := { reported with profile := some profile }
        (match profile.verification with
          | .supported => { profiled with
              state := .supported
              detail := text "All required GTA runtime targets are semantically validated" }
          | .partiallyVerified => { profiled with
              state := .runtimeUnverified
              detail := text "Some GTA runtime targets are located or structurally validated; semantic verification is still pending" }
          | _ => { profiled with
              state := .runtimeUnverified
              detail := text "Build is known; required GTA runtime targets are not yet verified" }, applied.2)

def refreshStatus (registry : GTABuildRegistry) (observed : Observations) : GTAModuleStatus × GTABuildRegistry :=
  match ProcessManager.current observed.detection with
  | .error error =>
      ({ state := .failed
         detail := text "Unable to inspect the current host process: " ++ error.message }, registry)
  | .ok process =>
      if !equalInsensitive process.executableName (text "GTA5_Enhanced.exe") then
        ({ detail := text "Devilz_Den is not loaded inside GTA5_Enhanced.exe; current host is " ++
            process.executableName }, registry)
      else match BuildInfoDetector.detect observed.detection process with
        | .error error =>
            ({ process := some process, state := .failed, detail := error.message }, registry)
        | .ok build =>
            let identified : GTAModuleStatus := {
              process := some process
              build := some build
              state := .buildIdentified
              detail := text "GTA Enhanced build identified" }
            -- an unregistered build ends here, without a report
            if !registry.known build.fingerprint then
              ({ identified with
                state := .unsupported
                detail := text "GTA Enhanced build is not registered" }, registry)
            else match GTABuildTargetCoordinator.resolve observed.targets process.pid build.fingerprint with
              | .error error =>
                  ({ identified with
                    state := .failed
                    detail := text "Runtime target discovery failed: " ++ error.message }, registry)
              | .ok report => applyReport registry build.fingerprint identified report

def refresh (manager : GTAModuleManager) (observed : Observations) : Result GTAModuleStatus × GTAModuleManager :=
  let refreshed := refreshStatus manager.buildRegistry observed
  (.ok refreshed.1, { buildRegistry := refreshed.2, status := refreshed.1 })

structure Reported (observed : Observations) (status : GTAModuleStatus) (process : ProcessInfo)
    (build : BuildInfo) (report : GTABuildTargetReport) : Prop where
  inspected : status.process = some process
  detected : status.build = some build
  reported : status.targetReport = some report
  resolved : GTABuildTargetCoordinator.resolve observed.targets process.pid build.fingerprint = .ok report

theorem applyReport_fields (registry : GTABuildRegistry) (fingerprint : UInt64) (status : GTAModuleStatus)
    (report : GTABuildTargetReport) :
    let applied := (applyReport registry fingerprint status report).1
    applied.process = status.process ∧ applied.build = status.build ∧ applied.targetReport = some report := by
  unfold applyReport
  dsimp only
  split
  · exact ⟨rfl, rfl, rfl⟩
  · split
    · exact ⟨rfl, rfl, rfl⟩
    · split <;> exact ⟨rfl, rfl, rfl⟩

theorem reported_applied {observed : Observations} {process : ProcessInfo} {build : BuildInfo}
    {status : GTAModuleStatus} {report : GTABuildTargetReport} (registry : GTABuildRegistry)
    (inspected : status.process = some process) (detected : status.build = some build)
    (resolved : GTABuildTargetCoordinator.resolve observed.targets process.pid build.fingerprint = .ok report) :
    Reported observed (applyReport registry build.fingerprint status report).1 process build report := by
  obtain ⟨sameProcess, sameBuild, attached⟩ := applyReport_fields registry build.fingerprint status report
  exact ⟨sameProcess.trans inspected, sameBuild.trans detected, attached, resolved⟩

/-! ## Runs of refreshes -/

def statuses (report : GTABuildTargetReport) : List GTARuntimeTargetStatus := report.targets.map (·.status)

/-- A status whose parts are absent or made by this refresh. -/
structure Produced (observed : Observations) (status : GTAModuleStatus) : Prop where
  process : ∀ process, status.process = some process → ProcessManager.current observed.detection = .ok process
  build : ∀ build, status.build = some build → ∃ process, status.process = some process ∧
    BuildInfoDetector.detect observed.detection process = .ok build
  report : ∀ report, status.targetReport = some report →
    ∃ process build, Reported observed status process build report
  profile : ∀ profile, status.profile = some profile → ∃ report, status.targetReport = some report ∧
    profile = GTABuildRegistry.profileAfter GTABuildRegistry.current (statuses report)

/-- A refresh that ends early keeps nothing of its targets; any other one applies its report. -/
theorem refreshStatus_cases (registry : GTABuildRegistry) (observed : Observations) :
    ((refreshStatus registry observed).2 = registry ∧ Produced observed (refreshStatus registry observed).1 ∧
      (refreshStatus registry observed).1.profile = none ∧
      (refreshStatus registry observed).1.state ≠ .supported) ∨
    ∃ process build report profile status, ProcessManager.current observed.detection = .ok process ∧
      BuildInfoDetector.detect observed.detection process = .ok build ∧
      registry.find build.fingerprint = some profile ∧
      GTABuildTargetCoordinator.resolve observed.targets process.pid build.fingerprint = .ok report ∧
      status.process = some process ∧ status.build = some build ∧
      refreshStatus registry observed = applyReport registry build.fingerprint status report := by
  unfold refreshStatus
  split
  · exact Or.inl ⟨rfl, ⟨nofun, nofun, nofun, nofun⟩, rfl, nofun⟩
  next process current =>
    dsimp only
    have here : ∀ other, some process = some other → ProcessManager.current observed.detection = .ok other := by
      rintro other ⟨⟩
      exact current
    split
    · exact Or.inl ⟨rfl, ⟨nofun, nofun, nofun, nofun⟩, rfl, nofun⟩
    · split
      · exact Or.inl ⟨rfl, ⟨here, nofun, nofun, nofun⟩, rfl, nofun⟩
      next build detected =>
        have built : ∀ other, some build = some other → ∃ inspected, some process = some inspected ∧
            BuildInfoDetector.detect observed.detection inspected = .ok other := by
          rintro other ⟨⟩
          exact ⟨process, rfl, detected⟩
        split
        · exact Or.inl ⟨rfl, ⟨here, built, nofun, nofun⟩, rfl, nofun⟩
        next known =>
          split
          · exact Or.inl ⟨rfl, ⟨here, built, nofun, nofun⟩, rfl, nofun⟩
          next report resolved =>
            right
            have registered : ∃ profile, registry.find build.fingerprint = some profile := by
              have present : registry.known build.fingerprint = true := by simpa using known
              exact Option.isSome_iff_exists.mp present
            obtain ⟨profile, found⟩ := registered
            exact ⟨process, build, report, profile, _, current, detected, found, resolved, rfl, rfl, rfl⟩

theorem refreshStatus_reported {registry : GTABuildRegistry} {observed : Observations}
    {report : GTABuildTargetReport}
    (present : (refreshStatus registry observed).1.targetReport = some report) :
    ∃ process build, Reported observed (refreshStatus registry observed).1 process build report := by
  rcases refreshStatus_cases registry observed with
    ⟨_, produced, _⟩ | ⟨process, build, attached, _, status, _, _, _, resolved, inspected, identified, applied⟩
  · exact produced.report report present
  · have reported := reported_applied registry inspected identified resolved
    rw [applied] at present ⊢
    cases reported.reported.symm.trans present
    exact ⟨process, build, reported⟩

theorem applyReport_of_known {registry : GTABuildRegistry} {fingerprint : UInt64} {profile : GTABuildProfile}
    (known : registry.find fingerprint = some profile) (status : GTAModuleStatus)
    (report : GTABuildTargetReport) :
    let applied := applyReport registry fingerprint status report
    let after := GTABuildRegistry.profileAfter profile (statuses report)
    applied.2 = registry.step ⟨fingerprint, statuses report⟩ ∧ applied.1.profile = some after ∧
      (applied.1.state = .supported → after.verification = .supported) := by
  have lookup : registry.profiles.lookup fingerprint = some profile := known
  have stepped : registry.applyTargetStatuses fingerprint (report.targets.map (·.status)) =
      (true, registry.step ⟨fingerprint, statuses report⟩) := by
    simp [GTABuildRegistry.applyTargetStatuses, GTABuildRegistry.step, statuses, lookup]
  have found : (registry.step ⟨fingerprint, statuses report⟩).find fingerprint =
      some (GTABuildRegistry.profileAfter profile (statuses report)) := by
    simp [GTABuildRegistry.find, GTABuildRegistry.step, GTABuildRegistry.applyTargetStatuses, lookup,
      GTABuildRegistry.profileAfter]
  unfold applyReport
  rw [stepped]
  simp only [Bool.not_true, Bool.false_eq_true, if_false, found]
  split <;> simp_all

theorem exists_reports (refreshes : List Observations) :
    ∃ reports, (run (fun manager observed => (refresh manager observed).2) {} refreshes).buildRegistry =
      run GTABuildRegistry.step GTABuildRegistry.initial reports := by
  have preserved : ∀ (manager : GTAModuleManager) (observed : Observations),
      (∃ reports, manager.buildRegistry = run GTABuildRegistry.step GTABuildRegistry.initial reports) →
      ∃ reports, (manager.refresh observed).2.buildRegistry =
        run GTABuildRegistry.step GTABuildRegistry.initial reports := by
    intro manager observed ⟨reports, same⟩
    rcases refreshStatus_cases manager.buildRegistry observed with
      ⟨kept, _⟩ | ⟨process, build, report, profile, status, found⟩
    · exact ⟨reports, kept.trans same⟩
    · obtain ⟨_, _, known, _, _, _, applied⟩ := found
      refine ⟨reports ++ [⟨build.fingerprint, statuses report⟩], ?_⟩
      rw [run_append, ← same, refresh, applied]
      exact (applyReport_of_known known status report).1
  exact run_invariant preserved ⟨[], rfl⟩ refreshes

theorem statuses_cover {observed : Observations} {pid : UInt32} {fingerprint : UInt64}
    {report : GTABuildTargetReport}
    (resolved : GTABuildTargetCoordinator.resolve observed.targets pid fingerprint = .ok report) :
    (statuses report).map (·.id) = GTABuildRegistry.current.targets.map (·.id) := by
  rw [statuses, List.map_map]
  exact (GTABuildTargetCoordinator.resolve_ids resolved).trans (by decide)

/-- Whatever was seen before, a refresh reports what it has seen itself. -/
theorem refresh_reports_own (earlier : List Observations) (observed : Observations) :
    let manager := run (fun manager observed => (refresh manager observed).2) {} earlier
    let status := (manager.refresh observed).2.status
    (manager.refresh observed).1 = .ok status ∧ Produced observed status ∧
    (status.state = .supported → ∃ profile, status.profile = some profile ∧
      ∀ target ∈ profile.targets, target.required = true → target.state = .validated) ∧
    ∀ profile, status.profile = some profile → ∃ report, status.targetReport = some report ∧
      ∀ target ∈ profile.targets, target ∈ statuses report ∧
        ∀ reported ∈ statuses report, reported.id = target.id → reported = target := by
  intro manager status
  refine ⟨rfl, ?_⟩
  rcases refreshStatus_cases manager.buildRegistry observed with
    ⟨_, produced, absent, unsupported⟩ | ⟨process, build, report, known, before, found⟩
  · refine ⟨produced, (absurd · unsupported), fun profile present => ?_⟩
    exact nomatch absent.symm.trans present
  · obtain ⟨current, detected, registered, resolved, inspected, identified, applied⟩ := found
    obtain ⟨_, profiled, verified⟩ := applyReport_of_known registered before report
    have covers := statuses_cover resolved
    -- the profile that was there before held reports only, and this one hides them
    have fresh : GTABuildRegistry.profileAfter known (statuses report) =
        GTABuildRegistry.profileAfter GTABuildRegistry.current (statuses report) := by
      obtain ⟨reports, history⟩ := exists_reports earlier
      rw [history, GTABuildRegistry.find_run] at registered
      split at registered
      · cases registered
        exact GTABuildRegistry.profileAfter_covered _ covers
      · cases registered
    have shown : status = (applyReport manager.buildRegistry build.fingerprint before report).1 :=
      congrArg Prod.fst applied
    rw [fresh] at profiled verified
    rw [← shown] at profiled verified
    have reported : Reported observed status process build report :=
      shown ▸ reported_applied manager.buildRegistry inspected identified resolved
    refine ⟨⟨?_, ?_, ?_, ?_⟩, ?_, ?_⟩
    · intro other same
      cases reported.inspected.symm.trans same
      exact current
    · intro other same
      cases reported.detected.symm.trans same
      exact ⟨process, reported.inspected, detected⟩
    · intro other same
      cases reported.reported.symm.trans same
      exact ⟨process, build, reported⟩
    · intro other same
      cases profiled.symm.trans same
      exact ⟨report, reported.reported, rfl⟩
    · intro supported
      exact ⟨_, profiled, (GTABuildRegistry.recalculateVerification_supported _).mp (verified supported) |>.2⟩
    · intro other same
      cases profiled.symm.trans same
      exact ⟨report, reported.reported, fun target member =>
        GTABuildRegistry.mem_profileAfter_covered covers member⟩

end GTAModuleManager

end DevilzDen.Integrations.GTA5Enhanced
