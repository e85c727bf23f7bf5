import DevilzDen.Foundation.Run
import DevilzDen.Integrations.GTA5Enhanced.Memory.GTATargetDefinition

/-! The known builds and how far their runtime targets are verified. -/

set_option autoImplicit false

namespace DevilzDen.Integrations.GTA5Enhanced

open Backend Foundation

inductive GTABuildVerificationState where
  | unknown
  | known
  | runtimeUnverified
  | partiallyVerified
  | supported
  deriving DecidableEq, Repr

structure GTABuildProfile where
  fingerprint : UInt64 := 0
  label : Text := []
  verification : GTABuildVerificationState := .unknown
  targets : List GTARuntimeTargetStatus := []
  deriving DecidableEq, Repr

namespace GTABuildProfile

def requiredTargetCount (profile : GTABuildProfile) : Nat := profile.targets.countP (·.required)

def locatedRequiredTargetCount (profile : GTABuildProfile) : Nat :=
  profile.targets.countP fun target => target.required && (target.state == .located ||
    target.state == .structurallyValidated || target.state == .validated)

def validatedRequiredTargetCount (profile : GTABuildProfile) : Nat :=
  profile.targets.countP fun target => target.required && target.state == .validated

def recalculateVerification (profile : GTABuildProfile) : GTABuildProfile :=
  { profile with
    verification :=
      if profile.requiredTargetCount = 0 then .known
      else if profile.validatedRequiredTargetCount = profile.requiredTargetCount then .supported
      else if profile.locatedRequiredTargetCount ≠ 0 ∨ profile.validatedRequiredTargetCount ≠ 0 then
        .partiallyVerified
      else .runtimeUnverified }

end GTABuildProfile

structure GTABuildRegistry where
  profiles : Table UInt64 GTABuildProfile := ∅

namespace GTABuildRegistry

def register (registry : GTABuildRegistry) (profile : GTABuildProfile) : GTABuildRegistry :=
  if profile.fingerprint = 0 then registry
  else { profiles := registry.profiles.insert profile.fingerprint profile.recalculateVerification }

def awaiting (id : GTARuntimeTargetId) (name : String) : GTARuntimeTargetStatus where
  id := id
  name := text name
  detail := text "Awaiting verified locator"

def current : GTABuildProfile where
  fingerprint := 0x6A4F97F605B81000
  label := text "PE-1783601142-95948800"
  targets := [
    awaiting .gameState "GameState",
    awaiting .frameCount "FrameCount",
    awaiting .scriptGlobals "ScriptGlobals",
    awaiting .programTable "ProgramTable",
    awaiting .scriptThreads "ScriptThreads",
    { id := .runScriptThreads
      required := false
      name := text "RunScriptThreads"
      detail := text "Optional game-thread execution locator; semantic validation pending" },
    awaiting .initNativeTables "InitNativeTables",
    { id := .nativeTable
      required := false
      name := text "NativeTable"
      detail := text "Standalone native table is not required by the Enhanced bootstrap path" }]

def initial : GTABuildRegistry := register {} current

/-- Overwrite the first target with the id of the incoming status, if there is one. -/
def applyStatus (targets : List GTARuntimeTargetStatus) (incoming : GTARuntimeTargetStatus) :
    List GTARuntimeTargetStatus :=
  match targets with
  | [] => []
  | target :: later =>
      -- the incoming status replaces the whole record, its required flag included
      if target.id = incoming.id then incoming :: later else target :: applyStatus later incoming

def applyTargetStatuses (registry : GTABuildRegistry) (fingerprint : UInt64)
    (statuses : List GTARuntimeTargetStatus) : Bool × GTABuildRegistry :=
  match registry.profiles.lookup fingerprint with
  | none => (false, registry)
  | some profile =>
      let applied : GTABuildProfile := { profile with targets := statuses.foldl applyStatus profile.targets }
      (true, { profiles := registry.profiles.insert fingerprint applied.recalculateVerification })

def find (registry : GTABuildRegistry) (fingerprint : UInt64) : Option GTABuildProfile :=
  registry.profiles.lookup fingerprint

def known (registry : GTABuildRegistry) (fingerprint : UInt64) : Bool :=
  (registry.profiles.lookup fingerprint).isSome

def supported (registry : GTABuildRegistry) (fingerprint : UInt64) : Bool :=
  match registry.profiles.lookup fingerprint with
  | none => false
  | some profile => profile.verification == .supported

/-! ## What the reports make of a profile -/

/-- A call of `ApplyTargetStatuses`. -/
structure Report where
  fingerprint : UInt64
  statuses : List GTARuntimeTargetStatus
  deriving DecidableEq, Repr

def step (registry : GTABuildRegistry) (report : Report) : GTABuildRegistry :=
  (registry.applyTargetStatuses report.fingerprint report.statuses).2

def reported (reports : List Report) (fingerprint : UInt64) : List GTARuntimeTargetStatus :=
  (reports.filter (·.fingerprint = fingerprint)).flatMap (·.statuses)

def lastReported (statuses : List GTARuntimeTargetStatus) (id : GTARuntimeTargetId) :
    Option GTARuntimeTargetStatus :=
  statuses.reverse.find? (·.id = id)

theorem lastReported_append (statuses : List GTARuntimeTargetStatus) (status : GTARuntimeTargetStatus)
    (id : GTARuntimeTargetId) : lastReported (statuses ++ [status]) id =
      if status.id = id then some status else lastReported statuses id := by
  rw [lastReported, List.reverse_append, List.reverse_singleton, List.singleton_append, List.find?_cons,
    lastReported]
  by_cases same : status.id = id <;> simp [same]

theorem lastReported_id {statuses : List GTARuntimeTargetStatus} {id : GTARuntimeTargetId}
    {status : GTARuntimeTargetStatus} (last : lastReported statuses id = some status) :
    status.id = id ∧ status ∈ statuses := by
  constructor
  · simpa using List.find?_some last
  · exact List.mem_reverse.mp (List.mem_of_find?_eq_some last)

theorem exists_lastReported {statuses : List GTARuntimeTargetStatus} {id : GTARuntimeTargetId}
    (listed : id ∈ statuses.map (·.id)) : ∃ status, lastReported statuses id = some status := by
  obtain ⟨status, reported, same⟩ := List.mem_map.mp listed
  apply Option.isSome_iff_exists.mp
  rw [lastReported, List.find?_isSome]
  exact ⟨status, List.mem_reverse.mpr reported, by simpa using same⟩

/-- A registered target as the reports leave it. -/
def latest (statuses : List GTARuntimeTargetStatus) (target : GTARuntimeTargetStatus) : GTARuntimeTargetStatus :=
  (lastReported statuses target.id).getD target

@[simp] theorem latest_id (statuses : List GTARuntimeTargetStatus) (target : GTARuntimeTargetStatus) :
    (latest statuses target).id = target.id := by
  unfold latest
  cases last : lastReported statuses target.id with
  | none => rfl
  | some status => exact (lastReported_id last).1

theorem map_latest_id (statuses targets : List GTARuntimeTargetStatus) :
    (targets.map (latest statuses)).map (·.id) = targets.map (·.id) := by
  rw [List.map_map]
  exact List.map_congr_left fun target _ => latest_id statuses target

/-- Where each id stands once, overwriting its first target overwrites all of its targets. -/
theorem applyStatus_eq_map {targets : List GTARuntimeTargetStatus} (distinct : (targets.map (·.id)).Nodup)
    (incoming : GTARuntimeTargetStatus) : applyStatus targets incoming =
      targets.map fun target => if target.id = incoming.id then incoming else target := by
  induction targets with
  | nil => rfl
  | cons target later ih =>
    rw [List.map_cons, List.nodup_cons] at distinct
    rw [applyStatus, List.map_cons]
    by_cases same : target.id = incoming.id
    · have others : later.map (fun other => if other.id = incoming.id then incoming else other) = later := by
        refine (List.map_congr_left fun other member => ?_).trans later.map_id
        exact if_neg fun also => distinct.1 (List.mem_map.mpr ⟨other, member, also.trans same.symm⟩)
      rw [if_pos same, if_pos same, others]
    · rw [if_neg same, if_neg same, ih distinct.2]

theorem foldl_applyStatus {targets : List GTARuntimeTargetStatus} (distinct : (targets.map (·.id)).Nodup)
    (statuses : List GTARuntimeTargetStatus) :
    statuses.foldl applyStatus targets = targets.map (latest statuses) := by
  induction statuses using List.reverseRecOn with
  | nil => exact targets.map_id.symm
  | append_singleton earlier status ih =>
    rw [List.foldl_append, ih, List.foldl_cons, List.foldl_nil,
      applyStatus_eq_map (by rw [map_latest_id]; exact distinct), List.map_map]
    apply List.map_congr_left
    intro target _
    rw [Function.comp, latest_id]
    unfold latest
    rw [lastReported_append]
    by_cases same : target.id = status.id
    · rw [if_pos same, if_pos same.symm, Option.getD_some]
    · rw [if_neg same, if_neg (Ne.symm same)]

theorem reported_append (reports : List Report) (report : Report) (fingerprint : UInt64) :
    reported (reports ++ [report]) fingerprint = reported reports fingerprint ++
      if report.fingerprint = fingerprint then report.statuses else [] := by
  rw [reported, List.filter_append, List.flatMap_append, ← reported]
  by_cases same : report.fingerprint = fingerprint <;> simp [same]

def profileAfter (profile : GTABuildProfile) (statuses : List GTARuntimeTargetStatus) : GTABuildProfile :=
  { profile with targets := statuses.foldl applyStatus profile.targets }.recalculateVerification

/-- A run of reports leaves each profile as if its own reports had been applied to it in one call. -/
theorem lookup_run {registry : GTABuildRegistry} {fingerprint : UInt64} {profile : GTABuildProfile}
    (found : registry.profiles.lookup fingerprint = some profile)
    (verified : profile.recalculateVerification = profile) (reports : List Report) :
    (run step registry reports).profiles.lookup fingerprint =
      some (profileAfter profile (reported reports fingerprint)) := by
  induction reports using List.reverseRecOn with
  | nil => exact found.trans (congrArg some verified.symm)
  | append_singleton earlier report ih =>
    rw [run_append, run_cons, run_nil, reported_append, step, applyTargetStatuses]
    by_cases same : report.fingerprint = fingerprint
    · rw [same, ih, if_pos rfl]
      dsimp only
      rw [Table.lookup_insert_eq, if_pos rfl, profileAfter, profileAfter, List.foldl_append]
      rfl
    · rw [if_neg same, List.append_nil]
      split
      · exact ih
      · exact (Table.lookup_insert_eq _ _ _ _).trans ((if_neg (Ne.symm same)).trans ih)

theorem lookup_step_none {registry : GTABuildRegistry} {fingerprint : UInt64}
    (absent : registry.profiles.lookup fingerprint = none) (report : Report) :
    (step registry report).profiles.lookup fingerprint = none := by
  rw [step, applyTargetStatuses]
  split
  · exact absent
  next profile found =>
    have other : fingerprint ≠ report.fingerprint := by
      rintro rfl
      exact nomatch found.symm.trans absent
    exact (Table.lookup_insert_eq _ _ _ _).trans ((if_neg other).trans absent)

theorem lookup_run_none {registry : GTABuildRegistry} {fingerprint : UInt64}
    (absent : registry.profiles.lookup fingerprint = none) (reports : List Report) :
    (run step registry reports).profiles.lookup fingerprint = none := by
  have preserved (registry : GTABuildRegistry) (report : Report)
      (absent : registry.profiles.lookup fingerprint = none) :
      (step registry report).profiles.lookup fingerprint = none := lookup_step_none absent report
  exact run_invariant preserved absent reports

/-- A recalculated profile is supported exactly when all that it requires is
validated, and it requires something. -/
theorem recalculateVerification_supported (profile : GTABuildProfile) :
    profile.recalculateVerification.verification = .supported ↔
      (∃ target ∈ profile.targets, target.required = true) ∧
        ∀ target ∈ profile.targets, target.required = true → target.state = .validated := by
  have some : profile.requiredTargetCount ≠ 0 ↔ ∃ target ∈ profile.targets, target.required = true := by
    rw [GTABuildProfile.requiredTargetCount, Ne, List.countP_eq_zero]
    push Not
    rfl
  have all : profile.validatedRequiredTargetCount = profile.requiredTargetCount ↔
      ∀ target ∈ profile.targets, target.required = true → target.state = .validated := by
    have both : profile.validatedRequiredTargetCount =
        (profile.targets.filter (·.required)).countP (·.state == .validated) := by
      rw [GTABuildProfile.validatedRequiredTargetCount, List.countP_filter]
      simp only [Bool.and_comm]
    have required : profile.requiredTargetCount = (profile.targets.filter (·.required)).length :=
      List.countP_eq_length_filter
    rw [both, required, List.countP_eq_length]
    simp
  rw [← some, ← all, GTABuildProfile.recalculateVerification]
  dsimp only
  split
  next none => simp [none]
  next present =>
    split
    next same => simp [present, same]
    next different => split <;> simp [different]

theorem lookup_initial (fingerprint : UInt64) : initial.profiles.lookup fingerprint =
    if fingerprint = current.fingerprint then some current.recalculateVerification else none :=
  Table.lookup_insert_eq _ _ _ _

theorem current_distinct : (current.targets.map (·.id)).Nodup := by decide

theorem find_run (reports : List Report) (fingerprint : UInt64) :
    (run step initial reports).find fingerprint =
      if fingerprint = current.fingerprint then some (profileAfter current (reported reports fingerprint))
      else none := by
  have start := lookup_initial fingerprint
  split
  next same =>
    rw [if_pos same] at start
    exact lookup_run start rfl reports
  next other =>
    rw [if_neg other] at start
    exact lookup_run_none start reports

theorem supported_eq (registry : GTABuildRegistry) (fingerprint : UInt64) :
    registry.supported fingerprint = true ↔
      ∃ profile, registry.find fingerprint = some profile ∧ profile.verification = .supported := by
  rw [supported, find]
  cases registry.profiles.lookup fingerprint <;> simp

theorem targets_profileAfter (statuses : List GTARuntimeTargetStatus) :
    (profileAfter current statuses).targets = current.targets.map (latest statuses) :=
  foldl_applyStatus current_distinct statuses

theorem profileAfter_covered (earlier : List GTARuntimeTargetStatus) {statuses : List GTARuntimeTargetStatus}
    (covers : statuses.map (·.id) = current.targets.map (·.id)) :
    profileAfter (profileAfter current earlier) statuses = profileAfter current statuses := by
  have distinct : ((profileAfter current earlier).targets.map (·.id)).Nodup := by
    rw [targets_profileAfter, map_latest_id]
    exact current_distinct
  have targets : statuses.foldl applyStatus (profileAfter current earlier).targets =
      statuses.foldl applyStatus current.targets := by
    rw [foldl_applyStatus distinct, targets_profileAfter, List.map_map, foldl_applyStatus current_distinct]
    apply List.map_congr_left
    intro target member
    have listed : target.id ∈ statuses.map (·.id) := covers ▸ List.mem_map_of_mem member
    obtain ⟨status, last⟩ := exists_lastReported listed
    have hidden : latest statuses (latest earlier target) = status := by
      rw [latest, latest_id, last, Option.getD_some]
    rw [Function.comp, hidden, latest, last, Option.getD_some]
  rw [profileAfter, targets]
  rfl

theorem mem_profileAfter_covered {statuses : List GTARuntimeTargetStatus}
    (covers : statuses.map (·.id) = current.targets.map (·.id)) {target : GTARuntimeTargetStatus}
    (member : target ∈ (profileAfter current statuses).targets) :
    target ∈ statuses ∧ ∀ status ∈ statuses, status.id = target.id → status = target := by
  rw [targets_profileAfter] at member
  obtain ⟨registered, listed, rfl⟩ := List.mem_map.mp member
  have distinct : (statuses.map (·.id)).Nodup := covers ▸ current_distinct
  have reported : latest statuses registered ∈ statuses := by
    have present : registered.id ∈ statuses.map (·.id) := covers ▸ List.mem_map_of_mem listed
    obtain ⟨status, last⟩ := exists_lastReported present
    rw [latest, last, Option.getD_some]
    exact (lastReported_id last).2
  exact ⟨reported, fun status found same => List.inj_on_of_nodup_map distinct found reported same⟩

/-- What the registry knows of the registered build, after the reports. -/
structure Follows (reports : List Report) (registry : GTABuildRegistry) (profile : GTABuildProfile) : Prop where
  known : ∀ fingerprint, registry.find fingerprint =
    if fingerprint = current.fingerprint then some profile else none
  targets : profile.targets = current.targets.map (latest (reported reports current.fingerprint))
  ids : profile.targets.map (·.id) = current.targets.map (·.id)
  verification : profile.recalculateVerification = profile
  supported : ∀ fingerprint, registry.supported fingerprint = true ↔ fingerprint = current.fingerprint ∧
    (∃ target ∈ profile.targets, target.required = true) ∧
      ∀ target ∈ profile.targets, target.required = true → target.state = .validated

/-- The reports carry the required flags of the registered targets. -/
def KeepsFlags (reports : List Report) : Prop :=
  ∀ status ∈ reported reports current.fingerprint, ∀ target ∈ current.targets,
    status.id = target.id → status.required = target.required

structure Requires (reports : List Report) (registry : GTABuildRegistry) (profile : GTABuildProfile) : Prop where
  flags : profile.targets.map (·.required) = current.targets.map (·.required)
  supported : registry.supported current.fingerprint = true ↔
    (∃ target ∈ current.targets, target.required = true) ∧ ∀ target ∈ current.targets, target.required = true →
      ∃ status, lastReported (reported reports current.fingerprint) target.id = some status ∧
        status.state = .validated

theorem run_supported (reports : List Report) (fingerprint : UInt64) :
    (run step initial reports).supported fingerprint = true ↔ fingerprint = current.fingerprint ∧
      (∃ target ∈ (profileAfter current (reported reports current.fingerprint)).targets, target.required = true) ∧
      ∀ target ∈ (profileAfter current (reported reports current.fingerprint)).targets,
        target.required = true → target.state = .validated := by
  rw [supported_eq]
  simp only [find_run]
  by_cases same : fingerprint = current.fingerprint
  · subst same
    simp only [if_true, Option.some.injEq, exists_eq_left', true_and]
    exact recalculateVerification_supported _
  · simp [same]

theorem latest_required {reports : List Report} (keeps : KeepsFlags reports) {target : GTARuntimeTargetStatus}
    (member : target ∈ current.targets) :
    (latest (reported reports current.fingerprint) target).required = target.required := by
  unfold latest
  cases last : lastReported (reported reports current.fingerprint) target.id with
  | none => rfl
  | some status =>
    obtain ⟨same, listed⟩ := lastReported_id last
    exact keeps status listed target member same

/-- No target is registered as validated, so one that is has been reported so. -/
theorem latest_validated {target : GTARuntimeTargetStatus} (member : target ∈ current.targets)
    (statuses : List GTARuntimeTargetStatus) : (latest statuses target).state = .validated ↔
      ∃ status, lastReported statuses target.id = some status ∧ status.state = .validated := by
  have unvalidated : ∀ target ∈ current.targets, target.state ≠ .validated := by decide
  unfold latest
  cases last : lastReported statuses target.id with
  | none => simp [unvalidated target member]
  | some status => simp

/-- The registry follows the last report of each target, its required flag
included, and the registered requirements where the reports agree with them. -/
theorem run_follows (reports : List Report) :
    ∃ profile, Follows reports (run step initial reports) profile ∧
      (KeepsFlags reports → Requires reports (run step initial reports) profile) := by
  have targets := targets_profileAfter (reported reports current.fingerprint)
  refine ⟨profileAfter current (reported reports current.fingerprint), ⟨?_, targets, ?_, rfl, ?_⟩, fun keeps => ?_⟩
  · intro fingerprint
    rw [find_run]
    split
    next same => rw [same]
    · rfl
  · rw [targets, map_latest_id]
  · exact run_supported reports
  · constructor
    · rw [targets, List.map_map]
      exact List.map_congr_left fun target member => latest_required keeps member
    · rw [run_supported, targets, and_iff_right rfl]
      simp only [List.mem_map, exists_exists_and_eq_and, forall_exists_index, and_imp,
        forall_apply_eq_imp_iff₂]
      refine and_congr ?_ ?_
      · exact exists_congr fun target => and_congr_right fun member => by rw [latest_required keeps member]
      · apply forall₂_congr
        intro target member
        rw [latest_required keeps member, latest_validated member]

def located : Report where
  fingerprint := 0x6A4F97F605B81000
  statuses := [{ awaiting .gameState "GameState" with state := .validated }]

theorem run_follows_located :
    ∃ profile, Requires [located] (run step initial [located]) profile := by
  obtain ⟨profile, -, requires⟩ := run_follows [located]
  have keeps : KeepsFlags [located] := by
    unfold KeepsFlags
    decide
  exact ⟨profile, requires keeps⟩

/-- All targets are reported as not required, and then one of them as required and validated. -/
def unrequired : Report where
  fingerprint := 0x6A4F97F605B81000
  statuses := current.targets.map (fun target => { target with required := false }) ++
    [{ id := .gameState, state := .validated, name := text "GameState" }]

theorem unrequired_supported :
    let registry := run step initial [unrequired]
    registry.supported 0x6A4F97F605B81000 = true ∧
      (registry.find 0x6A4F97F605B81000).map (fun profile => profile.targets.map (·.required)) ≠
        some (current.targets.map (·.required)) ∧
      ∃ target ∈ current.targets, target.required = true ∧
        ¬∃ status, lastReported unrequired.statuses target.id = some status ∧ status.state = .validated := by
  refine ⟨by decide, by decide, awaiting .frameCount "FrameCount", by decide, by decide, ?_⟩
  rintro ⟨status, last, validated⟩
  have reported : lastReported unrequired.statuses .frameCount =
      some { awaiting .frameCount "FrameCount" with required := false } := by decide
  cases reported.symm.trans last
  cases validated

end GTABuildRegistry

end DevilzDen.Integrations.GTA5Enhanced
