import DevilzDen.Integrations.GTA5Enhanced.Memory.GTATargetValidator

/-! The resolution of one target, and of all targets of a build. -/

set_option autoImplicit false

namespace DevilzDen.Integrations.GTA5Enhanced

open Backend Foundation

structure GTATargetResolution where
  status : GTARuntimeTargetStatus := {}
  candidateKind : GTATargetCandidateKind := .unknown
  evidence : GTATargetEvidence := {}
  address : Address := 0
  candidates : List Address := []
  deriving DecidableEq, Repr

/-- The states that `LocatedCount` counts. -/
def GTARuntimeTargetState.isLocated : GTARuntimeTargetState → Bool
  | .located | .structurallyValidated | .validated => true
  | .unknown | .missing | .failed => false

def GTATargetResolution.ended (resolution : GTATargetResolution) (state : GTARuntimeTargetState)
    (detail : Text) : GTATargetResolution :=
  { resolution with status := { resolution.status with state, detail } }

@[simp] theorem GTATargetResolution.ended_state (resolution : GTATargetResolution) (state : GTARuntimeTargetState)
    (detail : Text) : (resolution.ended state detail).status.state = state := rfl

namespace GTATargetResolver

def candidate (host : HostProcess) (pid : UInt32) (definition : GTATargetDefinition)
    (found : ProcessPatternMatch) : Option Address :=
  match GTAAddressResolver.resolve host pid found.address definition.resolve with
  | .error _ => none
  | .ok address => if address ≠ 0 then some address else none

def judge (definition : GTATargetDefinition) (fingerprint : UInt64) (moduleBase : Address)
    (output : GTATargetResolution) : GTATargetResolution :=
  let semantic := GTATargetSemanticValidator.validate definition output.evidence fingerprint moduleBase
    output.address
  if semantic.applicable && semantic.passed then output.ended .validated semantic.detail
  else
    let structural := GTATargetStructuralValidator.validate definition output.evidence
    if structural.applicable && structural.passed then
      output.ended .structurallyValidated
        (if semantic.applicable then
          structural.detail ++ text "; semantic validation is not yet satisfied: " ++ semantic.detail
        else structural.detail)
    else if semantic.applicable then
      output.ended .located
        (text "Unique candidate address resolved; semantic validation is not yet satisfied: " ++ semantic.detail)
    else
      output.ended .located
        (if structural.applicable then
          text "Unique candidate address resolved; structural validation is not yet satisfied: " ++
            structural.detail
        else text "Unique candidate address resolved; semantic validation is still required")

def resolve (host : HostProcess) (pid : UInt32) (fingerprint : UInt64) (definition : GTATargetDefinition) :
    Result GTATargetResolution :=
  let output : GTATargetResolution := {
    status := { id := definition.id, name := definition.name, required := definition.required }
    candidateKind := definition.candidateKind }
  if pid = 0 ∨ definition.pattern = [] then
    .ok (output.ended .unknown (text "No verified pattern is registered for this target"))
  else match ProcessPattern.parse definition.pattern with
    | none => .ok (output.ended .failed (text "Registered target pattern is invalid"))
    | some pattern =>
        match ProcessModuleManager.find host pid definition.module with
        | .error _ =>
            .ok (output.ended .failed (text "Target module could not be resolved in the GTA process"))
        | .ok module =>
            match ProcessPatternScanner.scan (ProcessMemoryReader.read host pid) module pattern 8 with
            -- a failed read of the image fails the resolution, and with it the whole report
            | .error error => .error error
            | .ok [] =>
                .ok (output.ended .missing (text "Verified pattern produced no matches in the target module"))
            | .ok found =>
                let collected := { output with candidates := found.filterMap (candidate host pid definition) }
                match collected.candidates with
                | [] =>
                    .ok (collected.ended .failed
                      (text "Pattern matched, but no candidate address could be decoded"))
                | [address] =>
                    .ok (judge definition fingerprint module.baseAddress { collected with
                      address
                      evidence := GTATargetEvidenceProbe.probe host pid definition.candidateKind address })
                | _ =>
                    .ok (collected.ended .failed
                      (text "Pattern is ambiguous; multiple candidate addresses were decoded"))

/-- A verdict changes the state and the detail, and only what passes the semantic validation is validated. -/
theorem judge_cases (definition : GTATargetDefinition) (fingerprint : UInt64) (moduleBase : Address)
    (output : GTATargetResolution) : ∃ state detail,
    judge definition fingerprint moduleBase output = output.ended state detail ∧
      (state = .located ∨ state = .structurallyValidated ∨ state = .validated ∧
        (GTATargetSemanticValidator.validate definition output.evidence fingerprint moduleBase
          output.address).passed = true) := by
  unfold judge
  dsimp only
  split
  next passed => exact ⟨_, _, rfl, Or.inr (Or.inr ⟨rfl, (Bool.and_eq_true_iff.mp passed).2⟩)⟩
  · split
    · exact ⟨_, _, rfl, Or.inr (Or.inl rfl)⟩
    · split <;> exact ⟨_, _, rfl, Or.inl rfl⟩

theorem resolve_cases {host : HostProcess} {pid : UInt32} {fingerprint : UInt64}
    {definition : GTATargetDefinition} {resolution : GTATargetResolution}
    (resolved : resolve host pid fingerprint definition = .ok resolution) :
    resolution.status.id = definition.id ∧
      (resolution.status.state ∈ [.unknown, .failed, .missing] ∨
      ∃ module output, ProcessModuleManager.find host pid definition.module = .ok module ∧
        output.evidence = GTATargetEvidenceProbe.probe host pid definition.candidateKind output.address ∧
        resolution = judge definition fingerprint module.baseAddress output) := by
  unfold resolve at resolved
  dsimp only at resolved
  split at resolved
  · cases resolved
    exact ⟨rfl, Or.inl (by simp)⟩
  · split at resolved
    · cases resolved
      exact ⟨rfl, Or.inl (by simp)⟩
    · split at resolved
      · cases resolved
        exact ⟨rfl, Or.inl (by simp)⟩
      next module found =>
        split at resolved
        · cases resolved
        · cases resolved
          exact ⟨rfl, Or.inl (by simp)⟩
        · split at resolved
          · cases resolved
            exact ⟨rfl, Or.inl (by simp)⟩
          next address _ =>
            cases resolved
            refine ⟨?_, Or.inr ⟨module, _, found, rfl, rfl⟩⟩
            obtain ⟨state, detail, judged, _⟩ := judge_cases definition fingerprint module.baseAddress _
            rw [judged]
            rfl
          · cases resolved
            exact ⟨rfl, Or.inl (by simp)⟩

theorem resolve_id {host : HostProcess} {pid : UInt32} {fingerprint : UInt64}
    {definition : GTATargetDefinition} {resolution : GTATargetResolution}
    (resolved : resolve host pid fingerprint definition = .ok resolution) :
    resolution.status.id = definition.id := (resolve_cases resolved).1

theorem resolve_passed {host : HostProcess} {pid : UInt32} {fingerprint : UInt64}
    {definition : GTATargetDefinition} {resolution : GTATargetResolution}
    (resolved : resolve host pid fingerprint definition = .ok resolution)
    (validated : resolution.status.state = .validated) :
    ∃ module, ProcessModuleManager.find host pid definition.module = .ok module ∧
      resolution.evidence = GTATargetEvidenceProbe.probe host pid definition.candidateKind resolution.address ∧
      (GTATargetSemanticValidator.validate definition resolution.evidence fingerprint module.baseAddress
        resolution.address).passed = true := by
  rcases (resolve_cases resolved).2 with early | ⟨module, output, found, probed, same⟩
  · rw [validated] at early
    exact absurd early (by decide)
  · obtain ⟨state, detail, judged, verdict⟩ :=
      judge_cases definition fingerprint module.baseAddress output
    subst same
    rw [judged] at validated ⊢
    rw [GTATargetResolution.ended_state] at validated
    rcases verdict with located | structural | ⟨_, passed⟩
    · cases located.symm.trans validated
    · cases structural.symm.trans validated
    · exact ⟨module, found, probed, passed⟩

/-- A validated target is identified against the base of the module it was
looked for in, as that module was found for this resolution. -/
theorem resolve_validated {host : HostProcess} {pid : UInt32} {fingerprint : UInt64}
    {definition : GTATargetDefinition} {resolution : GTATargetResolution}
    (resolved : resolve host pid fingerprint definition = .ok resolution)
    (validated : resolution.status.state = .validated) :
    ∃ module, ProcessModuleManager.find host pid definition.module = .ok module ∧
      GTATargetSemanticValidator.Identified definition.id resolution.evidence fingerprint
        module.baseAddress resolution.address := by
  obtain ⟨module, found, _, passed⟩ := resolve_passed resolved validated
  exact ⟨module, found, GTATargetSemanticValidator.validate_passed passed⟩

/-- What a resolution has from its definition, and that it has an address exactly in the states that stand for one. -/
structure Resolved (definition : GTATargetDefinition) (resolution : GTATargetResolution) : Prop where
  id : resolution.status.id = definition.id
  name : resolution.status.name = definition.name
  required : resolution.status.required = definition.required
  kind : resolution.candidateKind = definition.candidateKind
  address : resolution.address ≠ 0 ↔ resolution.status.state.isLocated = true

theorem Resolved.judge {definition : GTATargetDefinition} {output : GTATargetResolution}
    (same : output.status.id = definition.id ∧ output.status.name = definition.name ∧
      output.status.required = definition.required ∧ output.candidateKind = definition.candidateKind)
    (present : output.address ≠ 0) (fingerprint : UInt64) (moduleBase : Address) :
    Resolved definition (judge definition fingerprint moduleBase output) := by
  obtain ⟨id, name, required, kind⟩ := same
  obtain ⟨state, detail, judged, verdict⟩ := judge_cases definition fingerprint moduleBase output
  rw [judged]
  refine ⟨id, name, required, kind, iff_of_true present ?_⟩
  rw [GTATargetResolution.ended_state]
  rcases verdict with located | structural | ⟨validated, _⟩
  · rw [located]
    rfl
  · rw [structural]
    rfl
  · rw [validated]
    rfl

theorem candidate_ne_zero {host : HostProcess} {pid : UInt32} {definition : GTATargetDefinition}
    {found : ProcessPatternMatch} {address : Address} (decoded : candidate host pid definition found = some address) :
    address ≠ 0 := by
  unfold candidate at decoded
  split at decoded
  · cases decoded
  · split at decoded
    next present =>
      cases decoded
      exact present
    · cases decoded

theorem resolve_resolved {host : HostProcess} {pid : UInt32} {fingerprint : UInt64}
    {definition : GTATargetDefinition} {resolution : GTATargetResolution}
    (resolved : resolve host pid fingerprint definition = .ok resolution) : Resolved definition resolution := by
  -- a resolution that ends without a candidate has no address, and a state without one
  have early {output : GTATargetResolution} {state : GTARuntimeTargetState} {detail : Text}
      (same : output.status.id = definition.id ∧ output.status.name = definition.name ∧
        output.status.required = definition.required ∧ output.candidateKind = definition.candidateKind)
      (absent : output.address = 0) (without : state.isLocated = false) :
      Resolved definition (output.ended state detail) := by
    obtain ⟨id, name, required, kind⟩ := same
    exact ⟨id, name, required, kind,
      iff_of_false (fun present => present absent) (fun located => Bool.noConfusion (without.symm.trans located))⟩
  unfold resolve at resolved
  dsimp only at resolved
  split at resolved
  · cases resolved
    exact early ⟨rfl, rfl, rfl, rfl⟩ rfl rfl
  · split at resolved
    · cases resolved
      exact early ⟨rfl, rfl, rfl, rfl⟩ rfl rfl
    · split at resolved
      · cases resolved
        exact early ⟨rfl, rfl, rfl, rfl⟩ rfl rfl
      next module found =>
        split at resolved
        · cases resolved
        · cases resolved
          exact early ⟨rfl, rfl, rfl, rfl⟩ rfl rfl
        next listed _ _ =>
          split at resolved
          · cases resolved
            exact early ⟨rfl, rfl, rfl, rfl⟩ rfl rfl
          next address single =>
            cases resolved
            have member : address ∈ listed.filterMap (candidate host pid definition) := by
              rw [single]
              exact List.mem_cons_self
            obtain ⟨_, _, decoded⟩ := List.mem_filterMap.mp member
            exact .judge ⟨rfl, rfl, rfl, rfl⟩ (candidate_ne_zero decoded) fingerprint module.baseAddress
          · cases resolved
            exact early ⟨rfl, rfl, rfl, rfl⟩ rfl rfl

end GTATargetResolver

structure GTABuildTargetReport where
  fingerprint : UInt64 := 0
  targets : List GTATargetResolution := []
  deriving DecidableEq, Repr

namespace GTABuildTargetReport

def locatedCount (report : GTABuildTargetReport) : Nat := report.targets.countP (·.status.state.isLocated)

def structurallyValidatedCount (report : GTABuildTargetReport) : Nat :=
  report.targets.countP (·.status.state = .structurallyValidated)

def validatedCount (report : GTABuildTargetReport) : Nat := report.targets.countP (·.status.state = .validated)

end GTABuildTargetReport

namespace GTABuildTargetCoordinator

/-- `Resolve`. Each target may meet another state of the process. -/
def resolve (hosts : GTARuntimeTargetId → HostProcess) (pid : UInt32) (fingerprint : UInt64) :
    Result GTABuildTargetReport :=
  if pid = 0 ∨ fingerprint = 0 then
    .error { code := .invalidArgument, category := .runtime,
             message := text "Invalid GTA build target resolution request" }
  else match GTABuildTargetRegistry.initial.find fingerprint with
    | none =>
        .error { code := .notFound, category := .runtime,
                 message := text "No target set is registered for this GTA build" }
    | some set =>
        match set.targets.mapM fun definition =>
            GTATargetResolver.resolve (hosts definition.id) pid fingerprint definition with
        | .error error => .error error
        | .ok targets => .ok { fingerprint, targets }

structure Validated (hosts : GTARuntimeTargetId → HostProcess) (pid : UInt32) (fingerprint : UInt64)
    (resolution : GTATargetResolution) : Prop where
  supported : fingerprint = GTATargetSemanticValidator.supportedFingerprint
  identified : ∃ module, ProcessModuleManager.find (hosts resolution.status.id) pid
      (text "GTA5_Enhanced.exe") = .ok module ∧
    GTATargetSemanticValidator.Identified resolution.status.id resolution.evidence fingerprint
      module.baseAddress resolution.address

theorem exists_of_forall₂_of_mem {α β : Type} {related : α → β → Prop} {inputs : List α} {outputs : List β}
    (made : List.Forall₂ related inputs outputs) {output : β} (member : output ∈ outputs) :
    ∃ input ∈ inputs, related input output := by
  induction made with
  | nil => exact nomatch member
  | cons first rest ih =>
    rcases List.mem_cons.mp member with rfl | later
    · exact ⟨_, List.mem_cons_self, first⟩
    · obtain ⟨input, listed, made⟩ := ih later
      exact ⟨input, List.mem_cons_of_mem _ listed, made⟩

theorem resolve_made {hosts : GTARuntimeTargetId → HostProcess} {pid : UInt32} {fingerprint : UInt64}
    {report : GTABuildTargetReport} (resolved : resolve hosts pid fingerprint = .ok report) :
    fingerprint = GTATargetSemanticValidator.supportedFingerprint ∧
      List.Forall₂ (fun definition resolution =>
          GTATargetResolver.resolve (hosts definition.id) pid fingerprint definition = .ok resolution)
        GTABuildTargetRegistry.targets report.targets := by
  unfold resolve at resolved
  split at resolved
  · cases resolved
  · rw [GTABuildTargetRegistry.find_initial] at resolved
    by_cases supported : fingerprint = 0x6A4F97F605B81000
    · rw [if_pos supported] at resolved
      dsimp only at resolved
      split at resolved
      · cases resolved
      next targets all =>
        cases resolved
        exact ⟨supported, mapM_eq_ok_iff.mp all⟩
    · rw [if_neg supported] at resolved
      cases resolved

theorem resolve_ids {hosts : GTARuntimeTargetId → HostProcess} {pid : UInt32} {fingerprint : UInt64}
    {report : GTABuildTargetReport} (resolved : resolve hosts pid fingerprint = .ok report) :
    report.targets.map (·.status.id) = GTABuildTargetRegistry.targets.map (·.id) := by
  have same : List.Forall₂ (· = ·) (GTABuildTargetRegistry.targets.map (·.id))
      (report.targets.map (·.status.id)) := by
    rw [List.forall₂_map_left_iff, List.forall₂_map_right_iff]
    exact (resolve_made resolved).2.imp fun _ _ one => (GTATargetResolver.resolve_id one).symm
  exact (List.forall₂_eq_eq_eq ▸ same).symm

theorem resolve_validated {hosts : GTARuntimeTargetId → HostProcess} {pid : UInt32} {fingerprint : UInt64}
    {report : GTABuildTargetReport} (resolved : resolve hosts pid fingerprint = .ok report)
    {resolution : GTATargetResolution} (member : resolution ∈ report.targets)
    (validated : resolution.status.state = .validated) : Validated hosts pid fingerprint resolution := by
  obtain ⟨supported, all⟩ := resolve_made resolved
  obtain ⟨definition, listed, made⟩ := exists_of_forall₂_of_mem all member
  obtain ⟨module, image, identified⟩ := GTATargetResolver.resolve_validated made validated
  rw [GTABuildTargetRegistry.module_of_mem_targets listed] at image
  rw [← GTATargetResolver.resolve_id made] at image identified
  exact ⟨supported, module, image, identified⟩

end GTABuildTargetCoordinator

end DevilzDen.Integrations.GTA5Enhanced
