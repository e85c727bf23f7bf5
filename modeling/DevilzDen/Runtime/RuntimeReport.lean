import DevilzDen.Backend.ErrorDescription
import DevilzDen.Integrations.GTA5Enhanced.GTAModuleManager
import DevilzDen.Runtime.RuntimeLogging

/-! What the runtime logs of a detection, and that the log tells it.

The game's module is looked up once more for the log. The summary of a target's
evidence is a parameter.
-/

set_option autoImplicit false

namespace DevilzDen.RuntimeManager.Logging

open Backend Foundation Integrations.GTA5Enhanced

def architectureName : ProcessArchitecture → String
  | .x86 => "x86"
  | .x64 => "x64"
  | .arm64 => "ARM64"
  | .unknown => "Unknown"

def stateName : GTAModuleManagerState → String
  | .notRunning => "NotRunning"
  | .detected => "Detected"
  | .buildIdentified => "BuildIdentified"
  | .runtimeUnverified => "RuntimeUnverified"
  | .unsupported => "Unsupported"
  | .supported => "Supported"
  | .runtimeReady => "RuntimeReady"
  | .failed => "Failed"

def targetStateName : GTARuntimeTargetState → String
  | .unknown => "Unknown"
  | .missing => "Missing"
  | .located => "Located"
  | .structurallyValidated => "StructurallyValidated"
  | .validated => "Validated"
  | .failed => "Failed"

def candidateKindName : GTATargetCandidateKind → String
  | .directData => "DirectData"
  | .pointerStorage => "PointerStorage"
  | .codeSite => "CodeSite"
  | .unknown => "Unknown"

def hex (value : UInt64) : Text := GTATargetEvidenceProbe.hexValue value

def infoLine (message : Text) (service : String) : Line := ⟨.info, message, text service⟩

def stateLine (status : GTAModuleStatus) : Line :=
  infoLine (text "State: " ++ text (stateName status.state) ++ text " - " ++ status.detail) "GTA5_Enhanced"

def processLine (process : ProcessInfo) : Line :=
  infoLine (text "PID: " ++ decimal process.pid.toNat ++
    text " | Architecture: " ++ text (architectureName process.architecture)) "GTA5_Enhanced"

def pathLine (path : Text) : Line := infoLine (text "Executable: " ++ path) "GTA5_Enhanced"

def moduleLine (base : Address) (imageSize : UInt32) : Line :=
  infoLine (text "ModuleBase: " ++ hex base ++ text " | ImageSize: " ++ hex imageSize.toUInt64) "GTA5_Enhanced"

def buildLine (build : BuildInfo) : Line :=
  infoLine (text "Build: " ++ build.version ++ text " | Fingerprint: " ++ hex build.fingerprint) "GTA5_Enhanced"

def countLine (report : GTABuildTargetReport) : Line :=
  infoLine (text "Runtime targets: " ++ decimal report.locatedCount ++ text " located | " ++
    decimal report.structurallyValidatedCount ++ text " structurally validated | " ++
    decimal report.validatedCount ++ text " semantically validated") "GTA5_Enhanced"

def rvaPart (moduleBase address : Address) : Text :=
  if moduleBase ≠ 0 ∧ address ≥ moduleBase then text " | RVA: " ++ hex (address - moduleBase) else []

def addressPart (moduleBase address : Address) : Text :=
  if address ≠ 0 then text " | Address: " ++ hex address ++ rvaPart moduleBase address else []

def detailPart (detail : Text) : Text := if detail ≠ [] then text " | " ++ detail else []

def targetLine (moduleBase : Address) (target : GTATargetResolution) : Line :=
  infoLine (target.status.name ++ text ": " ++ text (targetStateName target.status.state) ++
    text " | Kind: " ++ text (candidateKindName target.candidateKind) ++
    addressPart moduleBase target.address ++ detailPart target.status.detail) "GTA5_Enhanced.Targets"

def evidenceLine (name summary : Text) : Line :=
  infoLine (name ++ text ": " ++ summary) "GTA5_Enhanced.Evidence"

/-- The path of the executable, which is logged unless it is empty. -/
def shownPath (process : ProcessInfo) : Option Text :=
  if process.executablePath = [] then none else some process.executablePath

/-- The summary of the evidence, which is logged unless it or the address is missing. -/
def shownSummary (summary : GTATargetResolution → Text) (target : GTATargetResolution) : Option Text :=
  if target.address ≠ 0 ∧ summary target ≠ [] then some (summary target) else none

def gameModule (host : HostProcess) (process : ProcessInfo) : Option (Address × UInt32) :=
  match ProcessModuleManager.find host process.pid (text "GTA5_Enhanced.exe") with
  | .error _ => none
  | .ok module => some (module.baseAddress, module.imageSize)

def processLines (process : ProcessInfo) (module : Option (Address × UInt32)) : List Line :=
  processLine process :: ((shownPath process).elim [] (fun path => [pathLine path]) ++
    module.elim [] fun image => [moduleLine image.1 image.2])

def targetLines (summary : GTATargetResolution → Text) (moduleBase : Address) (target : GTATargetResolution) :
    List Line :=
  targetLine moduleBase target ::
    (shownSummary summary target).elim [] fun shown => [evidenceLine target.status.name shown]

def reportLines (summary : GTATargetResolution → Text) (moduleBase : Address) (report : GTABuildTargetReport) :
    List Line :=
  countLine report :: report.targets.flatMap (targetLines summary moduleBase)

def logGTAStatus (host : HostProcess) (summary : GTATargetResolution → Text) (status : GTAModuleStatus) :
    List Line :=
  let module := status.process.bind (gameModule host)
  let moduleBase := (module.map (·.1)).getD 0
  stateLine status :: ((status.process.elim [] fun process => processLines process module) ++
    ((status.build.elim [] fun build => [buildLine build]) ++
      status.targetReport.elim [] (reportLines summary moduleBase)))

/-! ## What a line tells -/

theorem notMem_hex (value : UInt64) : 32 ∉ hex value := by
  intro member
  rcases List.mem_append.mp member with label | digit
  · revert label
    decide
  · exact Numeral.notMem_render (by decide) (by decide) (by decide) _ digit

theorem hex_append_inj {value value' : UInt64} {rest rest' : Text}
    (ends : rest.head?.all (fun char => !Numeral.isDigit 16 char) = true)
    (ends' : rest'.head?.all (fun char => !Numeral.isDigit 16 char) = true)
    (same : hex value ++ rest = hex value' ++ rest') : value = value' ∧ rest = rest' := by
  unfold hex GTATargetEvidenceProbe.hexValue at same
  rw [List.append_assoc, List.append_assoc, List.append_cancel_left_eq] at same
  have read := congrArg (Numeral.fromChars 16 (2 ^ 64)) same
  rw [Numeral.fromChars_render (by decide) (by decide) value.toNat_lt ends,
    Numeral.fromChars_render (by decide) (by decide) value'.toNat_lt ends'] at read
  obtain ⟨numbers, rests⟩ := Prod.mk.inj (Except.ok.inj read)
  exact ⟨UInt64.toNat_inj.mp numbers, rests⟩

theorem hex_inj {value value' : UInt64} (same : hex value = hex value') : value = value' := by
  have appended : hex value ++ [] = hex value' ++ [] := congrArg (· ++ []) same
  exact (hex_append_inj rfl rfl appended).1

theorem stateLine_inj {status status' : GTAModuleStatus} (same : stateLine status = stateLine status') :
    status.state = status'.state ∧ status.detail = status'.detail := by
  have split : ∀ status : GTAModuleStatus, (stateLine status).message =
      text "State: " ++ (text (stateName status.state) ++ 32 :: (text "- " ++ status.detail)) := by
    intro status
    simp only [stateLine, infoLine, List.append_assoc]
    rfl
  have word : ∀ state, 32 ∉ text (stateName state) := by
    intro state
    cases state <;> decide
  have unique : ∀ state state', text (stateName state) = text (stateName state') → state = state' := by
    intro state state'
    cases state <;> cases state' <;> decide
  have messages := congrArg Line.message same
  rw [split, split, List.append_cancel_left_eq, Lines.append_cons_eq_iff (word _) (word _),
    List.append_cancel_left_eq] at messages
  exact ⟨unique _ _ messages.1, messages.2⟩

theorem processLine_inj {process process' : ProcessInfo} (same : processLine process = processLine process') :
    process.pid = process'.pid ∧ process.architecture = process'.architecture := by
  have split : ∀ process : ProcessInfo, (processLine process).message = text "PID: " ++
      (decimal process.pid.toNat ++ 32 :: (text "| Architecture: " ++
        text (architectureName process.architecture))) := by
    intro process
    simp only [processLine, infoLine, List.append_assoc]
    rfl
  have unique : ∀ architecture architecture',
      text (architectureName architecture) = text (architectureName architecture') →
        architecture = architecture' := by
    intro architecture architecture'
    cases architecture <;> cases architecture' <;> decide
  have messages := congrArg Line.message same
  rw [split, split, List.append_cancel_left_eq,
    Lines.append_cons_eq_iff (Error.notMem_decimal (by decide) _) (Error.notMem_decimal (by decide) _),
    List.append_cancel_left_eq] at messages
  exact ⟨UInt32.toNat_inj.mp (Error.decimal_inj messages.1), unique _ _ messages.2⟩

theorem pathLine_inj {path path' : Text} (same : pathLine path = pathLine path') : path = path' := by
  have messages := congrArg Line.message same
  exact List.append_cancel_left messages

theorem moduleLine_inj {base base' : Address} {imageSize imageSize' : UInt32}
    (same : moduleLine base imageSize = moduleLine base' imageSize') :
    base = base' ∧ imageSize = imageSize' := by
  have messages := congrArg Line.message same
  simp only [moduleLine, infoLine, List.append_assoc, List.append_cancel_left_eq] at messages
  obtain ⟨bases, sizes⟩ := hex_append_inj rfl rfl messages
  rw [List.append_cancel_left_eq] at sizes
  exact ⟨bases, UInt32.toUInt64_inj.mp (hex_inj sizes)⟩

theorem buildLine_inj {build build' : BuildInfo} (same : buildLine build = buildLine build') :
    build.version = build'.version ∧ build.fingerprint = build'.fingerprint := by
  have split : ∀ build : BuildInfo, (buildLine build).message =
      text "Build: " ++ ((build.version ++ text " | Fingerprint:") ++ 32 :: hex build.fingerprint) := by
    intro build
    simp only [buildLine, infoLine, List.append_assoc]
    rfl
  have messages := congrArg Line.message same
  rw [split, split, List.append_cancel_left_eq,
    Lines.append_cons_eq_iff_last (notMem_hex _) (notMem_hex _), List.append_cancel_right_eq] at messages
  exact ⟨messages.1, hex_inj messages.2⟩

theorem detailPart_inj {detail detail' : Text} (same : detailPart detail = detailPart detail') :
    detail = detail' := by
  unfold detailPart at same
  split at same
  · split at same
    · exact List.append_cancel_left same
    · cases same
  next none =>
    split at same
    · cases same
    next none' => rw [not_not.mp none, not_not.mp none']

theorem head_behind_address (moduleBase address : Address) (detail : Text) :
    (rvaPart moduleBase address ++ detailPart detail).head?.all (fun char => !Numeral.isDigit 16 char) = true := by
  unfold rvaPart detailPart
  split
  · rfl
  · split <;> rfl

/-- The state tells whether there is an address, so that none is mistaken for a detail. -/
theorem targetLine_inj {moduleBase : Address} {target target' : GTATargetResolution}
    (name : target.status.name = target'.status.name) (kind : target.candidateKind = target'.candidateKind)
    (address : target.address ≠ 0 ↔ target.status.state.isLocated = true)
    (address' : target'.address ≠ 0 ↔ target'.status.state.isLocated = true)
    (same : targetLine moduleBase target = targetLine moduleBase target') :
    target.status.state = target'.status.state ∧ target.address = target'.address ∧
      target.status.detail = target'.status.detail := by
  have split : ∀ target : GTATargetResolution, (targetLine moduleBase target).message = target.status.name ++
      (text ": " ++ (text (targetStateName target.status.state) ++ 32 :: (text "| Kind: " ++
        (text (candidateKindName target.candidateKind) ++
          (addressPart moduleBase target.address ++ detailPart target.status.detail))))) := by
    intro target
    simp only [targetLine, infoLine, List.append_assoc]
    rfl
  have word : ∀ state, 32 ∉ text (targetStateName state) := by
    intro state
    cases state <;> decide
  have unique : ∀ state state',
      text (targetStateName state) = text (targetStateName state') → state = state' := by
    intro state state'
    cases state <;> cases state' <;> decide
  have messages := congrArg Line.message same
  rw [split, split, name, kind, List.append_cancel_left_eq, List.append_cancel_left_eq,
    Lines.append_cons_eq_iff (word _) (word _), List.append_cancel_left_eq, List.append_cancel_left_eq] at messages
  obtain ⟨names, parts⟩ := messages
  have state := unique _ _ names
  refine ⟨state, ?_⟩
  rw [← state] at address'
  unfold addressPart at parts
  by_cases located : target.status.state.isLocated = true
  · rw [if_pos (address.mpr located), if_pos (address'.mpr located), List.append_assoc, List.append_assoc,
      List.append_assoc, List.append_assoc, List.append_cancel_left_eq] at parts
    obtain ⟨addresses, details⟩ :=
      hex_append_inj (head_behind_address _ _ _) (head_behind_address _ _ _) parts
    rw [addresses, List.append_cancel_left_eq] at details
    exact ⟨addresses, detailPart_inj details⟩
  · have none : target.address = 0 := not_not.mp fun present => located (address.mp present)
    have none' : target'.address = 0 := not_not.mp fun present => located (address'.mp present)
    rw [none, none'] at parts ⊢
    exact ⟨rfl, detailPart_inj parts⟩

/-! ## What the log of a detection tells -/

/-- The first letter of what is left of the log. -/
def heading (lines : List Line) : Option UInt8 := lines.head?.bind (·.message.head?)

def Opens (letter : UInt8) (lines : List Line) : Prop := heading lines = some letter

def Evidenced (lines : List Line) : Prop := lines.head?.map (·.service) = some (text "GTA5_Enhanced.Evidence")

structure ProcessAlike (process process' : ProcessInfo) : Prop where
  pid : process.pid = process'.pid
  architecture : process.architecture = process'.architecture
  path : process.executablePath = process'.executablePath

structure BuildAlike (build build' : BuildInfo) : Prop where
  version : build.version = build'.version
  fingerprint : build.fingerprint = build'.fingerprint

structure TargetAlike (summary summary' : GTATargetResolution → Text) (target target' : GTATargetResolution) :
    Prop where
  status : target.status = target'.status
  kind : target.candidateKind = target'.candidateKind
  address : target.address = target'.address
  summary : shownSummary summary target = shownSummary summary' target'

theorem shownPath_inj {process process' : ProcessInfo} (same : shownPath process = shownPath process') :
    process.executablePath = process'.executablePath := by
  unfold shownPath at same
  split at same
  next empty =>
    split at same
    next empty' => rw [empty, empty']
    next => cases same
  next =>
    split at same
    next => cases same
    next => exact Option.some.inj same

theorem processLines_inj {process process' : ProcessInfo} {module module' : Option (Address × UInt32)}
    {rest rest' : List Line} (other : heading rest ∈ [none, some 66, some 82])
    (other' : heading rest' ∈ [none, some 66, some 82])
    (same : processLines process module ++ rest = processLines process' module' ++ rest') :
    (ProcessAlike process process' ∧ module = module') ∧ rest = rest' := by
  unfold processLines at same
  simp only [List.cons_append, List.append_assoc] at same
  obtain ⟨first, later⟩ := List.cons.inj same
  obtain ⟨pid, architecture⟩ := processLine_inj first
  have behind : ∀ {module : Option (Address × UInt32)} {rest : List Line},
      heading rest ∈ [none, some 66, some 82] →
      ¬Opens 69 ((module.elim [] fun image => [moduleLine image.1 image.2]) ++ rest) := by
    intro module rest other opens
    unfold Opens at opens
    cases module with
    | none =>
      rw [Option.elim_none, List.nil_append] at opens
      rw [opens] at other
      revert other
      decide
    | some image =>
      have letter : (some 77 : Option UInt8) = some 69 := opens
      revert letter
      decide
  have apart : ∀ {rest : List Line}, heading rest ∈ [none, some 66, some 82] → ¬Opens 77 rest := by
    intro rest other opens
    rw [opens] at other
    revert other
    decide
  have opensPath : ∀ path after, Opens 69 ([pathLine path] ++ after) := fun _ _ => rfl
  have opensModule : ∀ (image : Address × UInt32) after, Opens 77 ([moduleLine image.1 image.2] ++ after) :=
    fun _ _ => rfl
  obtain ⟨paths, afterPath⟩ := Lines.optional_append_inj opensPath (behind other) (behind other')
    (fun path _ path' _ lines => by
      obtain ⟨line, rests⟩ := List.cons.inj lines
      exact ⟨pathLine_inj line, rests⟩) later
  obtain ⟨modules, rests⟩ := Lines.optional_append_inj opensModule (apart other) (apart other')
    (fun image _ image' _ lines => by
      obtain ⟨line, rests⟩ := List.cons.inj lines
      obtain ⟨base, size⟩ := moduleLine_inj line
      exact ⟨Prod.ext base size, rests⟩) afterPath
  exact ⟨⟨⟨pid, architecture, shownPath_inj paths⟩, modules⟩, rests⟩

theorem evidenceLine_inj {name shown shown' : Text} (same : evidenceLine name shown = evidenceLine name shown') :
    shown = shown' := by
  have messages := congrArg Line.message same
  exact List.append_cancel_left messages

theorem not_evidenced (summary : GTATargetResolution → Text) (moduleBase : Address)
    (targets : List GTATargetResolution) : ¬Evidenced (targets.flatMap (targetLines summary moduleBase)) := by
  cases targets with
  | nil => exact nofun
  | cons target later =>
    intro evidenced
    have service : some (text "GTA5_Enhanced.Targets") = some (text "GTA5_Enhanced.Evidence") := evidenced
    revert service
    decide

theorem targetLines_inj {definitions : List GTATargetDefinition} {targets targets' : List GTATargetResolution}
    (resolved : List.Forall₂ GTATargetResolver.Resolved definitions targets)
    (resolved' : List.Forall₂ GTATargetResolver.Resolved definitions targets')
    {summary summary' : GTATargetResolution → Text} {moduleBase : Address}
    (same : targets.flatMap (targetLines summary moduleBase) =
      targets'.flatMap (targetLines summary' moduleBase)) :
    List.Forall₂ (TargetAlike summary summary') targets targets' := by
  induction resolved generalizing targets' with
  | nil =>
    cases resolved'
    exact .nil
  | @cons definition target definitions targets first rest ih =>
    cases resolved' with
    | @cons _ target' _ targets' first' rest' =>
      simp only [List.flatMap_cons, targetLines, List.cons_append] at same
      obtain ⟨line, later⟩ := List.cons.inj same
      have name := first.name.trans first'.name.symm
      have kind := first.kind.trans first'.kind.symm
      obtain ⟨state, address, detail⟩ := targetLine_inj name kind first.address first'.address line
      have status : target.status = target'.status := by
        have id := first.id.trans first'.id.symm
        have required := first.required.trans first'.required.symm
        cases mine : target.status
        cases theirs : target'.status
        simp_all
      have opens : ∀ (shown : Text) after, Evidenced ([evidenceLine target'.status.name shown] ++ after) :=
        fun _ _ => rfl
      rw [name] at later
      obtain ⟨summaries, rests⟩ := Lines.optional_append_inj opens (not_evidenced summary moduleBase targets)
        (not_evidenced summary' moduleBase targets') (fun shown _ shown' _ lines => by
          obtain ⟨line, rests⟩ := List.cons.inj lines
          exact ⟨evidenceLine_inj line, rests⟩) later
      exact .cons ⟨status, kind, address, summaries⟩ (ih rest' rests)

/-- What two statuses agree on that have the same log. -/
structure Alike (host host' : HostProcess) (summary summary' : GTATargetResolution → Text)
    (status status' : GTAModuleStatus) : Prop where
  state : status.state = status'.state
  detail : status.detail = status'.detail
  process : Option.Rel ProcessAlike status.process status'.process
  module : status.process.bind (gameModule host) = status'.process.bind (gameModule host')
  build : Option.Rel BuildAlike status.build status'.build
  report : Option.Rel (fun report report' =>
      List.Forall₂ (TargetAlike summary summary') report.targets report'.targets)
    status.targetReport status'.targetReport

/-- The targets of a report were resolved for the targets of the registered build. -/
def Made (status : GTAModuleStatus) : Prop :=
  ∀ report ∈ status.targetReport,
    List.Forall₂ GTATargetResolver.Resolved GTABuildTargetRegistry.targets report.targets

theorem refreshStatus_made (registry : GTABuildRegistry) (observed : GTAModuleManager.Observations) :
    Made (GTAModuleManager.refreshStatus registry observed).1 := by
  intro report present
  obtain ⟨process, build, reported⟩ := GTAModuleManager.refreshStatus_reported present
  exact (GTABuildTargetCoordinator.resolve_made reported.resolved).2.imp
    fun _ _ resolved => GTATargetResolver.resolve_resolved resolved

theorem heading_behind_process (build : Option BuildInfo) (report : Option GTABuildTargetReport)
    (summary : GTATargetResolution → Text) (moduleBase : Address) :
    heading ((build.elim [] fun build => [buildLine build]) ++ report.elim [] (reportLines summary moduleBase)) ∈
      [none, some 66, some 82] := by
  cases build with
  | some build => exact List.mem_cons_of_mem _ List.mem_cons_self
  | none =>
    cases report with
    | none => exact List.mem_cons_self
    | some report => exact List.mem_cons_of_mem _ (List.mem_cons_of_mem _ List.mem_cons_self)

theorem rel_imp {α : Type} {related related' : α → α → Prop}
    (weaker : ∀ value value', related value value' → related' value value') {part part' : Option α}
    (both : Option.Rel related part part') : Option.Rel related' part part' := by
  cases both with
  | none => exact .none
  | some one => exact .some (weaker _ _ one)

theorem alike_of_same_log {host host' : HostProcess} {summary summary' : GTATargetResolution → Text}
    {status status' : GTAModuleStatus} (made : Made status) (made' : Made status')
    (same : logGTAStatus host summary status = logGTAStatus host' summary' status') :
    Alike host host' summary summary' status status' := by
  unfold logGTAStatus at same
  dsimp only at same
  obtain ⟨first, later⟩ := List.cons.inj same
  obtain ⟨state, detail⟩ := stateLine_inj first
  have other := heading_behind_process status.build status.targetReport summary
    (((status.process.bind (gameModule host)).map (·.1)).getD 0)
  have other' := heading_behind_process status'.build status'.targetReport summary'
    (((status'.process.bind (gameModule host')).map (·.1)).getD 0)
  have apart : ∀ {rest : List Line}, heading rest ∈ [none, some 66, some 82] → ¬Opens 80 rest := by
    intro rest other opens
    rw [opens] at other
    revert other
    decide
  have opensProcess : ∀ module process after, Opens 80 (processLines process module ++ after) := fun _ _ _ => rfl
  obtain ⟨processes, behind⟩ := Lines.optional_append_rel (opensProcess _) (opensProcess _) (apart other)
    (apart other') (fun process _ process' _ lines => processLines_inj other other' lines) later
  have module : status.process.bind (gameModule host) = status'.process.bind (gameModule host') := by
    cases mine : status.process with
    | none =>
      cases theirs : status'.process with
      | none => rfl
      | some process' =>
        rw [mine, theirs] at processes
        cases processes
    | some process =>
      cases theirs : status'.process with
      | none =>
        rw [mine, theirs] at processes
        cases processes
      | some process' =>
        rw [mine, theirs] at processes
        cases processes with
        | some both => exact both.2
  rw [module] at behind
  have opensBuild : ∀ build after, Opens 66 ([buildLine build] ++ after) := fun _ _ => rfl
  have report_apart : ∀ (summary : GTATargetResolution → Text) moduleBase
      (report : Option GTABuildTargetReport), ¬Opens 66 (report.elim [] (reportLines summary moduleBase)) := by
    intro summary moduleBase report opens
    cases report with
    | none => cases opens
    | some report =>
      have letter : (some 82 : Option UInt8) = some 66 := opens
      revert letter
      decide
  obtain ⟨builds, reports⟩ : Option.Rel BuildAlike status.build status'.build ∧ _ :=
    Lines.optional_append_rel opensBuild opensBuild (report_apart _ _ _) (report_apart _ _ _)
      (fun build _ build' _ lines => by
        obtain ⟨line, rests⟩ := List.cons.inj lines
        obtain ⟨version, fingerprint⟩ := buildLine_inj line
        exact ⟨⟨version, fingerprint⟩, rests⟩) behind
  refine ⟨state, detail, rel_imp (fun _ _ both => both.1) processes, module, builds, ?_⟩
  · cases mine : status.targetReport with
    | none =>
      cases theirs : status'.targetReport with
      | none => exact .none
      | some report' =>
        rw [mine, theirs] at reports
        cases reports
    | some report =>
      cases theirs : status'.targetReport with
      | none =>
        rw [mine, theirs] at reports
        cases reports
      | some report' =>
        rw [mine, theirs] at reports
        obtain ⟨_, lines⟩ := List.cons.inj reports
        exact .some (targetLines_inj (made report mine) (made' report' theirs) lines)

theorem elim_eq_of_rel {α : Type} {related : α → α → Prop} {render render' : α → List Line}
    (same : ∀ value value', related value value' → render value = render' value') {part part' : Option α}
    (both : Option.Rel related part part') : part.elim [] render = part'.elim [] render' := by
  cases both with
  | none => rfl
  | some one => exact same _ _ one

theorem targetLines_eq {summary summary' : GTATargetResolution → Text} (moduleBase : Address)
    {target target' : GTATargetResolution} (alike : TargetAlike summary summary' target target') :
    targetLines summary moduleBase target = targetLines summary' moduleBase target' := by
  unfold targetLines targetLine
  rw [alike.status, alike.kind, alike.address, alike.summary]

theorem reportLines_eq {summary summary' : GTATargetResolution → Text} (moduleBase : Address)
    {report report' : GTABuildTargetReport}
    (alike : List.Forall₂ (TargetAlike summary summary') report.targets report'.targets) :
    reportLines summary moduleBase report = reportLines summary' moduleBase report' := by
  obtain ⟨fingerprint, targets⟩ := report
  obtain ⟨fingerprint', targets'⟩ := report'
  dsimp only at alike
  have lines : targets.flatMap (targetLines summary moduleBase) =
      targets'.flatMap (targetLines summary' moduleBase) := by
    induction alike with
    | nil => rfl
    | cons first _ ih => rw [List.flatMap_cons, List.flatMap_cons, targetLines_eq moduleBase first, ih]
  have counts : ∀ counted : GTARuntimeTargetStatus → Bool,
      targets.countP (fun target => counted target.status) =
        targets'.countP (fun target => counted target.status) := by
    intro counted
    clear lines
    induction alike with
    | nil => rfl
    | cons first _ ih => rw [List.countP_cons, List.countP_cons, first.status, ih]
  unfold reportLines countLine GTABuildTargetReport.locatedCount GTABuildTargetReport.structurallyValidatedCount
    GTABuildTargetReport.validatedCount
  rw [lines, counts fun status => status.state.isLocated,
    counts fun status => decide (status.state = .structurallyValidated),
    counts fun status => decide (status.state = .validated)]

theorem same_log_of_alike {host host' : HostProcess} {summary summary' : GTATargetResolution → Text}
    {status status' : GTAModuleStatus} (alike : Alike host host' summary summary' status status') :
    logGTAStatus host summary status = logGTAStatus host' summary' status' := by
  have first : stateLine status = stateLine status' := by
    unfold stateLine
    rw [alike.state, alike.detail]
  unfold logGTAStatus
  dsimp only
  rw [first, alike.module]
  congr 1
  refine congrArg₂ (· ++ ·) ?_ (congrArg₂ (· ++ ·) ?_ ?_)
  · refine elim_eq_of_rel (fun process process' same => ?_) alike.process
    unfold processLines processLine shownPath
    rw [same.pid, same.architecture, same.path]
  · refine elim_eq_of_rel (fun build build' same => ?_) alike.build
    unfold buildLine
    rw [same.version, same.fingerprint]
  · exact elim_eq_of_rel (fun _ _ same => reportLines_eq _ same) alike.report

/-- The log of a detection tells the status that the refresh returned: its state and detail, the process, the
module and the build as far as they are shown, and of each target the state, the kind, the address and the
detail. The targets are those of the registered build, so they need no separators of their own. -/
theorem log_tells_status (registry registry' : GTABuildRegistry)
    (observed observed' : GTAModuleManager.Observations) (host host' : HostProcess)
    (summary summary' : GTATargetResolution → Text) :
    logGTAStatus host summary (GTAModuleManager.refreshStatus registry observed).1 =
        logGTAStatus host' summary' (GTAModuleManager.refreshStatus registry' observed').1 ↔
      Alike host host' summary summary' (GTAModuleManager.refreshStatus registry observed).1
        (GTAModuleManager.refreshStatus registry' observed').1 := by
  constructor
  · exact alike_of_same_log (refreshStatus_made registry observed) (refreshStatus_made registry' observed')
  · exact same_log_of_alike

end DevilzDen.RuntimeManager.Logging
