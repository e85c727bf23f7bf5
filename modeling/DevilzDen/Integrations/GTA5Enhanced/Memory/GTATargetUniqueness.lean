import DevilzDen.Integrations.GTA5Enhanced.Memory.GTATargetResolver

/-! Uniqueness of a target over the whole image of its module.

The resolver decodes the matches of a scan that stops after eight, and counts
the candidates, not the addresses among them.
-/

set_option autoImplicit false

namespace DevilzDen.Integrations.GTA5Enhanced.GTATargetResolver

open Backend Foundation

def occurrences (module : ProcessModuleInfo) (image : List UInt8) (pattern : ProcessPattern) :
    List ProcessPatternMatch :=
  (List.range (image.length + 1 - pattern.size)).filterMap (ProcessPatternScanner.accept module image pattern)

theorem mem_occurrences {module : ProcessModuleInfo} {image : List UInt8} {pattern : ProcessPattern}
    {found : ProcessPatternMatch} : found ∈ occurrences module image pattern ↔
      found.offset + pattern.size ≤ image.length ∧
        ProcessPatternScanner.matchesAt image pattern found.offset = true ∧
          found.address = module.baseAddress + UInt64.ofNat found.offset := by
  simp only [occurrences, List.mem_filterMap, List.mem_range, ProcessPatternScanner.accept,
    Option.ite_none_right_eq_some, Option.some.injEq]
  constructor
  · rintro ⟨offset, below, holds, rfl⟩
    exact ⟨by dsimp only; omega, holds, rfl⟩
  · rintro ⟨inside, holds, same⟩
    exact ⟨found.offset, by omega, holds, by rw [← same]⟩

def decoded (host : HostProcess) (pid : UInt32) (definition : GTATargetDefinition)
    (found : List ProcessPatternMatch) : List Address :=
  found.filterMap (candidate host pid definition)

/-- The addresses that a pattern stands for in an image: what the resolve chain makes of each occurrence. -/
def Designated (host : HostProcess) (pid : UInt32) (definition : GTATargetDefinition)
    (module : ProcessModuleInfo) (image : List UInt8) (pattern : ProcessPattern) : Set Address :=
  { address | ∃ offset, offset + pattern.size ≤ image.length ∧
      ProcessPatternScanner.matchesAt image pattern offset = true ∧
        GTAAddressResolver.resolve host pid (module.baseAddress + UInt64.ofNat offset) definition.resolve =
          .ok address ∧ address ≠ 0 }

theorem candidate_eq_some {host : HostProcess} {pid : UInt32} {definition : GTATargetDefinition}
    {found : ProcessPatternMatch} {address : Address} : candidate host pid definition found = some address ↔
      GTAAddressResolver.resolve host pid found.address definition.resolve = .ok address ∧ address ≠ 0 := by
  unfold candidate
  cases GTAAddressResolver.resolve host pid found.address definition.resolve with
  | error error => simp
  | ok resolved =>
    simp only [Option.ite_none_right_eq_some, Option.some.injEq, Except.ok.injEq]
    constructor
    · rintro ⟨present, rfl⟩
      exact ⟨rfl, present⟩
    · rintro ⟨rfl, present⟩
      exact ⟨present, rfl⟩

theorem designated_eq (host : HostProcess) (pid : UInt32) (definition : GTATargetDefinition)
    (module : ProcessModuleInfo) (image : List UInt8) (pattern : ProcessPattern) :
    Designated host pid definition module image pattern =
      { address | address ∈ decoded host pid definition (occurrences module image pattern) } := by
  ext address
  simp only [Designated, decoded, Set.mem_ofPred_eq, List.mem_filterMap, candidate_eq_some, mem_occurrences]
  constructor
  · rintro ⟨offset, inside, holds, resolved, present⟩
    exact ⟨⟨_, offset⟩, ⟨inside, holds, rfl⟩, resolved, present⟩
  · rintro ⟨found, ⟨inside, holds, same⟩, resolved, present⟩
    exact ⟨found.offset, inside, holds, same ▸ resolved, present⟩

/-- A resolution that names an address, whatever its validators make of it. -/
def Reports (host : HostProcess) (pid : UInt32) (fingerprint : UInt64) (definition : GTATargetDefinition)
    (address : Address) : Prop :=
  ∃ resolution, resolve host pid fingerprint definition = .ok resolution ∧ resolution.address = address ∧
    (resolution.status.state = .located ∨ resolution.status.state = .structurallyValidated ∨
      resolution.status.state = .validated)

theorem judge_reports (definition : GTATargetDefinition) (fingerprint : UInt64) (moduleBase : Address)
    (output : GTATargetResolution) :
    (judge definition fingerprint moduleBase output).address = output.address ∧
      ((judge definition fingerprint moduleBase output).status.state = .located ∨
        (judge definition fingerprint moduleBase output).status.state = .structurallyValidated ∨
          (judge definition fingerprint moduleBase output).status.state = .validated) := by
  obtain ⟨state, detail, judged, verdict⟩ := GTATargetResolver.judge_cases definition fingerprint moduleBase output
  rw [judged]
  exact ⟨rfl, verdict.imp_right (Or.imp_right And.left)⟩

theorem parse_nil : ProcessPattern.parse [] = none := rfl

theorem parse_nonempty {signature : Text} {pattern : ProcessPattern}
    (parsed : ProcessPattern.parse signature = some pattern) : pattern.empty = false := by
  unfold ProcessPattern.parse at parsed
  split at parsed
  · cases parsed
  · split at parsed
    · cases parsed
    next some =>
      cases parsed
      simpa [ProcessPattern.empty] using some

section Image

variable {host : HostProcess} {pid : UInt32} {fingerprint : UInt64} {definition : GTATargetDefinition}
  {pattern : ProcessPattern} {module : ProcessModuleInfo} {image : List UInt8}

theorem find_request (found : ProcessModuleManager.find host pid definition.module = .ok module) : pid ≠ 0 := by
  rintro rfl
  simp [ProcessModuleManager.find] at found

/-- A readable image is scanned for its first eight occurrences. -/
theorem scan_eq_occurrences (parsed : ProcessPattern.parse definition.pattern = some pattern)
    (found : ProcessModuleManager.find host pid definition.module = .ok module)
    (readable : ProcessMemoryReader.read host pid module.baseAddress module.imageSize.toNat = .ok image)
    (fits : pattern.size ≤ module.imageSize.toNat) :
    ProcessPatternScanner.scan (ProcessMemoryReader.read host pid) module pattern 8 =
      .ok ((occurrences module image pattern).take 8) := by
  have positions : image.length - pattern.size + 1 = image.length + 1 - pattern.size := by
    rw [← ProcessMemoryReader.length_of_read readable] at fits
    omega
  rw [ProcessPatternScanner.scan_eq_ok (ProcessModuleManager.find_valid found) (parse_nonempty parsed) fits
    (by decide) readable, positions, occurrences]
  rfl

theorem scan_eq_error (read : Address → Nat → Result (List UInt8)) (long : module.imageSize.toNat < pattern.size) :
    ∃ error, ProcessPatternScanner.scan read module pattern 8 = .error error := by
  simp [ProcessPatternScanner.scan, long]

theorem reports_iff (parsed : ProcessPattern.parse definition.pattern = some pattern)
    (found : ProcessModuleManager.find host pid definition.module = .ok module)
    (readable : ProcessMemoryReader.read host pid module.baseAddress module.imageSize.toNat = .ok image)
    (address : Address) : Reports host pid fingerprint definition address ↔
      decoded host pid definition ((occurrences module image pattern).take 8) = [address] := by
  have request : ¬(pid = 0 ∨ definition.pattern = []) := by
    rintro (zero | empty)
    · exact find_request found zero
    · rw [empty, parse_nil] at parsed
      cases parsed
  rw [Reports, resolve, if_neg request, parsed, found]
  dsimp only
  by_cases fits : pattern.size ≤ module.imageSize.toNat
  · rw [scan_eq_occurrences parsed found readable fits]
    cases shown : (occurrences module image pattern).take 8 with
    | nil => simp [decoded, GTATargetResolution.ended]
    | cons first others =>
      dsimp only [decoded]
      cases collected : (first :: others).filterMap (candidate host pid definition) with
      | nil => simp [GTATargetResolution.ended]
      | cons one more =>
        cases more with
        | nil =>
          simp only [Except.ok.injEq, exists_eq_left', List.cons.injEq, and_true, judge_reports]
        | cons two rest => simp [GTATargetResolution.ended]
  · obtain ⟨error, failed⟩ := scan_eq_error (ProcessMemoryReader.read host pid) (Nat.lt_of_not_le fits)
    have none : occurrences module image pattern = [] := by
      have length := ProcessMemoryReader.length_of_read readable
      rw [occurrences, show image.length + 1 - pattern.size = 0 by omega]
      rfl
    rw [failed, none]
    simp [decoded]

/-- The resolver reports the one address that the pattern stands for in the
whole image, exactly when its first eight occurrences show whether there is one. -/
theorem target_unique_iff (parsed : ProcessPattern.parse definition.pattern = some pattern)
    (found : ProcessModuleManager.find host pid definition.module = .ok module)
    (readable : ProcessMemoryReader.read host pid module.baseAddress module.imageSize.toNat = .ok image) :
    (∀ address, Reports host pid fingerprint definition address ↔
        Designated host pid definition module image pattern = {address}) ↔
      Decisive (decoded host pid definition ((occurrences module image pattern).take 8))
        (decoded host pid definition ((occurrences module image pattern).drop 8)) := by
  have all : decoded host pid definition (occurrences module image pattern) =
      decoded host pid definition ((occurrences module image pattern).take 8) ++
        decoded host pid definition ((occurrences module image pattern).drop 8) := by
    rw [decoded, decoded, decoded, ← List.filterMap_append, List.take_append_drop]
  simp only [reports_iff parsed found readable, designated_eq, all]
  exact unique_iff_decisive _ _

end Image

def gameWith (image : List UInt8) : HostProcess where
  processId := 1
  lastError := 0
  executablePath := none
  executableName := []
  architecture := .x64
  memory := fun _ => 0
  regions := fun _ => none
  imageModule := 0
  moduleHandle := fun _ => 0
  moduleInformation := fun _ => none
  moduleSnapshot := fun _ => .listed [⟨text "GTA5_Enhanced.exe", 0x1000, UInt32.ofNat image.length⟩]
  openProcess := fun _ => some fun address size =>
    (true, (Memory.write (fun _ => 0) 0x1000 image).read address size)
  openFile := fun _ => none

def referenceTarget : GTATargetDefinition where
  id := .scriptGlobals
  name := text "ScriptGlobals"
  pattern := text "AA ? ? ? ?"
  resolve := [.ripRelative32 1]

def referencePattern : ProcessPattern where
  bytes := [⟨0xAA, false⟩, ⟨0, true⟩, ⟨0, true⟩, ⟨0, true⟩, ⟨0, true⟩]

def oneReference : List UInt8 := [0xAA, 0xFB, 0x0F, 0x00, 0x00]

theorem single_reference_reported : Reports (gameWith oneReference) 2 0 referenceTarget 0x2000 := by
  have judged : ∀ address, Reports (gameWith oneReference) 2 0 referenceTarget address ↔
      Designated (gameWith oneReference) 2 referenceTarget ⟨text "GTA5_Enhanced.exe", 0x1000, 5⟩ oneReference
        referencePattern = {address} :=
    (target_unique_iff (by decide) (by decide) (by decide)).mpr (by decide)
  have one : decoded (gameWith oneReference) 2 referenceTarget
      (occurrences ⟨text "GTA5_Enhanced.exe", 0x1000, 5⟩ oneReference referencePattern) = [0x2000] := by
    decide
  rw [judged, designated_eq, one]
  ext address
  simp

def twoReferences : List UInt8 := [0xAA, 0xFB, 0x0F, 0x00, 0x00, 0xAA, 0xF6, 0x0F, 0x00, 0x00]

theorem repeated_reference_not_reported :
    ProcessPattern.parse referenceTarget.pattern = some referencePattern ∧
      ProcessMemoryReader.read (gameWith twoReferences) 2 0x1000 10 = .ok twoReferences ∧
      Designated (gameWith twoReferences) 2 referenceTarget ⟨text "GTA5_Enhanced.exe", 0x1000, 10⟩ twoReferences
        referencePattern = {0x2000} ∧
      ∀ address, ¬Reports (gameWith twoReferences) 2 0 referenceTarget address := by
  have parsed : ProcessPattern.parse referenceTarget.pattern = some referencePattern := by decide
  have module : ProcessModuleManager.find (gameWith twoReferences) 2 referenceTarget.module =
      .ok ⟨text "GTA5_Enhanced.exe", 0x1000, 10⟩ := by decide
  have readable : ProcessMemoryReader.read (gameWith twoReferences) 2 0x1000 10 = .ok twoReferences := by decide
  have both : decoded (gameWith twoReferences) 2 referenceTarget
      (occurrences ⟨text "GTA5_Enhanced.exe", 0x1000, 10⟩ twoReferences referencePattern) = [0x2000, 0x2000] := by
    decide
  refine ⟨parsed, readable, ?_, fun address reported => ?_⟩
  · rw [designated_eq, both]
    ext address
    simp
  · have first : [0x2000, 0x2000] = [address] := both ▸ (reports_iff parsed module readable address).mp reported
    cases first

end DevilzDen.Integrations.GTA5Enhanced.GTATargetResolver
