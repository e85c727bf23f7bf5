import DevilzDen.Integrations.GTA5Enhanced.Memory.GTATargetEvidence

/-! Structural and semantic validation of the evidence at a candidate address. -/

set_option autoImplicit false

namespace DevilzDen.Integrations.GTA5Enhanced

open Backend Foundation

structure GTATargetValidation where
  applicable : Bool := false
  passed : Bool := false
  detail : Text := []
  deriving DecidableEq, Repr

namespace GTATargetValidation

def refused (detail : String) : GTATargetValidation where
  applicable := true
  detail := text detail

def accepted (detail : Text) : GTATargetValidation where
  applicable := true
  passed := true
  detail := detail

theorem passed_check {failed : Prop} [Decidable failed] {detail : String} {rest : GTATargetValidation} :
    (if failed then refused detail else rest).passed = true ↔ ¬failed ∧ rest.passed = true := by
  split
  next wrong => simp [refused, wrong]
  next right => simp [right]

end GTATargetValidation

namespace GTATargetStructuralValidator

open GTATargetValidation

def validateScriptThreads (evidence : GTATargetEvidence) : GTATargetValidation :=
  if !evidence.candidateCommitted || !evidence.candidateReadable then
    refused "ScriptThreads storage is not committed and readable"
  else if evidence.candidateType ≠ Win32.memImage then
    refused "ScriptThreads storage is not backed by the GTA image"
  else if !evidence.pointerDecoded ∨ evidence.pointeeAddress = 0 then
    refused "ScriptThreads storage did not decode to a non-null collection pointer"
  else if !evidence.pointeeCommitted || !evidence.pointeeReadable then
    refused "ScriptThreads collection is not committed and readable"
  else if evidence.pointeeExecutable then
    refused "ScriptThreads collection unexpectedly points into executable memory"
  else if evidence.objectSlotsSampled < 4 ∨ evidence.readableObjects < 4 then
    refused "Too few readable ScriptThreads object entries were observed"
  else if evidence.objectFirstQwordsDecoded < 4 then
    refused "Too few ScriptThreads object headers could be sampled"
  else
    let executableImagePointers := evidence.objectFirstQwordExecutableImagePointers
    let decodedHeaders := evidence.objectFirstQwordsDecoded
    if executableImagePointers * 4 < decodedHeaders * 3 then
      refused "Fewer than 75 percent of sampled ScriptThreads object headers point into executable image memory"
    else accepted (text "ScriptThreads pointer collection passed structural validation: " ++
      decimal evidence.readableObjects ++ text "/" ++ decimal evidence.objectSlotsSampled ++
      text " sampled objects are readable and " ++ decimal executableImagePointers ++ text "/" ++
      decimal decodedHeaders ++
      text " decoded first-qword pointers target executable image memory; semantic thread identity is still pending")

def validate (definition : GTATargetDefinition) (evidence : GTATargetEvidence) : GTATargetValidation :=
  if definition.id = .scriptThreads ∧ definition.candidateKind = .pointerStorage then
    validateScriptThreads evidence
  else {}

end GTATargetStructuralValidator

namespace GTATargetSemanticValidator

open GTATargetValidation

def supportedFingerprint : UInt64 := 0x6A4F97F605B81000
def scriptThreadsDispatchTableRva : Address := 0x2679270
def runScriptThreadsEntryRva : Address := 0x920A40
def initNativeTablesEntryRva : Address := 0x91BF20

def runScriptThreadsEntryBytes : Text := text "56 57 55 53 48 83 EC 28 85 C9 BE 40 5D C6 00 0F"

def baseUnavailable (moduleBase rva : Address) : Bool :=
  moduleBase == 0 || moduleBase > 0xFFFFFFFFFFFFFFFF - rva

def validateScriptThreads (evidence : GTATargetEvidence) (fingerprint : UInt64) (moduleBase : Address) :
    GTATargetValidation :=
  if fingerprint ≠ supportedFingerprint then
    refused "No ScriptThreads semantic identity is registered for this GTA build fingerprint"
  else if baseUnavailable moduleBase scriptThreadsDispatchTableRva then
    refused "GTA module base is unavailable for ScriptThreads semantic validation"
  else if evidence.objectFirstQwordsDecoded < 4 ∨
      evidence.objectDominantFirstQwordCount ≠ evidence.objectFirstQwordsDecoded then
    refused "Sampled ScriptThreads objects do not share one dominant dispatch-table identity"
  else if !evidence.objectDominantFirstQwordSampleRead then
    refused "ScriptThreads dominant dispatch table could not be sampled"
  else if evidence.objectDominantFirstQwordAddress ≠ moduleBase + scriptThreadsDispatchTableRva then
    refused "ScriptThreads dominant dispatch-table RVA does not match the verified build identity"
  else if evidence.objectDominantFirstQwordReadablePointers < 8 ∨
      evidence.objectDominantFirstQwordExecutableImagePointers < 8 then
    refused "ScriptThreads dispatch table does not expose eight readable executable-image entries"
  else accepted (text "ScriptThreads semantic identity validated for fingerprint 0x" ++
    Numeral.render 16 fingerprint.toNat ++ text ": " ++ decimal evidence.objectDominantFirstQwordCount ++
    text "/" ++ decimal evidence.objectFirstQwordsDecoded ++
    text " sampled objects share dispatch-table RVA 0x" ++
    Numeral.render 16 scriptThreadsDispatchTableRva.toNat ++
    text " and 8/8 sampled dispatch entries target executable GTA image memory")

def validateRunScriptThreads (evidence : GTATargetEvidence) (fingerprint : UInt64)
    (moduleBase candidateAddress : Address) : GTATargetValidation :=
  if fingerprint ≠ supportedFingerprint then
    refused "No RunScriptThreads semantic identity is registered for this GTA build fingerprint"
  else if baseUnavailable moduleBase runScriptThreadsEntryRva then
    refused "GTA module base is unavailable for RunScriptThreads semantic validation"
  else if candidateAddress ≠ moduleBase + runScriptThreadsEntryRva then
    refused "RunScriptThreads callable-entry RVA does not match the verified build identity"
  else if !evidence.candidateCommitted ∨ !evidence.candidateReadable ∨ !evidence.candidateExecutable ∨
      evidence.candidateType ≠ Win32.memImage then
    refused "RunScriptThreads candidate is not committed readable executable image memory"
  else if !evidence.sampleRead ∨ evidence.samplePreview ≠ runScriptThreadsEntryBytes then
    refused "RunScriptThreads callable-entry bytes do not match the verified build identity"
  else accepted (text "RunScriptThreads callable entry validated for fingerprint 0x" ++
    Numeral.render 16 fingerprint.toNat ++ text " at RVA 0x" ++
    Numeral.render 16 runScriptThreadsEntryRva.toNat)

/-- Unlike `validateRunScriptThreads`, neither the type of the memory nor the bytes are compared. -/
def validateInitNativeTables (evidence : GTATargetEvidence) (fingerprint : UInt64)
    (moduleBase candidateAddress : Address) : GTATargetValidation :=
  if fingerprint ≠ supportedFingerprint then
    refused "No InitNativeTables semantic identity is registered for this GTA build fingerprint"
  else if baseUnavailable moduleBase initNativeTablesEntryRva then
    refused "GTA module base is unavailable for InitNativeTables semantic validation"
  else if candidateAddress ≠ moduleBase + initNativeTablesEntryRva then
    refused "InitNativeTables callable-entry RVA does not match the verified build identity"
  else if !evidence.candidateCommitted || !evidence.candidateReadable || !evidence.candidateExecutable then
    refused "InitNativeTables candidate is not committed readable executable image memory"
  else if !evidence.sampleRead ∨ evidence.samplePreview = [] then
    refused "InitNativeTables callable entry could not be sampled"
  else accepted (text "InitNativeTables callable bootstrap validated for fingerprint 0x" ++
    Numeral.render 16 fingerprint.toNat ++ text " at RVA 0x" ++
    Numeral.render 16 initNativeTablesEntryRva.toNat)

def validate (definition : GTATargetDefinition) (evidence : GTATargetEvidence) (fingerprint : UInt64)
    (moduleBase candidateAddress : Address) : GTATargetValidation :=
  if definition.id = .scriptThreads ∧ definition.candidateKind = .pointerStorage then
    validateScriptThreads evidence fingerprint moduleBase
  else if definition.id = .runScriptThreads ∧ definition.candidateKind = .codeSite then
    validateRunScriptThreads evidence fingerprint moduleBase candidateAddress
  else if definition.id = .initNativeTables ∧ definition.candidateKind = .codeSite then
    validateInitNativeTables evidence fingerprint moduleBase candidateAddress
  else {}

/-- What a passed validation has established, for each target that has an identity. -/
def Identified (id : GTARuntimeTargetId) (evidence : GTATargetEvidence) (fingerprint : UInt64)
    (moduleBase candidateAddress : Address) : Prop :=
  fingerprint = supportedFingerprint ∧
    match id with
    | .scriptThreads => baseUnavailable moduleBase scriptThreadsDispatchTableRva = false ∧
        evidence.objectDominantFirstQwordAddress = moduleBase + scriptThreadsDispatchTableRva
    | .runScriptThreads => baseUnavailable moduleBase runScriptThreadsEntryRva = false ∧
        candidateAddress = moduleBase + runScriptThreadsEntryRva
    | .initNativeTables => baseUnavailable moduleBase initNativeTablesEntryRva = false ∧
        candidateAddress = moduleBase + initNativeTablesEntryRva
    | .gameState | .frameCount | .scriptGlobals | .programTable | .nativeTable => False

theorem validateScriptThreads_passed {evidence : GTATargetEvidence} {fingerprint : UInt64}
    {moduleBase : Address} (candidateAddress : Address)
    (passed : (validateScriptThreads evidence fingerprint moduleBase).passed = true) :
    Identified .scriptThreads evidence fingerprint moduleBase candidateAddress := by
  simp only [validateScriptThreads, passed_check] at passed
  obtain ⟨supported, available, _, _, expected, _⟩ := passed
  exact ⟨not_not.mp supported, by simpa using available, not_not.mp expected⟩

theorem validateRunScriptThreads_passed {evidence : GTATargetEvidence} {fingerprint : UInt64}
    {moduleBase candidateAddress : Address}
    (passed : (validateRunScriptThreads evidence fingerprint moduleBase candidateAddress).passed = true) :
    Identified .runScriptThreads evidence fingerprint moduleBase candidateAddress := by
  simp only [validateRunScriptThreads, passed_check] at passed
  obtain ⟨supported, available, expected, _⟩ := passed
  exact ⟨not_not.mp supported, by simpa using available, not_not.mp expected⟩

theorem validateInitNativeTables_passed {evidence : GTATargetEvidence} {fingerprint : UInt64}
    {moduleBase candidateAddress : Address}
    (passed : (validateInitNativeTables evidence fingerprint moduleBase candidateAddress).passed = true) :
    Identified .initNativeTables evidence fingerprint moduleBase candidateAddress := by
  simp only [validateInitNativeTables, passed_check] at passed
  obtain ⟨supported, available, expected, _⟩ := passed
  exact ⟨not_not.mp supported, by simpa using available, not_not.mp expected⟩

theorem validate_passed {definition : GTATargetDefinition} {evidence : GTATargetEvidence}
    {fingerprint : UInt64} {moduleBase candidateAddress : Address}
    (passed : (validate definition evidence fingerprint moduleBase candidateAddress).passed = true) :
    Identified definition.id evidence fingerprint moduleBase candidateAddress := by
  unfold validate at passed
  split at passed
  next scriptThreads =>
    rw [scriptThreads.1]
    exact validateScriptThreads_passed candidateAddress passed
  · split at passed
    next runScriptThreads =>
      rw [runScriptThreads.1]
      exact validateRunScriptThreads_passed passed
    · split at passed
      next initNativeTables =>
        rw [initNativeTables.1]
        exact validateInitNativeTables_passed passed
      · cases passed

end GTATargetSemanticValidator

end DevilzDen.Integrations.GTA5Enhanced
