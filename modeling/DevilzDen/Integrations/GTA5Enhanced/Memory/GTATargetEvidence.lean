import DevilzDen.Integrations.GTA5Enhanced.Memory.GTATargetDefinition

/-! What can be observed at a candidate address.

Fields that only go into the summary for the log are left out.
-/

set_option autoImplicit false

namespace DevilzDen.Integrations.GTA5Enhanced

open Backend Foundation

structure GTATargetEvidence where
  candidateCommitted : Bool := false
  candidateReadable : Bool := false
  candidateExecutable : Bool := false
  candidateType : UInt32 := 0
  sampleRead : Bool := false
  samplePreview : Text := []
  pointerDecoded : Bool := false
  pointeeAddress : Address := 0
  pointeeCommitted : Bool := false
  pointeeReadable : Bool := false
  pointeeExecutable : Bool := false
  objectSlotsSampled : Nat := 0
  readableObjects : Nat := 0
  objectFirstQwordsDecoded : Nat := 0
  objectFirstQwordImagePointers : Nat := 0
  objectFirstQwordExecutableImagePointers : Nat := 0
  objectDominantFirstQwordAddress : Address := 0
  objectDominantFirstQwordCount : Nat := 0
  objectDominantFirstQwordSampleRead : Bool := false
  objectDominantFirstQwordReadablePointers : Nat := 0
  objectDominantFirstQwordExecutableImagePointers : Nat := 0
  deriving DecidableEq, Repr

structure RegionInfo where
  committed : Bool := false
  readable : Bool := false
  executable : Bool := false
  type : UInt32 := 0
  deriving DecidableEq, Repr

def RegionInfo.executableImage (region : RegionInfo) : Bool :=
  region.type == Win32.memImage && region.executable

namespace GTATargetEvidenceProbe

def queryRegion (regions : VirtualQuery) (address : Address) : RegionInfo :=
  if address = 0 then {}
  else match regions address with
    | none => {}
    | some region =>
        let info : RegionInfo := { committed := region.state == Win32.memCommit, type := region.type }
        if !info.committed || Win32.hasAny region.protect (Win32.pageGuard ||| Win32.pageNoAccess) then info
        else
          { info with
            readable := Win32.hasAny region.protect
              (Win32.pageReadOnly ||| Win32.pageReadWrite ||| Win32.pageWriteCopy |||
                Win32.pageExecuteRead ||| Win32.pageExecuteReadWrite ||| Win32.pageExecuteWriteCopy)
            executable := Win32.hasAny region.protect
              (Win32.pageExecute ||| Win32.pageExecuteRead ||| Win32.pageExecuteReadWrite |||
                Win32.pageExecuteWriteCopy) }

def hexValue (value : UInt64) : Text := text "0x" ++ Numeral.render 16 value.toNat

def hexByte (byte : UInt8) : Text := [Numeral.digitChar (byte.toNat / 16), Numeral.digitChar (byte.toNat % 16)]

def hexBytes (bytes : List UInt8) : Text := List.intercalate (text " ") (bytes.map hexByte)

/-- The whole 64-bit words of a sample, as `memcpy` reads them. -/
def qwords (sample : List UInt8) : List UInt64 :=
  (List.range (sample.length / 8)).map fun index =>
    UInt64.ofNat (littleEndian ((sample.drop (index * 8)).take 8))

def qwordPreview (sample : List UInt8) : Text := List.intercalate (text ",") ((qwords sample).map hexValue)

/-- The evidence while object slots are probed, with the dispatch tables decoded so far. -/
structure SlotProbe where
  evidence : GTATargetEvidence
  decodedTargets : List Address := []

def probeSlot (host : HostProcess) (pid : UInt32) (probe : SlotProbe) (objectAddress : Address) : SlotProbe :=
  let objectRegion := queryRegion host.regions objectAddress
  let sampled := { probe.evidence with
    objectSlotsSampled := probe.evidence.objectSlotsSampled + 1
    readableObjects := probe.evidence.readableObjects + objectRegion.readable.toNat }
  -- a slot that cannot be followed is sampled but not decoded
  if objectAddress = 0 ∨ !objectRegion.readable then { probe with evidence := sampled }
  else match ProcessMemoryReader.read host pid objectAddress 8 with
    | .error _ => { probe with evidence := sampled }
    | .ok first =>
        let firstQword := UInt64.ofNat (littleEndian first)
        let firstQwordRegion := queryRegion host.regions firstQword
        { evidence := { sampled with
            objectFirstQwordsDecoded := sampled.objectFirstQwordsDecoded + 1
            objectFirstQwordImagePointers :=
              sampled.objectFirstQwordImagePointers + (firstQwordRegion.type == Win32.memImage).toNat
            objectFirstQwordExecutableImagePointers :=
              sampled.objectFirstQwordExecutableImagePointers +
                firstQwordRegion.executableImage.toNat }
          decodedTargets :=
            if firstQword = 0 then probe.decodedTargets else probe.decodedTargets ++ [firstQword] }

/-- The first of the most frequent addresses, with its frequency. -/
def dominant (decodedTargets : List Address) : Address × Nat :=
  decodedTargets.foldl (fun best candidate =>
    let count := decodedTargets.count candidate
    if count > best.2 then (candidate, count) else best) (0, 0)

def probeObjectSlots (host : HostProcess) (pid : UInt32) (sample : List UInt8) (evidence : GTATargetEvidence) :
    GTATargetEvidence :=
  let probed := ((qwords sample).take 8).foldl (probeSlot host pid) { evidence }
  let (dominantAddress, dominantCount) := dominant probed.decodedTargets
  let found := { probed.evidence with
    objectDominantFirstQwordAddress := dominantAddress
    objectDominantFirstQwordCount := dominantCount }
  if dominantAddress = 0 ∨ !(queryRegion host.regions dominantAddress).readable then found
  else match ProcessMemoryReader.read host pid dominantAddress 64 with
    | .error _ => found
    | .ok dominantSample =>
        { found with
          objectDominantFirstQwordSampleRead := true
          objectDominantFirstQwordReadablePointers :=
            (qwords dominantSample).countP fun value => (queryRegion host.regions value).readable
          objectDominantFirstQwordExecutableImagePointers :=
            (qwords dominantSample).countP fun value =>
              (queryRegion host.regions value).executableImage }

def captureRegion (region : RegionInfo) : GTATargetEvidence where
  candidateCommitted := region.committed
  candidateReadable := region.readable
  candidateExecutable := region.executable
  candidateType := region.type

/-- The sample taken at the candidate itself. -/
def probeSample (host : HostProcess) (pid : UInt32) (kind : GTATargetCandidateKind) (address : Address)
    (evidence : GTATargetEvidence) : GTATargetEvidence :=
  match kind with
  | .codeSite =>
      match ProcessMemoryReader.read host pid address 16 with
      | .error _ => evidence
      | .ok bytes => { evidence with sampleRead := true, samplePreview := hexBytes bytes }
  | .directData =>
      match ProcessMemoryReader.read host pid address 64 with
      | .error _ => evidence
      | .ok bytes => { evidence with sampleRead := true, samplePreview := qwordPreview bytes }
  | .unknown | .pointerStorage => evidence

/-- What the pointer stored at the candidate leads to. -/
def probePointee (host : HostProcess) (pid : UInt32) (address : Address) (evidence : GTATargetEvidence) :
    GTATargetEvidence :=
  match ProcessMemoryReader.read host pid address 8 with
  | .error _ => evidence
  | .ok bytes =>
      let pointee := UInt64.ofNat (littleEndian bytes)
      let pointeeRegion := queryRegion host.regions pointee
      let decoded := { evidence with
        pointerDecoded := true
        pointeeAddress := pointee
        pointeeCommitted := pointeeRegion.committed
        pointeeReadable := pointeeRegion.readable
        pointeeExecutable := pointeeRegion.executable }
      if pointee = 0 ∨ !pointeeRegion.readable then decoded
      else match ProcessMemoryReader.read host pid pointee 64 with
        | .error _ => decoded
        | .ok sample => probeObjectSlots host pid sample decoded

def probe (host : HostProcess) (pid : UInt32) (kind : GTATargetCandidateKind) (address : Address) :
    GTATargetEvidence :=
  let region := queryRegion host.regions address
  let captured := captureRegion region
  let sampled :=
    if address ≠ 0 ∧ pid ≠ 0 ∧ region.readable then probeSample host pid kind address captured else captured
  -- the pointer is read even where the candidate itself was not found readable
  if kind = .pointerStorage ∧ address ≠ 0 ∧ pid ≠ 0 then probePointee host pid address sampled
  else sampled

end GTATargetEvidenceProbe

end DevilzDen.Integrations.GTA5Enhanced
