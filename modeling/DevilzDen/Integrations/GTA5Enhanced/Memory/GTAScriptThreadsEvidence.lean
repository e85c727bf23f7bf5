import DevilzDen.Foundation.Search
import DevilzDen.Integrations.GTA5Enhanced.Memory.GTATargetValidator

/-! What the evidence for a collection of script threads counts.

The counters are compared with the slots themselves: the first eight words of
the collection, and the first word of each object they lead to.
-/

set_option autoImplicit false

namespace DevilzDen.Integrations.GTA5Enhanced

open Backend Foundation

namespace GTATargetEvidenceProbe

def decodeSlot (host : HostProcess) (pid : UInt32) (objectAddress : Address) : Option UInt64 :=
  if objectAddress = 0 ∨ !(queryRegion host.regions objectAddress).readable then none
  else match ProcessMemoryReader.read host pid objectAddress 8 with
    | .error _ => none
    | .ok first => some (UInt64.ofNat (littleEndian first))

def collectionSlots (host : HostProcess) (pid : UInt32) (address : Address) : List Address :=
  if address = 0 ∨ pid = 0 then []
  else match ProcessMemoryReader.read host pid address 8 with
    | .error _ => []
    | .ok bytes =>
        let pointee := UInt64.ofNat (littleEndian bytes)
        if pointee = 0 ∨ !(queryRegion host.regions pointee).readable then []
        else match ProcessMemoryReader.read host pid pointee 64 with
          | .error _ => []
          | .ok sample => (qwords sample).take 8

def isImage (host : HostProcess) (value : UInt64) : Bool := (queryRegion host.regions value).type == Win32.memImage

def isExecutableImage (host : HostProcess) (value : UInt64) : Bool :=
  (queryRegion host.regions value).executableImage

def counted (host : HostProcess) (pid : UInt32) (evidence : GTATargetEvidence) (slots : List Address) :
    GTATargetEvidence :=
  let decoded := slots.filterMap (decodeSlot host pid)
  { evidence with
    objectSlotsSampled := evidence.objectSlotsSampled + slots.length
    readableObjects := evidence.readableObjects + slots.countP fun slot => (queryRegion host.regions slot).readable
    objectFirstQwordsDecoded := evidence.objectFirstQwordsDecoded + decoded.length
    objectFirstQwordImagePointers := evidence.objectFirstQwordImagePointers + decoded.countP (isImage host)
    objectFirstQwordExecutableImagePointers :=
      evidence.objectFirstQwordExecutableImagePointers + decoded.countP (isExecutableImage host) }

theorem countP_singleton {α : Type} (test : α → Bool) (value : α) : [value].countP test = (test value).toNat := by
  cases holds : test value <;> simp [holds]

theorem probeSlot_eq (host : HostProcess) (pid : UInt32) (probe : SlotProbe) (slot : Address) :
    probeSlot host pid probe slot =
      { evidence := counted host pid probe.evidence [slot]
        decodedTargets := probe.decodedTargets ++
          ((decodeSlot host pid slot).toList.filter fun value => value ≠ 0) } := by
  have readable := countP_singleton (fun slot => (queryRegion host.regions slot).readable) slot
  unfold probeSlot
  dsimp only
  split
  next blocked =>
    have undecoded : decodeSlot host pid slot = none := if_pos blocked
    simp [counted, undecoded, readable]
  next followed =>
    split
    next error failed =>
      have undecoded : decodeSlot host pid slot = none := by rw [decodeSlot, if_neg followed, failed]
      simp [counted, undecoded, readable]
    next first succeeded =>
      have decoded : decodeSlot host pid slot = some (UInt64.ofNat (littleEndian first)) := by
        rw [decodeSlot, if_neg followed, succeeded]
      have image := countP_singleton (isImage host) (UInt64.ofNat (littleEndian first))
      have executable := countP_singleton (isExecutableImage host) (UInt64.ofNat (littleEndian first))
      simp only [counted, decoded, readable, List.filterMap_cons, List.filterMap_nil, image, executable]
      by_cases null : UInt64.ofNat (littleEndian first) = 0
      · simp [null, isImage, isExecutableImage]
      · simp [null, isImage, isExecutableImage]

theorem counted_append (host : HostProcess) (pid : UInt32) (evidence : GTATargetEvidence)
    (first second : List Address) :
    counted host pid (counted host pid evidence first) second = counted host pid evidence (first ++ second) := by
  simp [counted, Nat.add_assoc]

theorem foldl_probeSlot (host : HostProcess) (pid : UInt32) (probe : SlotProbe) (slots : List Address) :
    slots.foldl (probeSlot host pid) probe =
      { evidence := counted host pid probe.evidence slots
        decodedTargets := probe.decodedTargets ++
          (slots.filterMap (decodeSlot host pid)).filter fun value => value ≠ 0 } := by
  induction slots generalizing probe with
  | nil => simp [counted]
  | cons slot rest ih =>
    rw [List.foldl_cons, ih, probeSlot_eq, counted_append, List.singleton_append, List.append_assoc,
      ← List.filter_append, List.filterMap_cons]
    cases decodeSlot host pid slot <;> rfl

theorem dominant_eq (decodedTargets : List Address) :
    dominant decodedTargets = heaviest (fun target => decodedTargets.count target) (0, 0) decodedTargets := rfl

/-- The dominant address is a most frequent one, and its count is exact. -/
structure Dominates (decoded : List UInt64) (address : Address) (count : Nat) : Prop where
  most : ∀ value ∈ decoded, value ≠ 0 → decoded.count value ≤ count
  exact : count = if address = 0 then 0 else decoded.count address
  null_iff : address = 0 ↔ ∀ value ∈ decoded, value = 0

theorem dominates_dominant (decoded : List UInt64) :
    Dominates decoded (dominant (decoded.filter fun value => value ≠ 0)).1
      (dominant (decoded.filter fun value => value ≠ 0)).2 := by
  obtain ⟨_, most, held⟩ := heaviest_spec (fun target => (decoded.filter fun value => value ≠ 0).count target)
    (0, 0) (decoded.filter fun value => value ≠ 0)
  rw [← dominant_eq] at most held
  have kept {value : UInt64} : value ∈ (decoded.filter fun value => value ≠ 0) ↔ value ∈ decoded ∧ value ≠ 0 := by
    simp
  have counts {value : UInt64} (nonzero : value ≠ 0) :
      (decoded.filter fun value => value ≠ 0).count value = decoded.count value :=
    List.count_filter (by simpa using nonzero)
  have most : ∀ value ∈ decoded, value ≠ 0 →
      decoded.count value ≤ (dominant (decoded.filter fun value => value ≠ 0)).2 := by
    intro value member nonzero
    rw [← counts nonzero]
    exact most value (kept.mpr ⟨member, nonzero⟩)
  rcases held with none | ⟨candidate, member, same⟩
  · rw [none] at most ⊢
    refine ⟨most, rfl, iff_of_true rfl fun value member => ?_⟩
    -- a value that occurs has a positive count
    by_contra nonzero
    have positive := List.count_pos_iff.mpr member
    have bound := most value member nonzero
    omega
  · obtain ⟨member, nonzero⟩ := kept.mp member
    rw [same] at most ⊢
    refine ⟨most, ?_, iff_of_false nonzero fun all => nonzero (all candidate member)⟩
    rw [if_neg nonzero]
    exact counts nonzero

/-- What the counters of the evidence say of the slots of a collection. -/
structure Counts (host : HostProcess) (pid : UInt32) (slots : List Address) (evidence : GTATargetEvidence) :
    Prop where
  executable : evidence.objectFirstQwordExecutableImagePointers ≤ evidence.objectFirstQwordImagePointers
  image : evidence.objectFirstQwordImagePointers ≤ evidence.objectFirstQwordsDecoded
  readable : evidence.objectFirstQwordsDecoded ≤ evidence.readableObjects
  sampled : evidence.readableObjects ≤ evidence.objectSlotsSampled
  eight : evidence.objectSlotsSampled ≤ 8
  decoded : evidence.objectFirstQwordsDecoded = (slots.filterMap (decodeSlot host pid)).length
  dominates : Dominates (slots.filterMap (decodeSlot host pid)) evidence.objectDominantFirstQwordAddress
    evidence.objectDominantFirstQwordCount

structure Fresh (evidence : GTATargetEvidence) : Prop where
  sampled : evidence.objectSlotsSampled = 0
  readable : evidence.readableObjects = 0
  decoded : evidence.objectFirstQwordsDecoded = 0
  image : evidence.objectFirstQwordImagePointers = 0
  executable : evidence.objectFirstQwordExecutableImagePointers = 0
  address : evidence.objectDominantFirstQwordAddress = 0
  count : evidence.objectDominantFirstQwordCount = 0

theorem Fresh.counts {evidence : GTATargetEvidence} (fresh : Fresh evidence) (host : HostProcess) (pid : UInt32) :
    Counts host pid [] evidence := by
  obtain ⟨sampled, readable, decoded, image, executable, address, count⟩ := fresh
  constructor
  all_goals simp [sampled, readable, decoded, image, executable, address, count]
  exact ⟨nofun, rfl, by simp⟩

theorem readable_of_decodeSlot {host : HostProcess} {pid : UInt32} {slot : Address}
    (decoded : (decodeSlot host pid slot).isSome) : (queryRegion host.regions slot).readable = true := by
  unfold decodeSlot at decoded
  split at decoded
  · exact nomatch decoded
  next followed => simpa using (not_or.mp followed).2

theorem isImage_of_isExecutableImage {host : HostProcess} {value : UInt64}
    (executable : isExecutableImage host value = true) : isImage host value = true :=
  (Bool.and_eq_true_iff.mp executable).1

theorem counts_probeObjectSlots {host : HostProcess} {pid : UInt32} {evidence : GTATargetEvidence}
    (fresh : Fresh evidence) (sample : List UInt8) :
    Counts host pid ((qwords sample).take 8) (probeObjectSlots host pid sample evidence) := by
  have chain : (((qwords sample).take 8).filterMap (decodeSlot host pid)).length ≤
      ((qwords sample).take 8).countP fun slot => (queryRegion host.regions slot).readable := by
    rw [List.length_filterMap_eq_countP]
    exact List.countP_mono_left fun slot _ => readable_of_decodeSlot
  have found : Counts host pid ((qwords sample).take 8)
      { counted host pid evidence ((qwords sample).take 8) with
        objectDominantFirstQwordAddress := (dominant ((((qwords sample).take 8).filterMap
          (decodeSlot host pid)).filter fun value => value ≠ 0)).1
        objectDominantFirstQwordCount := (dominant ((((qwords sample).take 8).filterMap
          (decodeSlot host pid)).filter fun value => value ≠ 0)).2 } := by
    constructor
    all_goals simp only [counted, fresh.sampled, fresh.readable, fresh.decoded, fresh.image, fresh.executable,
      Nat.zero_add]
    · exact List.countP_mono_left fun value _ => isImage_of_isExecutableImage
    · exact List.countP_le_length
    · exact chain
    · exact List.countP_le_length
    · simp
    · exact dominates_dominant _
  unfold probeObjectSlots
  rw [foldl_probeSlot]
  dsimp only
  rw [List.nil_append]
  -- sampling the dispatch table leaves these counters as they are
  split
  · exact found
  · split
    · exact found
    · exact ⟨found.executable, found.image, found.readable, found.sampled, found.eight, found.decoded,
        found.dominates⟩

theorem counts_probePointee {host : HostProcess} {pid : UInt32} {address : Address} {evidence : GTATargetEvidence}
    (fresh : Fresh evidence) (present : address ≠ 0) (process : pid ≠ 0) :
    Counts host pid (collectionSlots host pid address) (probePointee host pid address evidence) := by
  have decoded (pointee : Address) (region : RegionInfo) : Fresh { evidence with
      pointerDecoded := true
      pointeeAddress := pointee
      pointeeCommitted := region.committed
      pointeeReadable := region.readable
      pointeeExecutable := region.executable } :=
    ⟨fresh.sampled, fresh.readable, fresh.decoded, fresh.image, fresh.executable, fresh.address, fresh.count⟩
  rw [collectionSlots, probePointee, if_neg (not_or.mpr ⟨present, process⟩)]
  cases ProcessMemoryReader.read host pid address 8 with
  | error error => exact fresh.counts host pid
  | ok bytes =>
    dsimp only
    by_cases ends : UInt64.ofNat (littleEndian bytes) = 0 ∨
        (!(queryRegion host.regions (UInt64.ofNat (littleEndian bytes))).readable) = true
    · rw [if_pos ends, if_pos ends]
      exact (decoded _ _).counts host pid
    · rw [if_neg ends, if_neg ends]
      cases ProcessMemoryReader.read host pid (UInt64.ofNat (littleEndian bytes)) 64 with
      | error error => exact (decoded _ _).counts host pid
      | ok sample => exact counts_probeObjectSlots (decoded _ _) sample

theorem counts_probe (host : HostProcess) (pid : UInt32) (address : Address) :
    Counts host pid (collectionSlots host pid address) (probe host pid .pointerStorage address) := by
  have fresh : Fresh (captureRegion (queryRegion host.regions address)) := by constructor <;> rfl
  unfold probe
  have same : (if address ≠ 0 ∧ pid ≠ 0 ∧ (queryRegion host.regions address).readable = true then
      probeSample host pid .pointerStorage address (captureRegion (queryRegion host.regions address))
    else captureRegion (queryRegion host.regions address)) = captureRegion (queryRegion host.regions address) := by
    rw [probeSample, ite_self]
  dsimp only
  rw [same]
  split
  next followed => exact counts_probePointee fresh followed.2.1 followed.2.2
  next skipped =>
    have none : collectionSlots host pid address = [] := by
      rw [collectionSlots, if_pos]
      by_contra neither
      exact skipped ⟨rfl, (not_or.mp neither).1, (not_or.mp neither).2⟩
    rw [none]
    exact fresh.counts host pid

/-! ## The process's own memory -/

theorem decodeSlot_own {host : HostProcess} {slot : Address} {value : UInt64}
    (decoded : decodeSlot host host.processId slot = some value) : value = host.memory.qword slot := by
  unfold decodeSlot at decoded
  split at decoded
  · cases decoded
  · split at decoded
    · cases decoded
    next first succeeded =>
      cases decoded
      rw [ProcessMemoryReader.read_own succeeded]
      rfl

theorem qwords_read (memory : Memory) (address : Address) :
    (qwords (memory.read address 64)).take 8 =
      (List.range 8).map fun index => memory.qword (address + UInt64.ofNat (index * 8)) := by
  have whole : qwords (memory.read address 64) =
      (List.range 8).map fun index => memory.qword (address + UInt64.ofNat (index * 8)) := by
    rw [qwords, Memory.length_read]
    apply List.map_congr_left
    intro index member
    have inside := List.mem_range.mp member
    rw [Memory.take_drop_read _ _ (by omega)]
    rfl
  rw [whole, List.take_of_length_le (by simp)]

theorem collectionSlots_own {host : HostProcess} {address : Address}
    (some : collectionSlots host host.processId address ≠ []) :
    address ≠ 0 ∧ host.memory.qword address ≠ 0 ∧
      collectionSlots host host.processId address =
        (List.range 8).map fun index => host.memory.qword (host.memory.qword address + UInt64.ofNat (index * 8)) := by
  unfold collectionSlots at some ⊢
  split at some
  · exact absurd rfl some
  next present =>
    rw [if_neg present]
    cases pointer : ProcessMemoryReader.read host host.processId address 8 with
    | error error =>
      rw [pointer] at some
      exact absurd rfl some
    | ok bytes =>
      have stored : UInt64.ofNat (littleEndian bytes) = host.memory.qword address := by
        rw [ProcessMemoryReader.read_own pointer]
        rfl
      rw [pointer] at some
      dsimp only at some ⊢
      rw [stored] at some ⊢
      split at some
      · exact absurd rfl some
      next followed =>
        rw [if_neg followed]
        cases collection : ProcessMemoryReader.read host host.processId (host.memory.qword address) 64 with
        | error error =>
          rw [collection] at some
          exact absurd rfl some
        | ok sample =>
          rw [ProcessMemoryReader.read_own collection]
          exact ⟨(not_or.mp present).1, (not_or.mp followed).1, qwords_read _ _⟩

end GTATargetEvidenceProbe

open GTATargetEvidenceProbe GTATargetSemanticValidator

theorem validateScriptThreads_shared {evidence : GTATargetEvidence} {fingerprint : UInt64} {moduleBase : Address}
    (passed : (validateScriptThreads evidence fingerprint moduleBase).passed = true) :
    4 ≤ evidence.objectFirstQwordsDecoded ∧
      evidence.objectDominantFirstQwordCount = evidence.objectFirstQwordsDecoded ∧
      evidence.objectDominantFirstQwordAddress = moduleBase + scriptThreadsDispatchTableRva := by
  simp only [validateScriptThreads, GTATargetValidation.passed_check] at passed
  obtain ⟨_, _, shared, _, expected, _⟩ := passed
  obtain ⟨enough, same⟩ := not_or.mp shared
  exact ⟨Nat.le_of_not_lt enough, not_not.mp same, not_not.mp expected⟩

theorem scriptThreads_of_passed {definition : GTATargetDefinition} {evidence : GTATargetEvidence}
    {fingerprint : UInt64} {moduleBase candidateAddress : Address} (scriptThreads : definition.id = .scriptThreads)
    (passed : (validate definition evidence fingerprint moduleBase candidateAddress).passed = true) :
    definition.candidateKind = .pointerStorage ∧
      (validateScriptThreads evidence fingerprint moduleBase).passed = true := by
  unfold validate at passed
  rw [scriptThreads] at passed
  split at passed
  next storage => exact ⟨storage.2, passed⟩
  · simp at passed

theorem decoded_of_passed {host : HostProcess} {pid : UInt32} {address : Address}
    {definition : GTATargetDefinition} {fingerprint : UInt64} {moduleBase candidateAddress : Address}
    (scriptThreads : definition.id = .scriptThreads)
    (passed : (validate definition (probe host pid .pointerStorage address) fingerprint moduleBase
      candidateAddress).passed = true) :
    4 ≤ ((collectionSlots host pid address).filterMap (decodeSlot host pid)).length ∧
      ∀ value ∈ (collectionSlots host pid address).filterMap (decodeSlot host pid),
        value = moduleBase + scriptThreadsDispatchTableRva := by
  have counts := counts_probe host pid address
  obtain ⟨enough, same, expected⟩ := validateScriptThreads_shared (scriptThreads_of_passed scriptThreads passed).2
  rw [counts.decoded] at enough same
  refine ⟨enough, fun value member => ?_⟩
  have exact := counts.dominates.exact
  rw [same] at exact
  split at exact
  · omega
  -- the dominant word occurs as often as there are decoded words
  next present =>
    have all := List.count_eq_length.mp exact.symm
    rw [← expected, all value member]

/-- The evidence counts what the slots hold, and a passed validation means that
the objects that could be read are script threads of the expected dispatch table. -/
theorem scriptThreads_evidence_sound (host : HostProcess) (pid : UInt32) (address : Address) :
    let evidence := probe host pid .pointerStorage address
    let slots := collectionSlots host pid address
    Counts host pid slots evidence ∧
    (pid = host.processId → slots = [] ∨ slots = (List.range 8).map fun index =>
      host.memory.qword (host.memory.qword address + UInt64.ofNat (index * 8))) ∧
    ∀ (definition : GTATargetDefinition) fingerprint moduleBase candidateAddress,
      definition.id = .scriptThreads →
      (validate definition evidence fingerprint moduleBase candidateAddress).passed = true →
      4 ≤ slots.countP (fun slot => (decodeSlot host pid slot).isSome) ∧
      ∀ slot ∈ slots, ∀ value, decodeSlot host pid slot = some value →
        value = moduleBase + scriptThreadsDispatchTableRva ∧
        (pid = host.processId → host.memory.qword slot = moduleBase + scriptThreadsDispatchTableRva) := by
  intro evidence slots
  refine ⟨counts_probe host pid address, ?_, ?_⟩
  · rintro rfl
    by_cases none : slots = []
    · exact Or.inl none
    · exact Or.inr (collectionSlots_own none).2.2
  · intro definition fingerprint moduleBase candidateAddress scriptThreads passed
    obtain ⟨enough, expected⟩ := decoded_of_passed scriptThreads passed
    rw [List.length_filterMap_eq_countP] at enough
    refine ⟨enough, fun slot member value decoded => ?_⟩
    have same := expected value (List.mem_filterMap.mpr ⟨slot, member, decoded⟩)
    refine ⟨same, ?_⟩
    rintro rfl
    rw [← decodeSlot_own decoded, same]

end DevilzDen.Integrations.GTA5Enhanced
