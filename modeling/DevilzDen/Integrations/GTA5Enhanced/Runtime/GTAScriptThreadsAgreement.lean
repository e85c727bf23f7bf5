import DevilzDen.Foundation.Intervals
import DevilzDen.Integrations.GTA5Enhanced.Memory.GTAScriptThreadsEvidence
import DevilzDen.Integrations.GTA5Enhanced.Memory.GTATargetResolver
import DevilzDen.Integrations.GTA5Enhanced.Runtime.GTARunScriptThreadsBridge

/-! What the bridge finds in a collection that the resolver has validated.

The resolver's reads go from region to region, and a guard of the bridge looks
at one region only. Where the guards let it through, the bridge finds a thread.
-/

set_option autoImplicit false

namespace DevilzDen.Integrations.GTA5Enhanced

open Backend Foundation

/-- A block within one region that is committed, not guarded, and of a readable protection. -/
structure InReadableRegion (address : Address) (bytes : Nat) (region : MemoryBasicInformation) : Prop where
  present : address ≠ 0
  committed : region.state = Win32.memCommit
  unguarded : Win32.hasAny region.protect (Win32.pageGuard ||| Win32.pageNoAccess) = false
  protection : region.protect &&& 0xFF ∈ [Win32.pageReadOnly, Win32.pageReadWrite, Win32.pageWriteCopy,
    Win32.pageExecuteRead, Win32.pageExecuteReadWrite, Win32.pageExecuteWriteCopy]
  after : region.baseAddress.toNat ≤ address.toNat
  before : address.toNat + bytes ≤ region.baseAddress.toNat + region.regionSize.toNat
  bounded : region.baseAddress.toNat + region.regionSize.toNat < 2 ^ 64

/-- The bridge's own condition on a block: the region at its start holds all of it. -/
def BridgeReadable (regions : VirtualQuery) (address : Address) (bytes : Nat) : Prop :=
  ∃ region, regions address = some region ∧ InReadableRegion address bytes region

theorem Win32.hasAny_or (value first second : UInt32) :
    Win32.hasAny value (first ||| second) = (Win32.hasAny value first || Win32.hasAny value second) := by
  have distributes : value &&& (first ||| second) = (value &&& first) ||| (value &&& second) :=
    UInt32.toBitVec_inj.mp BitVec.and_or_distrib_left
  rw [Win32.hasAny, distributes, Bool.eq_iff_iff]
  simp only [Win32.hasAny, bne_iff_ne, ne_eq, UInt32.or_eq_zero_iff, Bool.or_eq_true]
  tauto

namespace GTARunScriptThreadsBridge

open GTATargetEvidenceProbe GTATargetSemanticValidator

theorem isReadableProtection_iff (protection : UInt32) : isReadableProtection protection = true ↔
    protection &&& 0xFF ∈ [Win32.pageReadOnly, Win32.pageReadWrite, Win32.pageWriteCopy,
      Win32.pageExecuteRead, Win32.pageExecuteReadWrite, Win32.pageExecuteWriteCopy] := by
  simp [isReadableProtection, or_assoc]

theorem not_wraps_iff (base size : UInt64) :
    ¬base > 0xFFFFFFFFFFFFFFFF - size ↔ base.toNat + size.toNat < 2 ^ 64 := by
  have small := size.toNat_lt
  rw [gt_iff_lt, UInt64.lt_iff_toNat_lt, UInt64.toNat_sub_of_le _ _ (UInt64.le_iff_toNat_le.mpr (by simp; omega))]
  simp only [UInt64.reduceToNat]
  omega

theorem within_iff {base length address size : UInt64} (bounded : base.toNat + length.toNat < 2 ^ 64) :
    (address ≥ base && address ≤ base + length && size ≤ base + length - address) = true ↔
      base.toNat ≤ address.toNat ∧ address.toNat + size.toNat ≤ base.toNat + length.toNat := by
  have upper : (base + length).toNat = base.toNat + length.toNat := by
    rw [UInt64.toNat_add, Nat.mod_eq_of_lt bounded]
  simp only [Bool.and_eq_true, decide_eq_true_eq, ge_iff_le]
  constructor
  · rintro ⟨⟨after, below⟩, fits⟩
    rw [UInt64.le_iff_toNat_le, UInt64.toNat_sub_of_le _ _ below, upper] at fits
    rw [UInt64.le_iff_toNat_le] at after below
    omega
  · rintro ⟨after, before⟩
    have below : address ≤ base + length := UInt64.le_iff_toNat_le.mpr (by rw [upper]; omega)
    refine ⟨⟨UInt64.le_iff_toNat_le.mpr after, below⟩, ?_⟩
    rw [UInt64.le_iff_toNat_le, UInt64.toNat_sub_of_le _ _ below, upper]
    omega

theorem isReadableAddress_iff {regions : VirtualQuery} {address : Address} {size : UInt64} (some : size ≠ 0) :
    isReadableAddress regions address size = true ↔ BridgeReadable regions address size.toNat := by
  unfold isReadableAddress BridgeReadable
  by_cases present : address = 0
  · simp only [present, true_or, if_true, Bool.false_eq_true, false_iff]
    rintro ⟨region, -, readable⟩
    exact readable.present rfl
  rw [if_neg (not_or.mpr ⟨present, some⟩)]
  cases regions address with
  | none => simp
  | some region =>
    simp only [Option.some.injEq, exists_eq_left']
    split
    next closed =>
      apply iff_of_false Bool.false_ne_true
      intro readable
      rcases closed with state | guarded
      · exact state readable.committed
      · exact absurd (guarded.symm.trans readable.unguarded) Bool.noConfusion
    next opened =>
      obtain ⟨committed, unguarded⟩ := not_or.mp opened
      split
      next other =>
        apply iff_of_false Bool.false_ne_true
        intro readable
        rw [(isReadableProtection_iff _).mpr readable.protection] at other
        cases other
      next protection =>
        have protection := (isReadableProtection_iff _).mp (by simpa using protection)
        split
        next wraps =>
          apply iff_of_false Bool.false_ne_true
          intro readable
          exact (not_wraps_iff _ _).mpr readable.bounded wraps
        next stays =>
          have bounded := (not_wraps_iff _ _).mp stays
          rw [within_iff bounded]
          constructor
          · rintro ⟨after, before⟩
            exact ⟨present, not_not.mp committed, by simpa using unguarded, protection, after, before, bounded⟩
          · intro readable
            exact ⟨readable.after, readable.before⟩

/-- The eight slots of the collection that a pointer storage leads to. -/
def storedSlots (memory : Memory) (storage : Address) : List Address :=
  (List.range 8).map fun index => memory.qword (memory.qword storage + UInt64.ofNat (index * 8))

/-- The bridge finds a thread where its guards let it through to an object of the expected dispatch table. -/
theorem findValidatedScriptThread_ne_zero_iff (regions : VirtualQuery) (memory : Memory)
    (bridge : GTARunScriptThreadsBridge) :
    findValidatedScriptThread regions memory bridge ≠ 0 ↔
      BridgeReadable regions bridge.scriptThreadsStorageAddress 8 ∧
      BridgeReadable regions (memory.qword bridge.scriptThreadsStorageAddress) 64 ∧
      ∃ slot ∈ storedSlots memory bridge.scriptThreadsStorageAddress,
        BridgeReadable regions slot 8 ∧ memory.qword slot = bridge.expectedThreadDispatchAddress := by
  have word (address : Address) : isReadableAddress regions address 8 = true ↔ BridgeReadable regions address 8 :=
    isReadableAddress_iff (by decide)
  have array (address : Address) : isReadableAddress regions address (UInt64.ofNat (slotCount * 8)) = true ↔
      BridgeReadable regions address 64 := isReadableAddress_iff (by decide)
  unfold findValidatedScriptThread
  dsimp only
  rw [← word, ← array]
  cases isReadableAddress regions bridge.scriptThreadsStorageAddress 8 with
  | false => simp
  | true =>
    cases isReadableAddress regions (memory.qword bridge.scriptThreadsStorageAddress)
        (UInt64.ofNat (slotCount * 8)) with
    | false => simp
    | true =>
      simp only [Bool.not_true, Bool.false_eq_true, if_false, true_and]
      rw [find?_getD_ne_iff]
      · simp only [Bool.and_eq_true, beq_iff_eq, word]
        rfl
      -- null is no thread, since no block begins there
      · intro candidate accepted
        obtain ⟨region, _, readable⟩ := (word candidate).mp (Bool.and_eq_true_iff.mp accepted).1
        exact readable.present

theorem hasAny_readable {protection : UInt32}
    (listed : protection &&& 0xFF ∈ [Win32.pageReadOnly, Win32.pageReadWrite, Win32.pageWriteCopy,
      Win32.pageExecuteRead, Win32.pageExecuteReadWrite, Win32.pageExecuteWriteCopy]) :
    Win32.hasAny protection (Win32.pageReadOnly ||| Win32.pageReadWrite ||| Win32.pageWriteCopy |||
      Win32.pageExecuteRead ||| Win32.pageExecuteReadWrite ||| Win32.pageExecuteWriteCopy) = true := by
  have mask : [Win32.pageReadOnly, Win32.pageReadWrite, Win32.pageWriteCopy, Win32.pageExecuteRead,
      Win32.pageExecuteReadWrite, Win32.pageExecuteWriteCopy].all (fun base => base &&& 0xEE != 0) = true := by
    decide
  have same : protection &&& 0xFF &&& 0xEE = protection &&& 0xEE := by rw [UInt32.and_assoc]; rfl
  have some := List.all_eq_true.mp mask _ listed
  rwa [same] at some

theorem decodeSlot_of_readable {host : HostProcess} {slot : Address}
    (readable : BridgeReadable host.regions slot 8) (process : host.processId ≠ 0) :
    decodeSlot host host.processId slot = some (host.memory.qword slot) := by
  obtain ⟨region, found, readable⟩ := readable
  have unguarded := readable.unguarded
  rw [Win32.hasAny_or, Bool.or_eq_false_iff] at unguarded
  have observed : (queryRegion host.regions slot).readable = true := by
    simp [queryRegion, readable.present, found, readable.committed, readable.unguarded,
      hasAny_readable readable.protection]
  have copied : ProcessMemoryReader.read host host.processId slot 8 = .ok (host.memory.read slot 8) := by
    rw [ProcessMemoryReader.read, if_neg (by decide), ProcessMemoryReader.readInto,
      if_neg (by simp [process, readable.present]), if_pos rfl]
    exact ProcessMemoryReader.readLocalMemory_of_region found readable.committed unguarded.1 unguarded.2
      (by decide) readable.after readable.before readable.bounded
  rw [decodeSlot, if_neg (by simp [readable.present, observed]), copied]
  rfl

/-- The bridge finds a thread in a validated collection exactly when its guards let it
through to an object: they want the storage, the slots and the object each in one
region, which the validation does not. -/
theorem validated_thread_found_iff {host : HostProcess} {fingerprint : UInt64} {definition : GTATargetDefinition}
    {resolution : GTATargetResolution} (scriptThreads : definition.id = .scriptThreads)
    (resolved : GTATargetResolver.resolve host host.processId fingerprint definition = .ok resolution)
    (validated : resolution.status.state = .validated) (bridge : GTARunScriptThreadsBridge)
    (storage : bridge.scriptThreadsStorageAddress = resolution.address)
    (dispatch : bridge.expectedThreadDispatchAddress = resolution.evidence.objectDominantFirstQwordAddress) :
    findValidatedScriptThread host.regions host.memory bridge ≠ 0 ↔
      BridgeReadable host.regions resolution.address 8 ∧
      BridgeReadable host.regions (host.memory.qword resolution.address) 64 ∧
      ∃ slot ∈ storedSlots host.memory resolution.address, BridgeReadable host.regions slot 8 := by
  obtain ⟨module, found, evidence, passed⟩ := GTATargetResolver.resolve_passed resolved validated
  obtain ⟨kind, shared⟩ := scriptThreads_of_passed scriptThreads passed
  obtain ⟨_, _, expected⟩ := validateScriptThreads_shared shared
  rw [evidence, kind] at passed
  obtain ⟨enough, same⟩ := decoded_of_passed scriptThreads passed
  have some : collectionSlots host host.processId resolution.address ≠ [] := by
    intro none
    simp [none] at enough
  have process : host.processId ≠ 0 := by
    intro zero
    rw [collectionSlots, if_pos (Or.inr zero)] at some
    exact some rfl
  obtain ⟨_, _, slots⟩ := collectionSlots_own some
  rw [slots, ← storedSlots] at same
  rw [findValidatedScriptThread_ne_zero_iff, storage, dispatch, expected]
  refine and_congr_right fun _ => and_congr_right fun _ => exists_congr fun slot => and_congr_right fun member => ?_
  -- what the bridge can read of an object was decoded, so it holds the dispatch table
  exact and_iff_left_of_imp fun readable =>
    same _ (List.mem_filterMap.mpr ⟨slot, member, decodeSlot_of_readable readable process⟩)

/-- The regions of a process: code and data of an image, two pages of private
memory of different protections, objects, and a table of the image. -/
def layout : List MemoryBasicInformation := [
  ⟨0x10000, 0x1000, Win32.memCommit, Win32.pageExecuteRead, Win32.memImage⟩,
  ⟨0x11000, 0x1000, Win32.memCommit, Win32.pageReadWrite, Win32.memImage⟩,
  ⟨0x20000, 0x1000, Win32.memCommit, Win32.pageReadOnly, 0x20000⟩,
  ⟨0x21000, 0x1000, Win32.memCommit, Win32.pageReadWrite, 0x20000⟩,
  ⟨0x2689000, 0x1000, Win32.memCommit, Win32.pageReadOnly, Win32.memImage⟩]

def lower (region : MemoryBasicInformation) : Nat := region.baseAddress.toNat

def upper (region : MemoryBasicInformation) : Nat := region.baseAddress.toNat + region.regionSize.toNat

def mapped : VirtualQuery := fun address =>
  layout.find? fun region => lower region ≤ address.toNat && address.toNat < upper region

theorem consistent_mapped : mapped.Consistent := by
  have decides (address : Address) (region : MemoryBasicInformation) :
      (lower region ≤ address.toNat && address.toNat < upper region) = true ↔
        address.toNat ∈ Set.Ico (lower region) (upper region) := by simp
  have apart : layout.Pairwise (Intervals.Before lower upper) := by
    simp [layout, Intervals.Before, lower, upper]
  have found (address : Address) (region : MemoryBasicInformation) : mapped address = some region ↔
      region ∈ layout ∧ address.toNat ∈ Set.Ico (lower region) (upper region) :=
    Intervals.find?_eq_some_iff (decides address) apart
  intro address region held
  obtain ⟨member, inside⟩ := (found address region).mp held
  exact ⟨inside, fun other after before => (found other region).mpr ⟨member, after, before⟩⟩

/-- A game process. Its pointer storage at 0x11000 leads to eight threads. -/
def gameAt (collection : Address) : HostProcess where
  processId := 1
  lastError := 0
  executablePath := none
  executableName := []
  architecture := .x64
  memory := (((Memory.write (fun _ => 0) 0x10000 [0x48, 0x8B, 0x05, 0xF9, 0x0F, 0x00, 0x00, 0x48, 0x89, 0x34, 0xF8,
      0x48, 0xFF, 0xC7, 0x48, 0x39, 0xFB, 0x75, 0x97]).write 0x11000 (littleEndianBytes 8 collection.toNat)).write
    collection ((List.range 8).flatMap fun index => littleEndianBytes 8 (0x21800 + 8 * index))).write 0x21800
      ((List.range 8).flatMap fun _ => littleEndianBytes 8 0x2689270) |>.write 0x2689270
      ((List.range 8).flatMap fun _ => littleEndianBytes 8 0x10000)
  regions := mapped
  imageModule := 0
  moduleHandle := fun _ => 0x10000
  moduleInformation := fun _ => some (0x10000, 19)
  moduleSnapshot := fun _ => .refused
  openProcess := fun _ => none
  openFile := fun _ => none

def scriptThreadsTarget : GTATargetDefinition := GTABuildTargetRegistry.targets.get ⟨4, by decide⟩

theorem scriptThreads_evidence_sound_game :
    let slots := GTATargetEvidenceProbe.collectionSlots (gameAt 0x20F00) 1 0x11000
    4 ≤ slots.countP (fun slot => (GTATargetEvidenceProbe.decodeSlot (gameAt 0x20F00) 1 slot).isSome) ∧
      ∀ slot ∈ slots, ∀ value, GTATargetEvidenceProbe.decodeSlot (gameAt 0x20F00) 1 slot = some value →
        value = 0x10000 + GTATargetSemanticValidator.scriptThreadsDispatchTableRva := by
  intro slots
  have passed : (GTATargetSemanticValidator.validate scriptThreadsTarget
      (GTATargetEvidenceProbe.probe (gameAt 0x20F00) 1 .pointerStorage 0x11000)
      GTATargetSemanticValidator.supportedFingerprint 0x10000 0x11000).passed = true := by
    decide +kernel
  have sound := (scriptThreads_evidence_sound (gameAt 0x20F00) 1 0x11000).2.2 scriptThreadsTarget
    GTATargetSemanticValidator.supportedFingerprint 0x10000 0x11000 rfl passed
  exact ⟨sound.1, fun slot member value decoded => (sound.2 slot member value decoded).1⟩

def bridgeAt (storage dispatch : Address) : GTARunScriptThreadsBridge where
  scriptThreadsStorageAddress := storage
  expectedThreadDispatchAddress := dispatch

def identity (resolution : GTATargetResolution) : GTARuntimeTargetState × Address × Address :=
  (resolution.status.state, resolution.address, resolution.evidence.objectDominantFirstQwordAddress)

theorem exists_of_identity {result : Result GTATargetResolution} {storage dispatch : Address}
    (observed : result.toOption.map identity = some (.validated, storage, dispatch)) :
    ∃ resolution, result = .ok resolution ∧ resolution.status.state = .validated ∧
      storage = resolution.address ∧ dispatch = resolution.evidence.objectDominantFirstQwordAddress := by
  cases result with
  | error error => cases observed
  | ok resolution =>
    obtain ⟨validated, rest⟩ := Prod.mk.inj (Option.some.inj observed)
    obtain ⟨address, dominant⟩ := Prod.mk.inj rest
    exact ⟨resolution, rfl, validated, address.symm, dominant.symm⟩

theorem whole_collection_found : ∃ resolution,
    GTATargetResolver.resolve (gameAt 0x20F00) 1 supportedFingerprint scriptThreadsTarget = .ok resolution ∧
      resolution.status.state = .validated ∧
      BridgeReadable mapped resolution.address 8 ∧
      BridgeReadable mapped ((gameAt 0x20F00).memory.qword resolution.address) 64 ∧
      ∃ slot ∈ storedSlots (gameAt 0x20F00).memory resolution.address, BridgeReadable mapped slot 8 := by
  have observed : (GTATargetResolver.resolve (gameAt 0x20F00) 1 supportedFingerprint
      scriptThreadsTarget).toOption.map identity = some (.validated, 0x11000, 0x2689270) := by
    decide +kernel
  have found : findValidatedScriptThread mapped (gameAt 0x20F00).memory (bridgeAt 0x11000 0x2689270) ≠ 0 := by
    decide
  obtain ⟨resolution, resolved, validated, storage, dispatch⟩ := exists_of_identity observed
  have target : scriptThreadsTarget.id = .scriptThreads := by rfl
  exact ⟨resolution, resolved, validated,
    (validated_thread_found_iff target resolved validated _ storage dispatch).mp found⟩

theorem split_collection_missed : ∃ resolution,
    GTATargetResolver.resolve (gameAt 0x20FE0) 1 supportedFingerprint scriptThreadsTarget = .ok resolution ∧
      (gameAt 0x20FE0).regions.Consistent ∧ resolution.status.state = .validated ∧
      findValidatedScriptThread (gameAt 0x20FE0).regions (gameAt 0x20FE0).memory
        (bridgeAt resolution.address resolution.evidence.objectDominantFirstQwordAddress) = 0 := by
  have observed : (GTATargetResolver.resolve (gameAt 0x20FE0) 1 supportedFingerprint
      scriptThreadsTarget).toOption.map identity = some (.validated, 0x11000, 0x2689270) := by
    decide +kernel
  obtain ⟨resolution, resolved, validated, storage, dispatch⟩ := exists_of_identity observed
  refine ⟨resolution, resolved, consistent_mapped, validated, ?_⟩
  rw [← storage, ← dispatch]
  decide

end GTARunScriptThreadsBridge

end DevilzDen.Integrations.GTA5Enhanced
