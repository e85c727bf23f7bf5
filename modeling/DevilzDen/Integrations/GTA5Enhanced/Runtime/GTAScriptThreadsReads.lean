import DevilzDen.Foundation.Reading
import DevilzDen.Integrations.GTA5Enhanced.Runtime.GTAScriptThreadsAgreement

/-! The bytes that the hook reads in its search for a thread, and the thread it finds.

The search is a program over single bytes here. Every block that it reads has
passed a guard, whatever the bytes before it were.
-/

set_option autoImplicit false

namespace DevilzDen.Integrations.GTA5Enhanced.GTARunScriptThreadsBridge

open Backend Foundation

namespace Reads

def qword (address : Address) : Reading Address UInt8 UInt64 :=
  (Reading.block ((List.range 8).map fun index => address + UInt64.ofNat index)).map fun bytes =>
    UInt64.ofNat (littleEndian bytes)

/-- The loop over the slots from an index on. -/
def searchSlots (regions : VirtualQuery) (expected slotsAddress : Address) :
    (remaining index : Nat) → Reading Address UInt8 Address
  | 0, _ => .done 0
  | remaining + 1, index =>
      (qword (slotsAddress + UInt64.ofNat (index * 8))).bind fun candidate =>
        if !isReadableAddress regions candidate 8 then searchSlots regions expected slotsAddress remaining (index + 1)
        else
          (qword candidate).bind fun dispatch =>
            if dispatch = expected then .done candidate
            else searchSlots regions expected slotsAddress remaining (index + 1)

def findValidatedScriptThread (regions : VirtualQuery) (bridge : GTARunScriptThreadsBridge) :
    Reading Address UInt8 Address :=
  if !isReadableAddress regions bridge.scriptThreadsStorageAddress 8 then .done 0
  else
    (qword bridge.scriptThreadsStorageAddress).bind fun slotsAddress =>
      if !isReadableAddress regions slotsAddress (UInt64.ofNat (slotCount * 8)) then .done 0
      else searchSlots regions bridge.expectedThreadDispatchAddress slotsAddress slotCount 0

section Values

variable {regions : VirtualQuery} {memory : Memory}

theorem value_qword (address : Address) : Reading.value memory (qword address) = memory.qword address := by
  rw [qword, Reading.value_map, Reading.value_block, List.map_map]
  rfl

theorem value_searchSlots (expected slotsAddress : Address) (remaining index : Nat) :
    Reading.value memory (searchSlots regions expected slotsAddress remaining index) =
      (((List.range' index remaining).map fun i => memory.qword (slotsAddress + UInt64.ofNat (i * 8))).find?
        fun candidate => isReadableAddress regions candidate 8 && memory.qword candidate == expected).getD 0 := by
  induction remaining generalizing index with
  | zero => rfl
  | succ remaining ih =>
    rw [searchSlots, Reading.value_bind, value_qword, List.range'_succ, List.map_cons, List.find?_cons]
    generalize memory.qword (slotsAddress + UInt64.ofNat (index * 8)) = candidate
    cases isReadableAddress regions candidate 8 with
    | false => exact ih (index + 1)
    | true =>
      rw [Bool.not_true, if_neg Bool.false_ne_true, Reading.value_bind, value_qword, Bool.true_and]
      by_cases same : memory.qword candidate = expected
      · rw [if_pos same, beq_iff_eq.mpr same]
        rfl
      · rw [if_neg same, beq_eq_false_iff_ne.mpr same]
        exact ih (index + 1)

theorem value_findValidatedScriptThread (bridge : GTARunScriptThreadsBridge) :
    Reading.value memory (findValidatedScriptThread regions bridge) =
      GTARunScriptThreadsBridge.findValidatedScriptThread regions memory bridge := by
  unfold findValidatedScriptThread GTARunScriptThreadsBridge.findValidatedScriptThread
  split
  · rfl
  · rw [Reading.value_bind, value_qword]
    dsimp only
    split
    · rfl
    · rw [value_searchSlots, List.range_eq_range']

end Values

/-- A byte of a region that is committed, not guarded, and of a readable protection. -/
def ReadableByte (regions : VirtualQuery) (address : Address) : Prop :=
  ∃ region, regions address = some region ∧ region.state = Win32.memCommit ∧
    Win32.hasAny region.protect (Win32.pageGuard ||| Win32.pageNoAccess) = false ∧
    region.protect &&& 0xFF ∈ [Win32.pageReadOnly, Win32.pageReadWrite, Win32.pageWriteCopy,
      Win32.pageExecuteRead, Win32.pageExecuteReadWrite, Win32.pageExecuteWriteCopy]

section Footprint

variable {regions : VirtualQuery}

/-- In a consistent map a guard at the start of a block speaks for each of its bytes. -/
theorem readableByte_of_block (consistent : regions.Consistent) {address : Address} {bytes index : Nat}
    (readable : BridgeReadable regions address bytes) (inside : index < bytes) :
    ReadableByte regions (address + UInt64.ofNat index) := by
  obtain ⟨region, found, readable⟩ := readable
  have after := readable.after
  have before := readable.before
  have bounded := readable.bounded
  have offset : (address + UInt64.ofNat index).toNat = address.toNat + index := toNat_add_ofNat (by omega)
  have same := (consistent address region found).2 (address + UInt64.ofNat index) (by omega) (by omega)
  exact ⟨region, same, readable.committed, readable.unguarded, readable.protection⟩

theorem all_qword (consistent : regions.Consistent) {address : Address} {bytes skipped : Nat}
    (readable : BridgeReadable regions address bytes) (inside : skipped + 8 ≤ bytes) :
    (qword (address + UInt64.ofNat skipped)).All (ReadableByte regions) := by
  refine Program.all_bind (Reading.all_block fun cell member => ?_) fun _ => trivial
  obtain ⟨index, below, rfl⟩ := List.mem_map.mp member
  rw [List.mem_range] at below
  rw [UInt64.add_assoc, ← UInt64.ofNat_add]
  exact readableByte_of_block consistent readable (by omega)

theorem all_candidate (consistent : regions.Consistent) {candidate : Address}
    (guarded : isReadableAddress regions candidate 8 = true) : (qword candidate).All (ReadableByte regions) := by
  have readable : BridgeReadable regions candidate 8 := (isReadableAddress_iff (by decide)).mp guarded
  have whole : (qword (candidate + UInt64.ofNat 0)).All (ReadableByte regions) :=
    all_qword consistent readable (by omega)
  have start : candidate + UInt64.ofNat 0 = candidate := UInt64.add_zero candidate
  rwa [start] at whole

theorem all_searchSlots (consistent : regions.Consistent) (expected : Address) {slotsAddress : Address}
    (readable : BridgeReadable regions slotsAddress 64) {remaining index : Nat} (inside : index + remaining ≤ 8) :
    (searchSlots regions expected slotsAddress remaining index).All (ReadableByte regions) := by
  induction remaining generalizing index with
  | zero => trivial
  | succ remaining ih =>
    have later : (searchSlots regions expected slotsAddress remaining (index + 1)).All (ReadableByte regions) :=
      ih (by omega)
    apply Program.all_bind (all_qword consistent readable (by omega))
    intro candidate
    cases guard : isReadableAddress regions candidate 8 with
    | false => exact later
    | true =>
      apply Program.all_bind (all_candidate consistent guard)
      intro dispatch
      split
      · trivial
      · exact later

theorem all_findValidatedScriptThread (consistent : regions.Consistent) (bridge : GTARunScriptThreadsBridge) :
    (findValidatedScriptThread regions bridge).All (ReadableByte regions) := by
  unfold findValidatedScriptThread
  cases guard : isReadableAddress regions bridge.scriptThreadsStorageAddress 8 with
  | false => trivial
  | true =>
    apply Program.all_bind (all_candidate consistent guard)
    intro slotsAddress
    cases array : isReadableAddress regions slotsAddress (UInt64.ofNat (slotCount * 8)) with
    | false => trivial
    | true =>
      have readable : BridgeReadable regions slotsAddress 64 := (isReadableAddress_iff (by decide)).mp array
      exact all_searchSlots consistent _ readable (by decide)

end Footprint

end Reads

/-- The pointer in a slot of the collection that a pointer storage leads to. -/
def storedSlot (memory : Memory) (storage : Address) (index : Nat) : Address :=
  memory.qword (memory.qword storage + UInt64.ofNat (index * 8))

/-- A pointer to a readable object of the expected dispatch table. -/
def Qualifies (regions : VirtualQuery) (memory : Memory) (expected candidate : Address) : Prop :=
  BridgeReadable regions candidate 8 ∧ memory.qword candidate = expected

section Search

variable (regions : VirtualQuery) (memory : Memory) (bridge : GTARunScriptThreadsBridge)

theorem findValidatedScriptThread_eq_zero_iff :
    findValidatedScriptThread regions memory bridge = 0 ↔
      ¬BridgeReadable regions bridge.scriptThreadsStorageAddress 8 ∨
      ¬BridgeReadable regions (memory.qword bridge.scriptThreadsStorageAddress) 64 ∨
      ∀ index < 8, ¬Qualifies regions memory bridge.expectedThreadDispatchAddress
        (storedSlot memory bridge.scriptThreadsStorageAddress index) := by
  rw [← not_iff_not, ← ne_eq, findValidatedScriptThread_ne_zero_iff]
  simp only [not_or, not_not, not_forall, exists_prop]
  refine and_congr_right fun _ => and_congr_right fun _ => ?_
  constructor
  · intro found
    obtain ⟨slot, member, readable, dispatch⟩ := found
    obtain ⟨index, below, rfl⟩ := List.mem_map.mp member
    exact ⟨index, List.mem_range.mp below, readable, dispatch⟩
  · intro found
    obtain ⟨index, below, readable, dispatch⟩ := found
    exact ⟨_, List.mem_map.mpr ⟨index, List.mem_range.mpr below, rfl⟩, readable, dispatch⟩

theorem qualifies_iff {expected candidate : Address} :
    (isReadableAddress regions candidate 8 && memory.qword candidate == expected) = true ↔
      Qualifies regions memory expected candidate := by
  have word : isReadableAddress regions candidate 8 = true ↔ BridgeReadable regions candidate 8 :=
    isReadableAddress_iff (by decide)
  rw [Bool.and_eq_true, beq_iff_eq, word, Qualifies]

theorem findValidatedScriptThread_first (found : findValidatedScriptThread regions memory bridge ≠ 0) :
    ∃ index < 8,
      findValidatedScriptThread regions memory bridge =
        storedSlot memory bridge.scriptThreadsStorageAddress index ∧
      Qualifies regions memory bridge.expectedThreadDispatchAddress
        (storedSlot memory bridge.scriptThreadsStorageAddress index) ∧
      ∀ earlier < index, ¬Qualifies regions memory bridge.expectedThreadDispatchAddress
        (storedSlot memory bridge.scriptThreadsStorageAddress earlier) := by
  unfold findValidatedScriptThread at found ⊢
  split at found
  · exact absurd rfl found
  next storage =>
    rw [if_neg storage]
    dsimp only at found ⊢
    split at found
    · exact absurd rfl found
    next array =>
      rw [if_neg array]
      cases search : ((List.range slotCount).map fun i =>
          memory.qword (memory.qword bridge.scriptThreadsStorageAddress + UInt64.ofNat (i * 8))).find?
            fun candidate => isReadableAddress regions candidate 8 &&
              memory.qword candidate == bridge.expectedThreadDispatchAddress with
      | none =>
        rw [search] at found
        exact absurd rfl found
      | some candidate =>
        obtain ⟨index, below, rfl, accepted, before⟩ := find?_map_range_eq_some search
        refine ⟨index, below, rfl, (qualifies_iff regions memory).mp accepted, fun earlier lower qualified => ?_⟩
        have accepted := (qualifies_iff regions memory).mpr qualified
        rw [storedSlot, before earlier lower] at accepted
        cases accepted

end Search

/-- Where the regions are a consistent map, the search reads readable bytes only. It gives
the pointer in the first slot that qualifies, and null where the storage or the array of
slots is not readable in one region or no slot qualifies. -/
theorem thread_search_safe {regions : VirtualQuery} (consistent : regions.Consistent) (memory : Memory)
    (bridge : GTARunScriptThreadsBridge) :
    Reading.value memory (Reads.findValidatedScriptThread regions bridge) =
      findValidatedScriptThread regions memory bridge ∧
    (∀ address ∈ Reading.footprint memory (Reads.findValidatedScriptThread regions bridge),
      Reads.ReadableByte regions address) ∧
    (findValidatedScriptThread regions memory bridge ≠ 0 → ∃ index < 8,
      findValidatedScriptThread regions memory bridge =
        storedSlot memory bridge.scriptThreadsStorageAddress index ∧
      Qualifies regions memory bridge.expectedThreadDispatchAddress
        (storedSlot memory bridge.scriptThreadsStorageAddress index) ∧
      ∀ earlier < index, ¬Qualifies regions memory bridge.expectedThreadDispatchAddress
        (storedSlot memory bridge.scriptThreadsStorageAddress earlier)) ∧
    (findValidatedScriptThread regions memory bridge = 0 ↔
      ¬BridgeReadable regions bridge.scriptThreadsStorageAddress 8 ∨
      ¬BridgeReadable regions (memory.qword bridge.scriptThreadsStorageAddress) 64 ∨
      ∀ index < 8, ¬Qualifies regions memory bridge.expectedThreadDispatchAddress
        (storedSlot memory bridge.scriptThreadsStorageAddress index)) :=
  ⟨Reads.value_findValidatedScriptThread bridge,
    Reading.forall_footprint (Reads.all_findValidatedScriptThread consistent bridge),
    findValidatedScriptThread_first regions memory bridge,
    findValidatedScriptThread_eq_zero_iff regions memory bridge⟩

theorem thread_search_safe_mapped :
    Reading.value (gameAt 0x20F00).memory
        (Reads.findValidatedScriptThread mapped (bridgeAt 0x11000 0x2689270)) =
      findValidatedScriptThread mapped (gameAt 0x20F00).memory (bridgeAt 0x11000 0x2689270) ∧
    ∀ address ∈ Reading.footprint (gameAt 0x20F00).memory
        (Reads.findValidatedScriptThread mapped (bridgeAt 0x11000 0x2689270)),
      Reads.ReadableByte mapped address := by
  obtain ⟨value, safe, _⟩ :=
    thread_search_safe consistent_mapped (gameAt 0x20F00).memory (bridgeAt 0x11000 0x2689270)
  exact ⟨value, safe⟩

end DevilzDen.Integrations.GTA5Enhanced.GTARunScriptThreadsBridge
