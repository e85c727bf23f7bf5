import DevilzDen.Backend.Memory.MemoryManager

/-! `Snapshot` against the calls of other threads.

The call reads six counters one by one and then copies the two tables in one
critical section. Other calls are one critical section each, so an interleaving
is told by the calls that run right before each of the seven steps. The tables
are unordered; the order of each copy is a parameter.
-/

set_option autoImplicit false

namespace DevilzDen.Backend

open Foundation

structure MemorySnapshot where
  activeAllocationCount : UInt64 := 0
  totalAllocationCount : UInt64 := 0
  totalDeallocationCount : UInt64 := 0
  bytesInUse : UInt64 := 0
  peakBytesInUse : UInt64 := 0
  totalBytesAllocated : UInt64 := 0
  tags : List MemoryTagStatistics := []
  activeAllocations : List MemoryAllocationRecord := []
  deriving DecidableEq, Repr

namespace MemoryManager

/-- The next step of a call of `Snapshot`. -/
inductive SnapshotPoint where
  | loadActiveAllocationCount
  | loadTotalAllocationCount
  | loadTotalDeallocationCount
  | loadBytesInUse
  | loadPeakBytesInUse
  | loadTotalBytesAllocated
  | copyTables
  deriving DecidableEq, Repr

def snapshotPoints : List SnapshotPoint :=
  [.loadActiveAllocationCount, .loadTotalAllocationCount, .loadTotalDeallocationCount, .loadBytesInUse,
    .loadPeakBytesInUse, .loadTotalBytesAllocated, .copyTables]

/-! ## What the tables add up to -/

/-- The live sizes fit in 64 bits, and the tags share out the bytes in use. -/
structure AddsUp (manager : MemoryManager) : Prop where
  fits : Fits manager
  tags : manager.tagStatistics.total (fun stats => stats.bytesInUse.toNat) = manager.bytesInUse.toNat

/-- Counters that stand for a table of records, whatever the sizes: they wrap, and
a wrap that is taken back leaves no trace. -/
structure Wraps (live : Table Address MemoryAllocationRecord) (bytesInUse activeCount : UInt64) : Prop where
  bytes : bytesInUse = UInt64.ofNat (live.total bytesOf)
  count : activeCount = UInt64.ofNat live.size
  positive : ∀ address record, live.lookup address = some record → 0 < record.size.toNat

section Wraps

variable {live : Table Address MemoryAllocationRecord} {bytesInUse activeCount : UInt64} {address : Address}
  {record : MemoryAllocationRecord} {manager : MemoryManager}

theorem Wraps.bytes_eq (wraps : Wraps live bytesInUse activeCount) (fits : live.total bytesOf < 2 ^ 64) :
    bytesInUse.toNat = live.total bytesOf := by
  rw [wraps.bytes]
  exact UInt64.toNat_ofNat_of_lt' fits

theorem Wraps.count_eq (wraps : Wraps live bytesInUse activeCount) (fits : live.size < 2 ^ 64) :
    activeCount.toNat = live.size := by
  rw [wraps.count]
  exact UInt64.toNat_ofNat_of_lt' fits

theorem Wraps.erase (wraps : Wraps live bytesInUse activeCount) (found : live.lookup address = some record) :
    Wraps (live.erase address) (bytesInUse - record.size) (activeCount - 1) := by
  constructor
  · rw [wraps.bytes, ← Table.total_erase_add found bytesOf, UInt64.ofNat_add, bytesOf, UInt64.ofNat_toNat]
    exact UInt64.add_sub_cancel _ _
  · rw [wraps.count, ← Table.size_erase_add_one found, UInt64.ofNat_add]
    exact UInt64.add_sub_cancel _ _
  · intro other kept lookup
    rw [Table.lookup_erase_eq] at lookup
    split at lookup
    · cases lookup
    · exact wraps.positive other kept lookup

theorem Wraps.insert (wraps : Wraps live bytesInUse activeCount) (absent : live.lookup record.address = none)
    (positive : 0 < record.size.toNat) :
    Wraps (live.insert record.address record) (bytesInUse + record.size) (activeCount + 1) := by
  constructor
  · rw [wraps.bytes, Table.total_insert_of_absent absent, UInt64.ofNat_add, bytesOf, UInt64.ofNat_toNat]
    exact UInt64.add_comm _ _
  · rw [wraps.count, Table.size_insert_of_absent absent, UInt64.ofNat_add]
    rfl
  · intro other kept lookup
    rw [Table.lookup_insert_eq] at lookup
    split at lookup
    · cases lookup
      exact positive
    · exact wraps.positive other kept lookup

def Wrapped (manager : MemoryManager) : Prop :=
  Wraps manager.allocations manager.bytesInUse manager.activeAllocationCount

theorem Wrapped.registerAllocation (wrapped : Wrapped manager) (size : UInt64) (tag : MemoryTag) (owner : Text)
    (alignment : UInt64) (threadName : Text) :
    Wrapped (manager.registerAllocation address size tag owner alignment threadName) := by
  by_cases ignored : !manager.trackingEnabled ∨ address = 0 ∨ size = 0
  · rw [MemoryManager.registerAllocation, if_pos ignored]
    exact wrapped
  · have positive : 0 < size.toNat :=
      Nat.pos_of_ne_zero fun zero => ignored (Or.inr (Or.inr (UInt64.toNat_inj.mp zero)))
    rw [registerAllocation_tracked ignored]
    cases found : manager.allocations.lookup address with
    | none =>
      obtain ⟨allocations, bytes, count, _⟩ :=
        enter_eq { manager with nextAllocationId := manager.nextAllocationId + 1 }
          (manager.requested address size tag owner alignment threadName)
      dsimp only
      rw [Wrapped, allocations, bytes, count]
      exact wrapped.insert found positive
    | some existing =>
      obtain ⟨allocations, bytes, count, _⟩ :=
        enter_eq (retire { manager with nextAllocationId := manager.nextAllocationId + 1 } existing)
          (manager.requested address size tag owner alignment threadName)
      dsimp only
      rw [Wrapped, allocations, bytes, count, ← Table.insert_erase]
      exact (wrapped.erase found).insert (AList.lookup_erase _ _) positive

theorem reset_wrapped (manager : MemoryManager) : Wrapped manager.resetStatistics := by
  refine ⟨rfl, rfl, fun _ _ found => ?_⟩
  cases found

theorem Wrapped.step (wrapped : Wrapped manager) (call : Call) : Wrapped (MemoryManager.step manager call) := by
  cases call with
  | registerAllocation _ size tag owner alignment threadName =>
    exact wrapped.registerAllocation size tag owner alignment threadName
  | registerDeallocation address =>
    rw [MemoryManager.step, registerDeallocation]
    by_cases ignored : !manager.trackingEnabled ∨ address = 0
    · rw [if_pos ignored]
      exact wrapped
    · rw [if_neg ignored]
      cases found : manager.allocations.lookup address with
      | none => exact wrapped
      | some record => exact wrapped.erase found
  | resetStatistics => exact reset_wrapped manager
  | setTrackingEnabled enabled => exact wrapped

theorem run_wrapped (calls : List Call) : Wrapped (run step {} calls) := by
  have preserved (manager : MemoryManager) (call : Call) (wrapped : Wrapped manager) :
      Wrapped (step manager call) := wrapped.step call
  exact run_invariant preserved (reset_wrapped {}) calls

end Wraps

theorem Balanced.sum_tags {manager : MemoryManager} (balanced : Balanced manager) :
    manager.tagStatistics.total (fun stats => stats.bytesInUse.toNat) = manager.bytesInUse.toNat := by
  have covered : ∀ record ∈ manager.allocations.values, record.tag ∈ manager.tagStatistics.keys := by
    intro record member
    obtain ⟨address, found⟩ := Table.mem_values_iff.mp member
    by_contra absent
    -- a tag without statistics has no bytes, but the record has some
    have missing : manager.tagStatistics.lookup record.tag = none := AList.lookup_eq_none.mpr absent
    have below := balanced.balances.size_le_tagBytes found
    have positive := balanced.balances.positive address record found
    rw [tagBytes, statistics, missing] at below
    exact absurd (Nat.lt_of_lt_of_le positive below) (Nat.lt_irrefl 0)
  have each (tag : MemoryTag) :
      ((manager.tagStatistics.lookup tag).elim 0 fun stats => stats.bytesInUse.toNat) =
        manager.allocations.total (bytesUnder tag) := by
    rw [← balanced.balances.tags tag, tagBytes, statistics]
    cases manager.tagStatistics.lookup tag <;> rfl
  rw [Table.total_eq_sum_keys, balanced.balances.bytes,
    ← Table.total_classified manager.tagStatistics.keys_nodup covered bytesOf]
  exact congrArg List.sum (List.map_congr_left fun tag _ => each tag)

theorem Balanced.addsUp {manager : MemoryManager} (balanced : Balanced manager) : AddsUp manager where
  fits := by
    rw [Fits, ← balanced.balances.bytes]
    exact UInt64.toNat_lt _
  tags := balanced.sum_tags

section Snapshot

variable (tags : Iteration MemoryTag MemoryTagStatistics) (records : Iteration Address MemoryAllocationRecord)

def snapshotStep (includeActiveAllocations : Bool) (manager : MemoryManager) (snapshot : MemorySnapshot) :
    SnapshotPoint → MemorySnapshot
  | .loadActiveAllocationCount => { snapshot with activeAllocationCount := manager.activeAllocationCount }
  | .loadTotalAllocationCount => { snapshot with totalAllocationCount := manager.totalAllocationCount }
  | .loadTotalDeallocationCount => { snapshot with totalDeallocationCount := manager.totalDeallocationCount }
  | .loadBytesInUse => { snapshot with bytesInUse := manager.bytesInUse }
  | .loadPeakBytesInUse => { snapshot with peakBytesInUse := manager.peakBytesInUse }
  | .loadTotalBytesAllocated => { snapshot with totalBytesAllocated := manager.totalBytesAllocated }
  | .copyTables =>
      { snapshot with
        tags := tags.values manager.tagStatistics
        activeAllocations := if includeActiveAllocations then records.values manager.allocations else [] }

/-- The calls of other threads right before each step of the snapshot. -/
abbrev Interleaving := SnapshotPoint → List Call

def snapshot (includeActiveAllocations : Bool) (interleaving : Interleaving) (manager : MemoryManager) :
    MemoryManager × MemorySnapshot :=
  snapshotPoints.foldl
    (fun (manager, snapshot) point =>
      let manager := run step manager (interleaving point)
      (manager, snapshotStep tags records includeActiveAllocations manager snapshot point))
    (manager, {})

def Interleaving.before (interleaving : Interleaving) (point : SnapshotPoint) : List Call :=
  (snapshotPoints.takeWhile (· ≠ point)).flatMap interleaving ++ interleaving point

def Interleaving.reached (interleaving : Interleaving) (point : SnapshotPoint) : MemoryManager :=
  run step {} (interleaving.before point)

/-- The parts of a snapshot describe one state. -/
structure Consistent (snapshot : MemorySnapshot) : Prop where
  count : snapshot.activeAllocationCount.toNat = snapshot.activeAllocations.length
  bytes : snapshot.bytesInUse.toNat = (snapshot.activeAllocations.map bytesOf).sum
  tags : (snapshot.tags.map fun stats => stats.bytesInUse.toNat).sum = snapshot.bytesInUse.toNat

variable {tags records}

theorem snapshot_eq (interleaving : Interleaving) :
    (snapshot tags records true interleaving {}).2 =
      { activeAllocationCount := (interleaving.reached .loadActiveAllocationCount).activeAllocationCount
        totalAllocationCount := (interleaving.reached .loadTotalAllocationCount).totalAllocationCount
        totalDeallocationCount := (interleaving.reached .loadTotalDeallocationCount).totalDeallocationCount
        bytesInUse := (interleaving.reached .loadBytesInUse).bytesInUse
        peakBytesInUse := (interleaving.reached .loadPeakBytesInUse).peakBytesInUse
        totalBytesAllocated := (interleaving.reached .loadTotalBytesAllocated).totalBytesAllocated
        tags := tags.values (interleaving.reached .copyTables).tagStatistics
        activeAllocations := records.values (interleaving.reached .copyTables).allocations } := by
  simp [snapshot, snapshotPoints, snapshotStep, Interleaving.reached, Interleaving.before, run_append]

/-- A snapshot is consistent exactly when the active count and the bytes in use
are, as the tables are copied, what they were as they were loaded, and the tables
add up to them there. They do unless the live sizes ever outgrew 64 bits. -/
theorem snapshot_consistent_iff (tags : Iteration MemoryTag MemoryTagStatistics)
    (records : Iteration Address MemoryAllocationRecord) (interleaving : Interleaving) :
    (Consistent (snapshot tags records true interleaving {}).2 ↔
      (interleaving.reached .loadActiveAllocationCount).activeAllocationCount =
          (interleaving.reached .copyTables).activeAllocationCount ∧
        (interleaving.reached .loadBytesInUse).bytesInUse = (interleaving.reached .copyTables).bytesInUse ∧
        AddsUp (interleaving.reached .copyTables)) ∧
      (Always step Fits {} (interleaving.before .copyTables) → AddsUp (interleaving.reached .copyTables)) := by
  have wrapped : Wrapped (interleaving.reached .copyTables) := run_wrapped _
  have shown : (records.values (interleaving.reached .copyTables).allocations).length =
      (interleaving.reached .copyTables).allocations.size := by
    rw [← Table.length_values]
    exact (records.enumerates_values _).length_eq
  have total : ((records.values (interleaving.reached .copyTables).allocations).map bytesOf).sum =
      (interleaving.reached .copyTables).allocations.total bytesOf :=
    (records.enumerates_values _).sum_map bytesOf
  have tagTotal : ((tags.values (interleaving.reached .copyTables).tagStatistics).map
      fun stats => stats.bytesInUse.toNat).sum =
        (interleaving.reached .copyTables).tagStatistics.total fun stats => stats.bytesInUse.toNat :=
    (tags.enumerates_values _).sum_map _
  rw [snapshot_eq]
  refine ⟨⟨fun consistent => ?_, fun ⟨sameCount, sameBytes, addsUp⟩ => ?_⟩,
    fun fits => (run_balanced fits).addsUp⟩
  · have count := consistent.count.trans shown
    have bytes := consistent.bytes.trans total
    -- a sum that is equal to some counter fits in 64 bits
    have countFits : (interleaving.reached .copyTables).allocations.size < 2 ^ 64 := by
      rw [← count]
      exact UInt64.toNat_lt _
    have bytesFits : Fits (interleaving.reached .copyTables) := by
      rw [Fits, ← bytes]
      exact UInt64.toNat_lt _
    have sameBytes := UInt64.toNat_inj.mp (bytes.trans (wrapped.bytes_eq bytesFits).symm)
    refine ⟨UInt64.toNat_inj.mp (count.trans (wrapped.count_eq countFits).symm), sameBytes, bytesFits, ?_⟩
    rw [← tagTotal, ← sameBytes]
    exact consistent.tags
  · have countFits := Nat.lt_of_le_of_lt (size_le_total wrapped.positive) addsUp.fits
    constructor
    · rw [shown, sameCount, wrapped.count_eq countFits]
    · rw [total, sameBytes, wrapped.bytes_eq addsUp.fits]
    · rw [tagTotal, sameBytes, addsUp.tags]

end Snapshot

/-- An allocation is registered between the loads and the copies. -/
def overtakenInterleaving : Interleaving
  | .copyTables => [.registerAllocation 0x1000 64 .core [] 16 []]
  | _ => []

theorem overtaken_snapshot_inconsistent :
    Always step Fits {} (overtakenInterleaving.before .copyTables) ∧
      ¬Consistent (snapshot Iteration.listed Iteration.listed true overtakenInterleaving {}).2 := by
  refine ⟨by decide, fun consistent => ?_⟩
  exact absurd consistent.count (by decide)

end MemoryManager

end DevilzDen.Backend
