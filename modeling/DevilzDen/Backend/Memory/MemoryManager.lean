import DevilzDen.Backend.Memory.Pointer
import DevilzDen.Foundation.Run
import DevilzDen.Foundation.Table

/-! The accounting of allocations.

Each call is one critical section. The tracking switch is read at its
beginning, and the record's id is drawn with it. Source locations and the
service's own state are left out: no modelled function reads them.
-/

set_option autoImplicit false

namespace DevilzDen.Backend

open Foundation

inductive MemoryTag where
  | unknown
  | core
  | backend
  | logging
  | threading
  | filesystem
  | graphics
  | resources
  | input
  | network
  | configuration
  | scripting
  | frontend
  | temporary
  deriving DecidableEq, Repr

structure MemoryAllocationRecord where
  address : Address := 0
  size : UInt64 := 0
  alignment : UInt64 := 16
  tag : MemoryTag := .unknown
  owner : Text := []
  threadName : Text := []
  allocationId : UInt64 := 0
  deriving DecidableEq, Repr

structure MemoryTagStatistics where
  tag : MemoryTag := .unknown
  allocationCount : UInt64 := 0
  deallocationCount : UInt64 := 0
  bytesInUse : UInt64 := 0
  peakBytesInUse : UInt64 := 0
  totalBytesAllocated : UInt64 := 0
  deriving DecidableEq, Repr

structure MemoryManager where
  trackingEnabled : Bool := true
  nextAllocationId : UInt64 := 0
  activeAllocationCount : UInt64 := 0
  totalAllocationCount : UInt64 := 0
  totalDeallocationCount : UInt64 := 0
  bytesInUse : UInt64 := 0
  peakBytesInUse : UInt64 := 0
  totalBytesAllocated : UInt64 := 0
  allocations : Table Address MemoryAllocationRecord := ∅
  tagStatistics : Table MemoryTag MemoryTagStatistics := ∅

namespace MemoryManager

/-- `m_tagStatistics[tag]`, which a missing entry reads as fresh statistics. -/
def statistics (manager : MemoryManager) (tag : MemoryTag) : MemoryTagStatistics :=
  (manager.tagStatistics.lookup tag).getD {}

def subtract (bytes size : UInt64) : UInt64 := if bytes ≥ size then bytes - size else 0

/-- A record that gives way to another one at its address. -/
def retire (manager : MemoryManager) (existing : MemoryAllocationRecord) : MemoryManager :=
  let oldStats := manager.statistics existing.tag
  { manager with
    bytesInUse := manager.bytesInUse - existing.size
    activeAllocationCount := manager.activeAllocationCount - 1
    tagStatistics := manager.tagStatistics.insert existing.tag
      { oldStats with bytesInUse := subtract oldStats.bytesInUse existing.size } }

def updatePeak (manager : MemoryManager) (current : UInt64) : MemoryManager :=
  if current > manager.peakBytesInUse then { manager with peakBytesInUse := current } else manager

/-- `RegisterAllocation` from the insertion of its record on. -/
def enter (manager : MemoryManager) (record : MemoryAllocationRecord) : MemoryManager :=
  let current := manager.bytesInUse + record.size
  let stats := manager.statistics record.tag
  let bytesInUse := stats.bytesInUse + record.size
  let counted := { manager with
    allocations := manager.allocations.insert record.address record
    activeAllocationCount := manager.activeAllocationCount + 1
    totalAllocationCount := manager.totalAllocationCount + 1
    totalBytesAllocated := manager.totalBytesAllocated + record.size
    bytesInUse := current }
  { counted.updatePeak current with
    tagStatistics := manager.tagStatistics.insert record.tag
      { stats with
        tag := record.tag
        allocationCount := stats.allocationCount + 1
        bytesInUse
        totalBytesAllocated := stats.totalBytesAllocated + record.size
        peakBytesInUse := if stats.peakBytesInUse < bytesInUse then bytesInUse else stats.peakBytesInUse } }

def registerAllocation (manager : MemoryManager) (address : Address) (size : UInt64) (tag : MemoryTag)
    (owner : Text) (alignment : UInt64) (threadName : Text) : MemoryManager :=
  if !manager.trackingEnabled ∨ address = 0 ∨ size = 0 then manager
  else
    let allocationId := manager.nextAllocationId + 1
    let drawn := { manager with nextAllocationId := allocationId }
    let record : MemoryAllocationRecord := { address, size, alignment, tag, owner, threadName, allocationId }
    match manager.allocations.lookup address with
    | some existing => (drawn.retire existing).enter record
    | none => drawn.enter record

def registerDeallocation (manager : MemoryManager) (address : Address) : MemoryManager :=
  if !manager.trackingEnabled ∨ address = 0 then manager
  else match manager.allocations.lookup address with
    | none => manager
    | some record =>
        let stats := manager.statistics record.tag
        { manager with
          allocations := manager.allocations.erase address
          activeAllocationCount := manager.activeAllocationCount - 1
          totalDeallocationCount := manager.totalDeallocationCount + 1
          bytesInUse := manager.bytesInUse - record.size
          tagStatistics := manager.tagStatistics.insert record.tag
            { stats with
              tag := record.tag
              deallocationCount := stats.deallocationCount + 1
              bytesInUse := subtract stats.bytesInUse record.size } }

def resetStatistics (manager : MemoryManager) : MemoryManager :=
  { manager with
    allocations := ∅
    tagStatistics := ∅
    nextAllocationId := 0
    activeAllocationCount := 0
    totalAllocationCount := 0
    totalDeallocationCount := 0
    bytesInUse := 0
    peakBytesInUse := 0
    totalBytesAllocated := 0 }

def setTrackingEnabled (manager : MemoryManager) (enabled : Bool) : MemoryManager :=
  { manager with trackingEnabled := enabled }

def requested (manager : MemoryManager) (address : Address) (size : UInt64) (tag : MemoryTag) (owner : Text)
    (alignment : UInt64) (threadName : Text) : MemoryAllocationRecord :=
  { address, size, alignment, tag, owner, threadName, allocationId := manager.nextAllocationId + 1 }

theorem registerAllocation_tracked {manager : MemoryManager} {address : Address} {size : UInt64}
    (tracked : ¬(!manager.trackingEnabled ∨ address = 0 ∨ size = 0)) (tag : MemoryTag) (owner : Text)
    (alignment : UInt64) (threadName : Text) :
    manager.registerAllocation address size tag owner alignment threadName =
      let drawn := { manager with nextAllocationId := manager.nextAllocationId + 1 }
      let record := manager.requested address size tag owner alignment threadName
      match manager.allocations.lookup address with
      | some existing => (drawn.retire existing).enter record
      | none => drawn.enter record :=
  if_neg tracked

inductive Call where
  | registerAllocation (address : Address) (size : UInt64) (tag : MemoryTag) (owner : Text)
      (alignment : UInt64) (threadName : Text)
  | registerDeallocation (address : Address)
  | resetStatistics
  | setTrackingEnabled (enabled : Bool)
  deriving DecidableEq, Repr

def step (manager : MemoryManager) : Call → MemoryManager
  | .registerAllocation address size tag owner alignment threadName =>
      manager.registerAllocation address size tag owner alignment threadName
  | .registerDeallocation address => manager.registerDeallocation address
  | .resetStatistics => manager.resetStatistics
  | .setTrackingEnabled enabled => manager.setTrackingEnabled enabled

/-! ## What the counters stand for -/

def bytesOf (record : MemoryAllocationRecord) : Nat := record.size.toNat

def bytesUnder (tag : MemoryTag) (record : MemoryAllocationRecord) : Nat :=
  if record.tag = tag then record.size.toNat else 0

/-- The live sizes fit in the 64 bits of their sum. -/
def Fits (manager : MemoryManager) : Prop := manager.allocations.total bytesOf < 2 ^ 64

instance decidableFits (manager : MemoryManager) : Decidable (Fits manager) :=
  inferInstanceAs (Decidable (_ < _))

/-- Counters that stand for a table of records. -/
structure Balances (live : Table Address MemoryAllocationRecord) (bytesInUse activeCount : UInt64)
    (tagBytes : MemoryTag → UInt64) : Prop where
  bytes : bytesInUse.toNat = live.total bytesOf
  count : activeCount.toNat = live.size
  tags : ∀ tag, (tagBytes tag).toNat = live.total (bytesUnder tag)
  positive : ∀ address record, live.lookup address = some record → 0 < record.size.toNat

section Balances

variable {live : Table Address MemoryAllocationRecord} {bytesInUse activeCount : UInt64}
  {tagBytes : MemoryTag → UInt64} {record : MemoryAllocationRecord}

theorem bytesUnder_le (tag : MemoryTag) (record : MemoryAllocationRecord) :
    bytesUnder tag record ≤ bytesOf record := by
  unfold bytesUnder bytesOf
  split
  · exact Nat.le_refl _
  · exact Nat.zero_le _

theorem total_bytesUnder_le (live : Table Address MemoryAllocationRecord) (tag : MemoryTag) :
    live.total (bytesUnder tag) ≤ live.total bytesOf :=
  Table.total_le_total fun _ record _ => bytesUnder_le tag record

theorem size_le_total
    (positive : ∀ address record, live.lookup address = some record → 0 < record.size.toNat) :
    live.size ≤ live.total bytesOf := by
  rw [← Table.total_one]
  exact Table.total_le_total positive

theorem toNat_subtract {bytes size : UInt64} (covers : size.toNat ≤ bytes.toNat) :
    (subtract bytes size).toNat = bytes.toNat - size.toNat := by
  have le : size ≤ bytes := UInt64.le_iff_toNat_le.mpr covers
  rw [subtract, if_pos le, UInt64.toNat_sub_of_le _ _ le]

theorem toNat_pred {count : UInt64} (positive : 0 < count.toNat) : (count - 1).toNat = count.toNat - 1 := by
  have one : 1 ≤ count := UInt64.le_iff_toNat_le.mpr (by simp; omega)
  exact UInt64.toNat_sub_of_le _ _ one

theorem Balances.size_le_bytes (balances : Balances live bytesInUse activeCount tagBytes) {address : Address}
    (found : live.lookup address = some record) : record.size.toNat ≤ bytesInUse.toNat := by
  rw [balances.bytes, ← Table.total_erase_add found bytesOf]
  exact Nat.le_add_left _ _

/-- The subtraction of a live record never stops at zero. -/
theorem Balances.size_le_tagBytes (balances : Balances live bytesInUse activeCount tagBytes) {address : Address}
    (found : live.lookup address = some record) : record.size.toNat ≤ (tagBytes record.tag).toNat := by
  rw [balances.tags, ← Table.total_erase_add found (bytesUnder record.tag), bytesUnder, if_pos rfl]
  exact Nat.le_add_left _ _

theorem Balances.erase (balances : Balances live bytesInUse activeCount tagBytes) {address : Address}
    (found : live.lookup address = some record) :
    Balances (live.erase address) (bytesInUse - record.size) (activeCount - 1)
      (Function.update tagBytes record.tag (subtract (tagBytes record.tag) record.size)) where
  bytes := by
    have covers := UInt64.le_iff_toNat_le.mpr (balances.size_le_bytes found)
    have rest := Table.total_erase_add found bytesOf
    rw [UInt64.toNat_sub_of_le _ _ covers, balances.bytes, ← rest]
    exact Nat.add_sub_cancel _ _
  count := by
    have rest := Table.size_erase_add_one found
    rw [← balances.count] at rest
    rw [toNat_pred (by omega)]
    omega
  tags tag := by
    have rest := Table.total_erase_add found (bytesUnder tag)
    rw [← balances.tags tag] at rest
    by_cases same : tag = record.tag
    · subst same
      rw [bytesUnder, if_pos rfl] at rest
      rw [Function.update_self, toNat_subtract (balances.size_le_tagBytes found), ← rest]
      exact Nat.add_sub_cancel _ _
    · rw [bytesUnder, if_neg (Ne.symm same)] at rest
      rw [Function.update_of_ne same, ← rest, Nat.add_zero]
  positive other kept lookup := by
    rw [Table.lookup_erase_eq] at lookup
    split at lookup
    · cases lookup
    · exact balances.positive other kept lookup

theorem Balances.insert (balances : Balances live bytesInUse activeCount tagBytes)
    (absent : live.lookup record.address = none) (positive : 0 < record.size.toNat)
    (fits : Table.total bytesOf (live.insert record.address record) < 2 ^ 64) :
    Balances (live.insert record.address record) (bytesInUse + record.size) (activeCount + 1)
      (Function.update tagBytes record.tag (tagBytes record.tag + record.size)) := by
  have allPositive (address : Address) (other : MemoryAllocationRecord)
      (lookup : AList.lookup address (live.insert record.address record) = some other) :
      0 < other.size.toNat := by
    rw [Table.lookup_insert_eq] at lookup
    split at lookup
    · cases lookup
      exact positive
    · exact balances.positive address other lookup
  constructor
  · have sum := Table.total_insert_of_absent absent bytesOf record
    rw [← balances.bytes] at sum
    rw [UInt64.toNat_add, sum, Nat.add_comm (bytesOf record), bytesOf, Nat.mod_eq_of_lt]
    rw [sum, bytesOf] at fits
    omega
  · have counted : Table.size (live.insert record.address record) = live.size + 1 :=
      Table.size_insert_of_absent absent record
    have small := Nat.lt_of_le_of_lt (size_le_total allPositive) fits
    rw [← balances.count] at counted
    rw [UInt64.toNat_add, counted]
    exact Nat.mod_eq_of_lt (by simp; omega)
  · intro tag
    have sum := Table.total_insert_of_absent absent (bytesUnder tag) record
    have small := Nat.lt_of_le_of_lt (total_bytesUnder_le _ tag) fits
    rw [← balances.tags] at sum
    by_cases same : tag = record.tag
    · subst same
      rw [bytesUnder, if_pos rfl] at sum
      rw [Function.update_self, UInt64.toNat_add, sum, Nat.mod_eq_of_lt (by omega), Nat.add_comm]
    · rw [bytesUnder, if_neg (Ne.symm same), Nat.zero_add] at sum
      rw [Function.update_of_ne same, sum]
  · exact allPositive

end Balances

/-! ## What a call does to the counters -/

def tagBytes (manager : MemoryManager) (tag : MemoryTag) : UInt64 := (manager.statistics tag).bytesInUse

def tagPeak (manager : MemoryManager) (tag : MemoryTag) : UInt64 := (manager.statistics tag).peakBytesInUse

/-- Every counter of live memory stands for the records, and no level is above its peak. -/
structure Balanced (manager : MemoryManager) : Prop where
  balances : Balances manager.allocations manager.bytesInUse manager.activeAllocationCount manager.tagBytes
  below : manager.bytesInUse.toNat ≤ manager.peakBytesInUse.toNat
  tagsBelow : ∀ tag, (manager.tagBytes tag).toNat ≤ (manager.tagPeak tag).toNat

/-- Each peak has been raised to the level of its counter, where that is higher. -/
structure Raised (manager next : MemoryManager) : Prop where
  peak : next.peakBytesInUse.toNat = max manager.peakBytesInUse.toNat next.bytesInUse.toNat
  tagPeaks : ∀ tag, (next.tagPeak tag).toNat = max (manager.tagPeak tag).toNat (next.tagBytes tag).toNat

theorem statistics_insert {manager next : MemoryManager} {tag : MemoryTag} {stats : MemoryTagStatistics}
    (tagStatistics : next.tagStatistics = manager.tagStatistics.insert tag stats) (other : MemoryTag) :
    next.statistics other = if other = tag then stats else manager.statistics other := by
  rw [statistics, tagStatistics, Table.lookup_insert_eq]
  split
  · rfl
  · rfl

theorem field_insert {α : Type} {manager next : MemoryManager} {tag : MemoryTag} {stats : MemoryTagStatistics}
    (field : MemoryTagStatistics → α) (tagStatistics : next.tagStatistics = manager.tagStatistics.insert tag stats) :
    (fun other => field (next.statistics other)) =
      Function.update (fun other => field (manager.statistics other)) tag (field stats) := by
  funext other
  rw [statistics_insert tagStatistics, Function.update_apply]
  split
  · rfl
  · rfl

theorem tagBytes_insert {manager next : MemoryManager} {tag : MemoryTag} {stats : MemoryTagStatistics}
    (tagStatistics : next.tagStatistics = manager.tagStatistics.insert tag stats) :
    next.tagBytes = Function.update manager.tagBytes tag stats.bytesInUse :=
  field_insert (·.bytesInUse) tagStatistics

theorem tagPeak_insert {manager next : MemoryManager} {tag : MemoryTag} {stats : MemoryTagStatistics}
    (tagStatistics : next.tagStatistics = manager.tagStatistics.insert tag stats) :
    next.tagPeak = Function.update manager.tagPeak tag stats.peakBytesInUse :=
  field_insert (·.peakBytesInUse) tagStatistics

theorem toNat_raise (peak level : UInt64) :
    (if peak < level then level else peak).toNat = max peak.toNat level.toNat := by
  split
  next above => exact (max_eq_right (Nat.le_of_lt (UInt64.lt_iff_toNat_lt.mp above))).symm
  next not_above => exact (max_eq_left (Nat.not_lt.mp (mt UInt64.lt_iff_toNat_lt.mpr not_above))).symm

theorem Raised.of_le {manager next : MemoryManager} (balanced : Balanced manager)
    (peak : next.peakBytesInUse = manager.peakBytesInUse) (tagPeak : next.tagPeak = manager.tagPeak)
    (bytes : next.bytesInUse.toNat ≤ manager.bytesInUse.toNat)
    (tagBytes : ∀ tag, (next.tagBytes tag).toNat ≤ (manager.tagBytes tag).toNat) : Raised manager next where
  peak := by rw [peak, max_eq_left (bytes.trans balanced.below)]
  tagPeaks tag := by rw [tagPeak, max_eq_left ((tagBytes tag).trans (balanced.tagsBelow tag))]

theorem Raised.tagsBelow {manager next : MemoryManager} (raised : Raised manager next) (tag : MemoryTag) :
    (next.tagBytes tag).toNat ≤ (next.tagPeak tag).toNat := by
  rw [raised.tagPeaks]
  exact le_max_right _ _

theorem Raised.balanced {manager next : MemoryManager} (raised : Raised manager next)
    (balances : Balances next.allocations next.bytesInUse next.activeAllocationCount next.tagBytes) :
    Balanced next where
  balances := balances
  below := by rw [raised.peak]; exact le_max_right _ _
  tagsBelow := raised.tagsBelow

theorem Balanced.remove {manager next : MemoryManager} (balanced : Balanced manager) {address : Address}
    {record : MemoryAllocationRecord} (found : manager.allocations.lookup address = some record)
    {stats : MemoryTagStatistics} (tagStatistics : next.tagStatistics = manager.tagStatistics.insert record.tag stats)
    (statsBytes : stats.bytesInUse = subtract (manager.tagBytes record.tag) record.size)
    (statsPeak : stats.peakBytesInUse = manager.tagPeak record.tag)
    (bytes : next.bytesInUse = manager.bytesInUse - record.size)
    (count : next.activeAllocationCount = manager.activeAllocationCount - 1)
    (peak : next.peakBytesInUse = manager.peakBytesInUse) :
    Balances (manager.allocations.erase address) next.bytesInUse next.activeAllocationCount next.tagBytes ∧
      Raised manager next := by
  have tagBytes : next.tagBytes = _ := tagBytes_insert tagStatistics
  have tagPeak : next.tagPeak = manager.tagPeak := by
    rw [tagPeak_insert tagStatistics, statsPeak, Function.update_eq_self]
  have erased := balanced.balances.erase found
  rw [← statsBytes, ← tagBytes, ← bytes, ← count] at erased
  refine ⟨erased, .of_le balanced peak tagPeak ?_ fun tag => ?_⟩
  · rw [erased.bytes, balanced.balances.bytes, ← Table.total_erase_add found bytesOf]
    exact Nat.le_add_right _ _
  · rw [erased.tags, balanced.balances.tags, ← Table.total_erase_add found (bytesUnder tag)]
    exact Nat.le_add_right _ _

theorem Balanced.free {manager next : MemoryManager} (balanced : Balanced manager) {address : Address}
    {record : MemoryAllocationRecord} (found : manager.allocations.lookup address = some record)
    (allocations : next.allocations = manager.allocations.erase address) {stats : MemoryTagStatistics}
    (tagStatistics : next.tagStatistics = manager.tagStatistics.insert record.tag stats)
    (statsBytes : stats.bytesInUse = subtract (manager.tagBytes record.tag) record.size)
    (statsPeak : stats.peakBytesInUse = manager.tagPeak record.tag)
    (bytes : next.bytesInUse = manager.bytesInUse - record.size)
    (count : next.activeAllocationCount = manager.activeAllocationCount - 1)
    (peak : next.peakBytesInUse = manager.peakBytesInUse) : Balanced next ∧ Raised manager next := by
  obtain ⟨left, lowered⟩ := balanced.remove found tagStatistics statsBytes statsPeak bytes count peak
  rw [← allocations] at left
  exact ⟨lowered.balanced left, lowered⟩

theorem enter_eq (manager : MemoryManager) (record : MemoryAllocationRecord) :
    (manager.enter record).allocations = manager.allocations.insert record.address record ∧
      (manager.enter record).bytesInUse = manager.bytesInUse + record.size ∧
      (manager.enter record).activeAllocationCount = manager.activeAllocationCount + 1 ∧
      (manager.enter record).peakBytesInUse =
        if manager.peakBytesInUse < manager.bytesInUse + record.size then manager.bytesInUse + record.size
        else manager.peakBytesInUse := by
  unfold enter updatePeak
  dsimp only
  split
  · exact ⟨rfl, rfl, rfl, rfl⟩
  · exact ⟨rfl, rfl, rfl, rfl⟩

theorem enter_tags (manager : MemoryManager) (record : MemoryAllocationRecord) :
    (manager.enter record).tagBytes =
        Function.update manager.tagBytes record.tag (manager.tagBytes record.tag + record.size) ∧
      (manager.enter record).tagPeak = Function.update manager.tagPeak record.tag
        (if manager.tagPeak record.tag < manager.tagBytes record.tag + record.size then
          manager.tagBytes record.tag + record.size else manager.tagPeak record.tag) := by
  obtain ⟨stats, tagStatistics, bytes, peak⟩ : ∃ stats : MemoryTagStatistics,
      (manager.enter record).tagStatistics = manager.tagStatistics.insert record.tag stats ∧
        stats.bytesInUse = manager.tagBytes record.tag + record.size ∧
        stats.peakBytesInUse = if manager.tagPeak record.tag < manager.tagBytes record.tag + record.size then
          manager.tagBytes record.tag + record.size else manager.tagPeak record.tag := ⟨_, rfl, rfl, rfl⟩
  rw [tagBytes_insert tagStatistics, tagPeak_insert tagStatistics, bytes, peak]
  exact ⟨rfl, rfl⟩

theorem enter_raised {manager : MemoryManager} {live : Table Address MemoryAllocationRecord}
    {record : MemoryAllocationRecord}
    (balances : Balances live manager.bytesInUse manager.activeAllocationCount manager.tagBytes)
    (tagsBelow : ∀ tag, (manager.tagBytes tag).toNat ≤ (manager.tagPeak tag).toNat)
    (absent : live.lookup record.address = none) (positive : 0 < record.size.toNat)
    (same : live.insert record.address record = manager.allocations.insert record.address record)
    (fits : Fits (manager.enter record)) :
    Balanced (manager.enter record) ∧ Raised manager (manager.enter record) := by
  obtain ⟨allocations, bytes, count, peak⟩ := enter_eq manager record
  obtain ⟨tagBytes, tagPeak⟩ := enter_tags manager record
  have raised : Raised manager (manager.enter record) := by
    refine ⟨by rw [peak, bytes, toNat_raise], fun tag => ?_⟩
    rw [tagBytes, tagPeak]
    by_cases other : tag = record.tag
    · rw [other, Function.update_self, Function.update_self, toNat_raise]
    · rw [Function.update_of_ne other, Function.update_of_ne other, max_eq_left (tagsBelow tag)]
  refine ⟨raised.balanced ?_, raised⟩
  rw [Fits, allocations, ← same] at fits
  have entered := balances.insert absent positive fits
  rwa [allocations, ← same, bytes, count, tagBytes]

theorem retire_tagPeak (manager : MemoryManager) (existing : MemoryAllocationRecord) :
    (manager.retire existing).tagPeak = manager.tagPeak := by
  have inserted : (manager.retire existing).tagStatistics = manager.tagStatistics.insert existing.tag _ := rfl
  rw [tagPeak_insert inserted]
  exact Function.update_eq_self _ _

theorem Balanced.takeOver {manager : MemoryManager} (balanced : Balanced manager)
    {existing record : MemoryAllocationRecord} (positive : 0 < record.size.toNat)
    (found : manager.allocations.lookup record.address = some existing)
    (fits : Fits ((manager.retire existing).enter record)) :
    Balanced ((manager.retire existing).enter record) ∧
      Raised manager ((manager.retire existing).enter record) := by
  have inserted : (manager.retire existing).tagStatistics = manager.tagStatistics.insert existing.tag _ := rfl
  -- the old record leaves the counters before the new one enters them
  obtain ⟨left, lowered⟩ := balanced.remove found inserted rfl rfl rfl rfl rfl
  obtain ⟨entered, raised⟩ := enter_raised left lowered.tagsBelow (AList.lookup_erase _ _) positive
    (Table.insert_erase _ _ _) fits
  refine ⟨entered, raised.peak, fun tag => ?_⟩
  rw [raised.tagPeaks, retire_tagPeak]

theorem Balanced.registerAllocation {manager : MemoryManager} (balanced : Balanced manager) {address : Address}
    {size : UInt64} {tag : MemoryTag} {owner : Text} {alignment : UInt64} {threadName : Text}
    (fits : Fits (manager.registerAllocation address size tag owner alignment threadName)) :
    Balanced (manager.registerAllocation address size tag owner alignment threadName) ∧
      Raised manager (manager.registerAllocation address size tag owner alignment threadName) := by
  revert fits
  unfold MemoryManager.registerAllocation
  split
  · exact fun _ => ⟨balanced, .of_le balanced rfl rfl (Nat.le_refl _) fun _ => Nat.le_refl _⟩
  next request =>
    have positive : 0 < size.toNat :=
      Nat.pos_of_ne_zero fun zero => request (Or.inr (Or.inr (UInt64.toNat_inj.mp zero)))
    have drawn : Balanced { manager with nextAllocationId := manager.nextAllocationId + 1 } :=
      ⟨balanced.balances, balanced.below, balanced.tagsBelow⟩
    dsimp only
    split
    next existing found =>
      intro fits
      obtain ⟨entered, raised⟩ := drawn.takeOver positive found fits
      exact ⟨entered, raised.peak, raised.tagPeaks⟩
    next absent =>
      intro fits
      obtain ⟨entered, raised⟩ := enter_raised drawn.balances drawn.tagsBelow absent positive rfl fits
      exact ⟨entered, raised.peak, raised.tagPeaks⟩

theorem Balanced.registerDeallocation {manager : MemoryManager} (balanced : Balanced manager)
    (address : Address) : Balanced (manager.registerDeallocation address) ∧
      Raised manager (manager.registerDeallocation address) := by
  have idle : Balanced manager ∧ Raised manager manager :=
    ⟨balanced, .of_le balanced rfl rfl (Nat.le_refl _) fun _ => Nat.le_refl _⟩
  unfold MemoryManager.registerDeallocation
  split
  · exact idle
  · split
    · exact idle
    next record found =>
      exact balanced.free found rfl rfl rfl rfl rfl rfl rfl

theorem reset_balanced (manager : MemoryManager) : Balanced manager.resetStatistics where
  balances := ⟨rfl, rfl, fun _ => rfl, nofun⟩
  below := Nat.le_refl _
  tagsBelow _ := Nat.le_refl _

/-! ## Any sequence of calls -/

/-- Every call keeps the balance, and every call but a reset raises the peaks. -/
theorem Balanced.step {manager : MemoryManager} (balanced : Balanced manager) {call : Call}
    (fits : Fits (step manager call)) :
    Balanced (MemoryManager.step manager call) ∧
      (call ≠ .resetStatistics → Raised manager (MemoryManager.step manager call)) := by
  cases call with
  | registerAllocation =>
    obtain ⟨next, raised⟩ := balanced.registerAllocation fits
    exact ⟨next, fun _ => raised⟩
  | registerDeallocation address =>
    obtain ⟨next, raised⟩ := balanced.registerDeallocation address
    exact ⟨next, fun _ => raised⟩
  | resetStatistics => exact ⟨reset_balanced manager, fun other => absurd rfl other⟩
  | setTrackingEnabled enabled =>
    exact ⟨⟨balanced.balances, balanced.below, balanced.tagsBelow⟩,
      fun _ => .of_le balanced rfl rfl (Nat.le_refl _) fun _ => Nat.le_refl _⟩

theorem run_balanced {calls : List Call} (fits : Always step Fits {} calls) : Balanced (run step {} calls) := by
  have preserved (manager : MemoryManager) (call : Call) (balanced : Balanced manager)
      (fits : Fits (step manager call)) : Balanced (step manager call) := (balanced.step fits).1
  exact Always.invariant preserved (reset_balanced {}) fits

structure Accounts (calls : List Call) (manager : MemoryManager) : Prop where
  bytesInUse : manager.bytesInUse.toNat = manager.allocations.total bytesOf
  activeAllocationCount : manager.activeAllocationCount.toNat = manager.allocations.size
  tagBytesInUse : ∀ tag, (manager.statistics tag).bytesInUse.toNat = manager.allocations.total (bytesUnder tag)
  unsaturated : ∀ address record, manager.allocations.lookup address = some record →
    (manager.statistics record.tag).bytesInUse ≥ record.size
  peakBytesInUse : IsGreatest
    { bytes | ∃ done, Since (· = .resetStatistics) calls done ∧ bytes = (run step {} done).bytesInUse.toNat }
    manager.peakBytesInUse.toNat
  tagPeakBytesInUse : ∀ tag, IsGreatest
    { bytes | ∃ done, Since (· = .resetStatistics) calls done ∧
      bytes = ((run step {} done).statistics tag).bytesInUse.toNat }
    (manager.statistics tag).peakBytesInUse.toNat

/-- The counters stand for the recorded allocations, after any calls. -/
theorem run_accounts (calls : List Call) (fits : Always step Fits {} calls) :
    Accounts calls (run step {} calls) := by
  have balanced := run_balanced fits
  have reset (earlier : List Call) (call : Call) (isReset : call = .resetStatistics) :
      step (run step {} earlier) call = (run step {} earlier).resetStatistics := by rw [isReset, step]
  have raised (earlier : List Call) (call : Call) (rest : List Call) (split : calls = earlier ++ call :: rest)
      (other : ¬call = .resetStatistics) : Raised (run step {} earlier) (step (run step {} earlier) call) := by
    have before : Always step Fits {} earlier := (split ▸ fits).of_append
    have after := fits (earlier ++ [call]) rest (by rw [split, List.append_cons])
    rw [run_append] at after
    exact ((run_balanced before).step after).2 other
  constructor
  · exact balanced.balances.bytes
  · exact balanced.balances.count
  · exact balanced.balances.tags
  · intro address record found
    exact UInt64.le_iff_toNat_le.mpr (balanced.balances.size_le_tagBytes found)
  · refine isGreatest_since (fun manager : MemoryManager => manager.bytesInUse.toNat)
      (fun manager => manager.peakBytesInUse.toNat) (· = Call.resetStatistics) rfl ?_ ?_
    · intro earlier call rest _ isReset
      rw [reset earlier call isReset]
      rfl
    · intro earlier call rest split other
      exact (raised earlier call rest split other).peak
  · intro tag
    refine isGreatest_since (fun manager : MemoryManager => (manager.statistics tag).bytesInUse.toNat)
      (fun manager => (manager.statistics tag).peakBytesInUse.toNat) (· = Call.resetStatistics) rfl ?_ ?_
    · intro earlier call rest _ isReset
      rw [reset earlier call isReset]
      rfl
    · intro earlier call rest split other
      exact (raised earlier call rest split other).tagPeaks tag

def registeredTwice : List Call :=
  [.registerAllocation 0x1000 64 .core [] 16 [], .registerAllocation 0x1000 32 .graphics [] 16 [],
    .registerDeallocation 0x1000, .registerDeallocation 0x2000]

theorem registered_twice_accounts : Accounts registeredTwice (run step {} registeredTwice) :=
  run_accounts registeredTwice (by decide)

end MemoryManager

end DevilzDen.Backend
