import DevilzDen.Backend.Memory.MemoryManager

/-! How many allocations the manager has counted.

A registration at the address of a recorded allocation takes the place of its
record. The counters of live memory give the old record back, but no counter of
deallocations counts it, so each of these registrations puts the counts one
apart until the next reset.
-/

set_option autoImplicit false

namespace DevilzDen.Backend.MemoryManager

open Foundation

def recordsUnder (tag : MemoryTag) (record : MemoryAllocationRecord) : Nat := if record.tag = tag then 1 else 0

structure CountsBalance (manager : MemoryManager) : Prop where
  total : manager.totalAllocationCount.toNat =
    manager.totalDeallocationCount.toNat + manager.activeAllocationCount.toNat
  tags : ∀ tag, (manager.statistics tag).allocationCount.toNat =
    (manager.statistics tag).deallocationCount.toNat + manager.allocations.total (recordsUnder tag)

def replaced (manager : MemoryManager) : Call → Option MemoryAllocationRecord
  | .registerAllocation address size _ _ _ _ =>
      if !manager.trackingEnabled ∨ address = 0 ∨ size = 0 then none else manager.allocations.lookup address
  | _ => none

def Call.isRegistration (call : Call) : Bool := call matches .registerAllocation ..

/-- A manager with the number of registrations it was asked for, and the records
that have been replaced since its last reset. -/
structure History where
  manager : MemoryManager := {}
  registrations : Nat := 0
  gone : List MemoryAllocationRecord := []

def History.step (history : History) (call : Call) : History where
  manager := MemoryManager.step history.manager call
  registrations := history.registrations + call.isRegistration.toNat
  gone := if call = .resetStatistics then [] else history.gone ++ (replaced history.manager call).toList

/-- The counts of a manager against a table of live records and the replaced ones. -/
structure Counts (live : Table Address MemoryAllocationRecord) (gone : List MemoryAllocationRecord)
    (registrations : Nat) (manager : MemoryManager) : Prop where
  active : manager.activeAllocationCount.toNat = live.size
  total : manager.totalAllocationCount.toNat =
    manager.totalDeallocationCount.toNat + live.size + gone.length
  tags : ∀ tag, (manager.statistics tag).allocationCount.toNat =
    (manager.statistics tag).deallocationCount.toNat + live.total (recordsUnder tag) +
      (gone.map (recordsUnder tag)).sum
  bounded : manager.totalAllocationCount.toNat ≤ registrations
  tagsBounded : ∀ tag, (manager.statistics tag).allocationCount.toNat ≤ registrations

section Counts

variable {live : Table Address MemoryAllocationRecord} {gone : List MemoryAllocationRecord} {registrations : Nat}
  {manager : MemoryManager} {record : MemoryAllocationRecord} {address : Address}

theorem toNat_succ {count : UInt64} {bound : Nat} (below : count.toNat ≤ bound) (few : bound + 1 < 2 ^ 64) :
    (count + 1).toNat = count.toNat + 1 := by
  rw [UInt64.toNat_add]
  exact Nat.mod_eq_of_lt (by simp; omega)

theorem Counts.leave {next : MemoryManager} {goneNext : List MemoryAllocationRecord}
    (counts : Counts live gone registrations manager) (found : live.lookup address = some record)
    (active : next.activeAllocationCount = manager.activeAllocationCount - 1)
    (total : next.totalAllocationCount = manager.totalAllocationCount)
    (allocations : ∀ tag, (next.statistics tag).allocationCount = (manager.statistics tag).allocationCount)
    (counted : next.totalDeallocationCount.toNat + goneNext.length =
      manager.totalDeallocationCount.toNat + gone.length + 1)
    (tagsCounted : ∀ tag, (next.statistics tag).deallocationCount.toNat + (goneNext.map (recordsUnder tag)).sum =
      (manager.statistics tag).deallocationCount.toNat + (gone.map (recordsUnder tag)).sum +
        recordsUnder tag record) :
    Counts (live.erase address) goneNext registrations next := by
  have size := Table.size_erase_add_one found
  constructor
  · have before := counts.active
    rw [active, toNat_pred (by omega)]
    omega
  · have before := counts.total
    rw [total]
    omega
  · intro tag
    have before := counts.tags tag
    have rest := Table.total_erase_add found (recordsUnder tag)
    have more := tagsCounted tag
    rw [allocations]
    omega
  · rw [total]
    exact counts.bounded
  · intro tag
    rw [allocations]
    exact counts.tagsBounded tag

theorem Counts.retire (counts : Counts live gone registrations manager)
    (found : live.lookup address = some record) :
    Counts (live.erase address) (gone ++ [record]) registrations (manager.retire record) := by
  have inserted : (manager.retire record).tagStatistics = manager.tagStatistics.insert record.tag _ := rfl
  -- neither of a tag's counts is touched
  have kept (tag : MemoryTag) :
      ((manager.retire record).statistics tag).allocationCount = (manager.statistics tag).allocationCount ∧
        ((manager.retire record).statistics tag).deallocationCount =
          (manager.statistics tag).deallocationCount := by
    rw [statistics_insert inserted]
    split
    next same => rw [same]; exact ⟨rfl, rfl⟩
    · exact ⟨rfl, rfl⟩
  apply counts.leave found
  · rfl
  · rfl
  · exact fun tag => (kept tag).1
  · rw [List.length_append, List.length_singleton]
    rfl
  · intro tag
    rw [(kept tag).2, List.map_append, List.sum_append, List.map_singleton, List.sum_singleton, Nat.add_assoc]

theorem Counts.enter (counts : Counts live gone registrations manager) (few : registrations + 1 < 2 ^ 64)
    (absent : live.lookup record.address = none) :
    Counts (live.insert record.address record) gone (registrations + 1) (manager.enter record) := by
  have size := Table.size_insert_of_absent absent record
  have totals : (manager.enter record).activeAllocationCount = manager.activeAllocationCount + 1 ∧
      (manager.enter record).totalAllocationCount = manager.totalAllocationCount + 1 ∧
      (manager.enter record).totalDeallocationCount = manager.totalDeallocationCount := by
    unfold MemoryManager.enter updatePeak
    dsimp only
    split
    · exact ⟨rfl, rfl, rfl⟩
    · exact ⟨rfl, rfl, rfl⟩
  have inserted : (manager.enter record).tagStatistics = manager.tagStatistics.insert record.tag _ := rfl
  have deallocations (tag : MemoryTag) : ((manager.enter record).statistics tag).deallocationCount =
      (manager.statistics tag).deallocationCount := by
    rw [statistics_insert inserted]
    split
    next same => rw [same]
    · rfl
  have allocations (tag : MemoryTag) : ((manager.enter record).statistics tag).allocationCount.toNat =
      (manager.statistics tag).allocationCount.toNat + recordsUnder tag record := by
    rw [statistics_insert inserted, recordsUnder]
    by_cases same : tag = record.tag
    · rw [if_pos same, if_pos same.symm, same]
      exact toNat_succ (counts.tagsBounded record.tag) few
    · rw [if_neg same, if_neg (Ne.symm same), Nat.add_zero]
  have before := counts.total
  have bounded := counts.bounded
  constructor
  · have below : manager.activeAllocationCount.toNat ≤ registrations := by
      have active := counts.active
      omega
    rw [totals.1, size, ← counts.active]
    exact toNat_succ below few
  · rw [totals.2.1, totals.2.2, size, toNat_succ bounded few]
    omega
  · intro tag
    have tagged := counts.tags tag
    have sum := Table.total_insert_of_absent absent (recordsUnder tag) record
    rw [allocations, deallocations, sum]
    omega
  · rw [totals.2.1, toNat_succ bounded few]
    omega
  · intro tag
    have below := counts.tagsBounded tag
    have one : recordsUnder tag record ≤ 1 := by
      unfold recordsUnder
      split <;> omega
    rw [allocations]
    omega

theorem Counts.registerAllocation (counts : Counts manager.allocations gone registrations manager)
    (few : registrations + 1 < 2 ^ 64) (size : UInt64) (tag : MemoryTag) (owner : Text) (alignment : UInt64)
    (threadName : Text) :
    Counts (manager.registerAllocation address size tag owner alignment threadName).allocations
      (gone ++ (replaced manager (.registerAllocation address size tag owner alignment threadName)).toList)
      (registrations + 1) (manager.registerAllocation address size tag owner alignment threadName) := by
  have drawn : Counts manager.allocations gone registrations
      { manager with nextAllocationId := manager.nextAllocationId + 1 } :=
    ⟨counts.active, counts.total, counts.tags, counts.bounded, counts.tagsBounded⟩
  by_cases ignored : !manager.trackingEnabled ∨ address = 0 ∨ size = 0
  · rw [MemoryManager.registerAllocation, if_pos ignored, replaced, if_pos ignored, Option.toList_none,
      List.append_nil]
    exact ⟨counts.active, counts.total, counts.tags, Nat.le_succ_of_le counts.bounded,
      fun tag => Nat.le_succ_of_le (counts.tagsBounded tag)⟩
  · rw [registerAllocation_tracked ignored, replaced, if_neg ignored]
    cases found : manager.allocations.lookup address with
    | none =>
      dsimp only
      rw [Option.toList_none, List.append_nil, (enter_eq _ _).1]
      exact drawn.enter few found
    | some existing =>
      have retired := drawn.retire found
      dsimp only
      rw [Option.toList_some, (enter_eq _ _).1, ← Table.insert_erase]
      exact retired.enter few (AList.lookup_erase _ _)

theorem Counts.free {next : MemoryManager} (counts : Counts live gone registrations manager)
    (found : live.lookup address = some record) {stats : MemoryTagStatistics}
    (tagStatistics : next.tagStatistics = manager.tagStatistics.insert record.tag stats)
    (allocations : stats.allocationCount = (manager.statistics record.tag).allocationCount)
    (deallocations : stats.deallocationCount = (manager.statistics record.tag).deallocationCount + 1)
    (active : next.activeAllocationCount = manager.activeAllocationCount - 1)
    (total : next.totalAllocationCount = manager.totalAllocationCount)
    (deallocated : next.totalDeallocationCount = manager.totalDeallocationCount + 1) :
    Counts (live.erase address) gone registrations next := by
  have totalBefore := counts.total
  have size := Table.size_erase_add_one found
  -- a count that is behind another one has room for one more
  have room (count above : UInt64) (behind : count.toNat < above.toNat) : (count + 1).toNat = count.toNat + 1 :=
    toNat_succ (Nat.le_refl _) (Nat.lt_of_le_of_lt behind above.toNat_lt)
  apply counts.leave found active total
  · intro tag
    rw [statistics_insert tagStatistics]
    split
    next same => rw [same, allocations]
    · rfl
  · rw [deallocated, room _ manager.totalAllocationCount (by omega)]
    omega
  · intro tag
    have before := counts.tags tag
    have rest := Table.total_erase_add found (recordsUnder tag)
    rw [statistics_insert tagStatistics]
    rw [recordsUnder] at rest ⊢
    split
    next same =>
      rw [if_pos same.symm] at rest ⊢
      rw [deallocations, ← same, room _ (manager.statistics tag).allocationCount (by omega)]
      omega
    next other => rw [if_neg (Ne.symm other), Nat.add_zero]

theorem Counts.registerDeallocation (counts : Counts manager.allocations gone registrations manager)
    (address : Address) :
    Counts (manager.registerDeallocation address).allocations gone registrations
      (manager.registerDeallocation address) := by
  unfold MemoryManager.registerDeallocation
  split
  · exact counts
  · cases found : manager.allocations.lookup address with
    | none => exact counts
    | some record => exact counts.free found rfl rfl rfl rfl rfl rfl

end Counts

theorem reset_counts (manager : MemoryManager) (registrations : Nat) :
    Counts ∅ [] registrations manager.resetStatistics :=
  ⟨rfl, rfl, fun _ => rfl, Nat.zero_le _, fun _ => Nat.zero_le _⟩

/-! ## Any sequence of calls -/

/-- The counts of a history that has not used up the 64 bits of its counters. -/
def History.Counted (history : History) : Prop :=
  history.registrations < 2 ^ 64 →
    Counts history.manager.allocations history.gone history.registrations history.manager

theorem History.Counted.step {history : History} (counted : history.Counted) (call : Call) :
    (history.step call).Counted := by
  intro few
  have before : history.registrations < 2 ^ 64 := Nat.lt_of_le_of_lt (Nat.le_add_right _ _) few
  have counts := counted before
  cases call with
  | registerAllocation address size tag owner alignment threadName =>
    exact counts.registerAllocation few size tag owner alignment threadName
  | registerDeallocation address =>
    have kept : (history.step (.registerDeallocation address)).gone = history.gone := List.append_nil _
    rw [kept]
    exact counts.registerDeallocation address
  | resetStatistics => exact reset_counts _ _
  | setTrackingEnabled enabled =>
    have kept : (history.step (.setTrackingEnabled enabled)).gone = history.gone := List.append_nil _
    rw [kept]
    exact ⟨counts.active, counts.total, counts.tags, counts.bounded, counts.tagsBounded⟩

def historyOf (calls : List Call) : History := run History.step {} calls

theorem historyOf_append (calls : List Call) (call : Call) :
    historyOf (calls ++ [call]) = (historyOf calls).step call := run_append _ _ _ _

theorem historyOf_manager (calls : List Call) : (historyOf calls).manager = run step {} calls := by
  induction calls using List.reverseRecOn with
  | nil => rfl
  | append_singleton earlier call ih =>
    rw [historyOf_append, run_append, ← ih]
    rfl

theorem historyOf_registrations (calls : List Call) :
    (historyOf calls).registrations = calls.countP Call.isRegistration := by
  induction calls using List.reverseRecOn with
  | nil => rfl
  | append_singleton earlier call ih =>
    rw [historyOf_append, List.countP_append, List.countP_singleton, ← ih]
    cases h : call.isRegistration <;> simp [History.step, h]

theorem historyOf_counts {calls : List Call} (few : calls.countP Call.isRegistration < 2 ^ 64) :
    Counts (run step {} calls).allocations (historyOf calls).gone (calls.countP Call.isRegistration)
      (run step {} calls) := by
  have start : History.Counted {} := fun _ => reset_counts {} 0
  have counted : (historyOf calls).Counted :=
    run_invariant (fun _ call counted => counted.step call) start calls
  rw [← historyOf_registrations] at few ⊢
  rw [← historyOf_manager]
  exact counted few

/-- No registration since the last reset has taken the place of a recorded allocation. -/
def NothingReplaced (calls : List Call) : Prop :=
  ∀ earlier call, Since (· = .resetStatistics) calls (earlier ++ [call]) →
    replaced (run step {} earlier) call = none

theorem nothingReplaced_iff (calls : List Call) : NothingReplaced calls ↔ (historyOf calls).gone = [] := by
  induction calls using List.reverseRecOn with
  | nil =>
    refine ⟨fun _ => rfl, fun _ earlier call since => ?_⟩
    obtain ⟨rest, split, _⟩ := since
    simp at split
  | append_singleton earlier call ih =>
    have since_iff (before : List Call) (other : Call) :
        Since (· = .resetStatistics) (earlier ++ [call]) (before ++ [other]) ↔
          (before = earlier ∧ other = call) ∨
            call ≠ .resetStatistics ∧ Since (· = .resetStatistics) earlier (before ++ [other]) := by
      rw [since_append_singleton, List.append_singleton_inj]
    have gone : (historyOf (earlier ++ [call])).gone = if call = .resetStatistics then []
        else (historyOf earlier).gone ++ (replaced (run step {} earlier) call).toList := by
      rw [historyOf_append, ← historyOf_manager]
      rfl
    rw [gone]
    split
    next reset =>
      refine ⟨fun _ => rfl, fun _ before other since => ?_⟩
      rcases (since_iff before other).mp since with ⟨rfl, rfl⟩ | ⟨kept, _⟩
      · rw [reset]
        rfl
      · exact absurd reset kept
    next kept =>
      rw [List.append_eq_nil_iff, ← ih, Option.toList_eq_nil_iff]
      constructor
      · intro nothing
        exact ⟨fun before other since => nothing before other ((since_iff before other).mpr (Or.inr ⟨kept, since⟩)),
          nothing earlier call ((since_iff earlier call).mpr (Or.inl ⟨rfl, rfl⟩))⟩
      · intro ⟨nothing, last⟩ before other since
        rcases (since_iff before other).mp since with ⟨rfl, rfl⟩ | ⟨_, since⟩
        · exact last
        · exact nothing before other since

/-- The counts balance exactly when no registration since the last reset has
taken the place of a recorded allocation. -/
theorem counts_balance_iff (calls : List Call) (few : calls.countP Call.isRegistration < 2 ^ 64) :
    CountsBalance (run step {} calls) ↔ NothingReplaced calls := by
  have counts := historyOf_counts few
  have total := counts.total
  rw [← counts.active] at total
  rw [nothingReplaced_iff]
  constructor
  · intro balance
    apply List.eq_nil_of_length_eq_zero
    have := balance.total
    omega
  · intro none
    rw [none] at total
    refine ⟨total, fun tag => ?_⟩
    have tags := counts.tags tag
    rwa [none] at tags

def registeredApart : List Call :=
  [.registerAllocation 0x1000 64 .core [] 16 [], .registerAllocation 0x2000 32 .graphics [] 16 [],
    .registerDeallocation 0x1000]

theorem registered_apart_balance : CountsBalance (run step {} registeredApart) ↔ NothingReplaced registeredApart :=
  counts_balance_iff registeredApart (by decide)

/-- The old record of a live address is registered away, under another tag. -/
theorem registered_twice_unbalanced :
    registeredTwice.countP Call.isRegistration < 2 ^ 64 ∧ ¬CountsBalance (run step {} registeredTwice) := by
  refine ⟨by decide, fun balance => ?_⟩
  exact absurd balance.total (by decide)

end DevilzDen.Backend.MemoryManager
