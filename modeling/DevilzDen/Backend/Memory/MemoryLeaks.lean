import DevilzDen.Backend.Memory.MemoryManager

/-! What `FindLeaks` reports of the objects that `MakeUnique` makes.

The factory registers its object, but the pointer it returns is a plain
`std::unique_ptr`: it frees the memory without a word to the manager. The record
of a destroyed object stays until another registration takes its address.
-/

set_option autoImplicit false

namespace DevilzDen.Backend

open Foundation

namespace MemoryManager

/-- The factory, for an object that `new` has placed at an address. -/
def makeUnique (manager : MemoryManager) (sizeOf alignOf : UInt64) (tag : MemoryTag) (owner : Text)
    (threadName : Text) (pointer : Address) : MemoryManager :=
  manager.registerAllocation pointer sizeOf tag owner alignOf threadName

/-- One record for each entry of the table, in the order that the table shows them. -/
def findLeaks (records : Iteration Address MemoryAllocationRecord) (manager : MemoryManager) :
    List MemoryAllocationRecord := records.values manager.allocations

theorem registerAllocation_allocations {manager : MemoryManager} (tracking : manager.trackingEnabled = true)
    {address : Address} (present : address ≠ 0) {size : UInt64} (positive : size ≠ 0) (tag : MemoryTag)
    (owner : Text) (alignment : UInt64) (threadName : Text) :
    (manager.registerAllocation address size tag owner alignment threadName).allocations =
        manager.allocations.insert address (manager.requested address size tag owner alignment threadName) ∧
      (manager.registerAllocation address size tag owner alignment threadName).trackingEnabled = true := by
  have tracked : ¬(!manager.trackingEnabled ∨ address = 0 ∨ size = 0) := by simp [tracking, present, positive]
  have entered (before : MemoryManager) (record : MemoryAllocationRecord) :
      (before.enter record).allocations = before.allocations.insert record.address record ∧
        (before.enter record).trackingEnabled = before.trackingEnabled := by
    refine ⟨(enter_eq before record).1, ?_⟩
    unfold enter updatePeak
    dsimp only
    split <;> rfl
  rw [registerAllocation_tracked tracked]
  cases manager.allocations.lookup address with
  | none => exact ⟨(entered _ _).1, (entered _ _).2.trans tracking⟩
  | some existing => exact ⟨(entered _ _).1, (entered _ _).2.trans tracking⟩

theorem registerDeallocation_allocations {manager : MemoryManager} (tracking : manager.trackingEnabled = true)
    {address : Address} (present : address ≠ 0) :
    (manager.registerDeallocation address).allocations = manager.allocations.erase address ∧
      (manager.registerDeallocation address).trackingEnabled = true := by
  have tracked : ¬(!manager.trackingEnabled ∨ address = 0) := by simp [tracking, present]
  rw [registerDeallocation, if_neg tracked]
  cases found : manager.allocations.lookup address with
  | none =>
    have absent : address ∉ manager.allocations := AList.lookup_eq_none.mp found
    refine ⟨?_, tracking⟩
    ext1
    exact (List.kerase_of_notMem_keys absent).symm
  | some record => exact ⟨rfl, tracking⟩

end MemoryManager

structure Block where
  address : Address
  size : UInt64
  alignment : UInt64
  tag : MemoryTag
  owner : Text
  deriving DecidableEq, Repr

def MemoryAllocationRecord.block (record : MemoryAllocationRecord) : Block :=
  ⟨record.address, record.size, record.alignment, record.tag, record.owner⟩

namespace MemoryLeaks

/-- A block that is alive: the object of a pointer that `MakeUnique` returned, or a registered block. -/
structure Alive where
  block : Block
  managed : Bool
  deriving DecidableEq, Repr

structure Session where
  manager : MemoryManager := {}
  live : Table Address Alive := ∅

inductive Move where
  | makeUnique (block : Block) (threadName : Text)
  | destroy (address : Address)
  | registerAllocation (block : Block) (threadName : Text)
  | registerDeallocation (address : Address)
  deriving DecidableEq, Repr

def step (session : Session) : Move → Session
  | .makeUnique block threadName =>
      { manager := session.manager.makeUnique block.size block.alignment block.tag block.owner threadName
          block.address
        live := session.live.insert block.address ⟨block, true⟩ }
  -- the default deleter
  | .destroy address => { session with live := session.live.erase address }
  | .registerAllocation block threadName =>
      { manager := session.manager.registerAllocation block.address block.size block.tag block.owner
          block.alignment threadName
        live := session.live.insert block.address ⟨block, false⟩ }
  | .registerDeallocation address =>
      { manager := session.manager.registerDeallocation address
        live := session.live.erase address }

/-- A new block is at no address in use; a pointer destroys its own object, and
a deallocation is registered for a block that has been registered. -/
def Legal (session : Session) : Move → Prop
  | .makeUnique block _ | .registerAllocation block _ =>
      block.address ≠ 0 ∧ block.size ≠ 0 ∧ session.live.lookup block.address = none
  | .destroy address => (session.live.lookup address).map Alive.managed = some true
  | .registerDeallocation address => (session.live.lookup address).map Alive.managed = some false

instance decidableLegal (session : Session) : ∀ move, Decidable (Legal session move)
  | .makeUnique .. | .registerAllocation .. => inferInstanceAs (Decidable (_ ∧ _ ∧ _))
  | .destroy _ | .registerDeallocation _ => inferInstanceAs (Decidable (_ = _))

/-- One record for each block that is alive, and no other. -/
def LeaksExact (records : Iteration Address MemoryAllocationRecord) (session : Session) : Prop :=
  ((session.manager.findLeaks records).map MemoryAllocationRecord.block).Perm
    (session.live.values.map Alive.block)

def Move.registers (address : Address) : Move → Prop
  | .makeUnique block _ | .registerAllocation block _ => block.address = address
  | _ => False

/-- A destroyed object whose address nothing has been registered at since. -/
def Orphaned (moves : List Move) (address : Address) : Prop :=
  ∃ earlier, Since (Move.registers address) moves (earlier ++ [.destroy address])

theorem orphaned_append_singleton {earlier : List Move} {move : Move} {address : Address} :
    Orphaned (earlier ++ [move]) address ↔
      move = .destroy address ∨ ¬move.registers address ∧ Orphaned earlier address := by
  unfold Orphaned
  constructor
  · intro ⟨before, since⟩
    rcases since_append_singleton.mp since with same | ⟨kept, since⟩
    · exact Or.inl (List.append_singleton_inj.mp same).2.symm
    · exact Or.inr ⟨kept, before, since⟩
  · intro orphaned
    rcases orphaned with rfl | ⟨kept, before, since⟩
    · exact ⟨earlier, since_append_singleton.mpr (Or.inl rfl)⟩
    · exact ⟨before, since_append_singleton.mpr (Or.inr ⟨kept, since⟩)⟩

structure Recorded (moves : List Move) (session : Session) : Prop where
  tracking : session.manager.trackingEnabled = true
  keyed : ∀ address record, session.manager.allocations.lookup address = some record → record.address = address
  placed : ∀ address alive, session.live.lookup address = some alive → address ≠ 0 ∧ alive.block.address = address
  alive : ∀ address alive, session.live.lookup address = some alive →
    (session.manager.allocations.lookup address).map MemoryAllocationRecord.block = some alive.block
  orphaned : ∀ address, Orphaned moves address ↔
    session.live.lookup address = none ∧ session.manager.allocations.lookup address ≠ none

theorem start_recorded : Recorded [] {} where
  tracking := rfl
  keyed _ _ found := by cases found
  placed _ _ found := by cases found
  alive _ _ found := by cases found
  orphaned address := by
    refine ⟨fun ⟨earlier, rest, split, _⟩ => ?_, fun ⟨_, held⟩ => absurd rfl held⟩
    simp at split

theorem Recorded.register {moves : List Move} {session : Session} (recorded : Recorded moves session) {move : Move}
    {block : Block} (present : block.address ≠ 0) {manager : MemoryManager}
    (tracking : manager.trackingEnabled = true) {record : MemoryAllocationRecord} (about : record.block = block)
    (allocations : manager.allocations = session.manager.allocations.insert block.address record) {managed : Bool}
    (registers : ∀ address, move.registers address ↔ block.address = address)
    (other : ∀ address, move ≠ .destroy address) :
    Recorded (moves ++ [move]) ⟨manager, session.live.insert block.address ⟨block, managed⟩⟩ := by
  have address : record.address = block.address := congrArg Block.address about
  constructor
  · exact tracking
  · intro key held found
    rw [allocations, Table.lookup_insert_eq] at found
    split at found
    next same =>
      cases found
      rw [address, same]
    · exact recorded.keyed key held found
  · intro key alive found
    rw [Table.lookup_insert_eq] at found
    split at found
    next same =>
      cases found
      exact ⟨same ▸ present, same.symm⟩
    · exact recorded.placed key alive found
  · intro key alive found
    rw [Table.lookup_insert_eq] at found
    rw [allocations, Table.lookup_insert_eq]
    split at found
    next same =>
      cases found
      rw [if_pos same, Option.map_some, about]
    next apart =>
      rw [if_neg apart]
      exact recorded.alive key alive found
  · intro key
    rw [orphaned_append_singleton, registers, recorded.orphaned, allocations, Table.lookup_insert_eq,
      Table.lookup_insert_eq]
    by_cases same : key = block.address
    · simp [same, other]
    · simp [same, Ne.symm same, other]

theorem Recorded.outlived {moves : List Move} {session : Session} (recorded : Recorded moves session)
    {address key : Address} {alive : Alive} (found : (session.live.erase address).lookup key = some alive) :
    key ≠ address ∧ session.live.lookup key = some alive ∧ key ≠ 0 ∧ alive.block.address = key := by
  rw [Table.lookup_erase_eq] at found
  split at found
  · cases found
  next apart => exact ⟨apart, found, recorded.placed key alive found⟩

theorem Recorded.destroy {moves : List Move} {session : Session} (recorded : Recorded moves session)
    {address : Address} (legal : Legal session (.destroy address)) :
    Recorded (moves ++ [.destroy address]) (step session (.destroy address)) := by
  obtain ⟨alive, found, _⟩ := Option.map_eq_some_iff.mp legal
  have held : session.manager.allocations.lookup address ≠ none := by
    have same := recorded.alive address alive found
    intro absent
    rw [absent] at same
    cases same
  constructor
  · exact recorded.tracking
  · exact recorded.keyed
  · intro key other still
    exact (recorded.outlived still).2.2
  · intro key other still
    exact recorded.alive key other (recorded.outlived still).2.1
  · intro key
    rw [orphaned_append_singleton, recorded.orphaned, step, Table.lookup_erase_eq]
    rcases eq_or_ne key address with rfl | apart
    · simp [held]
    · simp [apart, apart.symm, Move.registers]

theorem Recorded.deregister {moves : List Move} {session : Session} (recorded : Recorded moves session)
    {address : Address} (legal : Legal session (.registerDeallocation address)) :
    Recorded (moves ++ [.registerDeallocation address]) (step session (.registerDeallocation address)) := by
  obtain ⟨alive, found, _⟩ := Option.map_eq_some_iff.mp legal
  have present := (recorded.placed address alive found).1
  obtain ⟨allocations, tracking⟩ := MemoryManager.registerDeallocation_allocations recorded.tracking present
  constructor
  · exact tracking
  · intro key record held
    rw [step, allocations, Table.lookup_erase_eq] at held
    split at held
    · cases held
    · exact recorded.keyed key record held
  · intro key other still
    exact (recorded.outlived still).2.2
  · intro key other still
    obtain ⟨apart, before, _⟩ := recorded.outlived still
    rw [step, allocations, Table.lookup_erase_eq, if_neg apart]
    exact recorded.alive key other before
  · intro key
    rw [orphaned_append_singleton, recorded.orphaned, step, allocations, Table.lookup_erase_eq,
      Table.lookup_erase_eq]
    rcases eq_or_ne key address with rfl | apart
    · simp [found]
    · simp [apart, Move.registers]

theorem Recorded.step {moves : List Move} {session : Session} (recorded : Recorded moves session) {move : Move}
    (legal : Legal session move) : Recorded (moves ++ [move]) (step session move) := by
  cases move with
  | makeUnique block threadName =>
    obtain ⟨allocations, tracking⟩ := MemoryManager.registerAllocation_allocations recorded.tracking legal.1
      legal.2.1 block.tag block.owner block.alignment threadName
    exact recorded.register legal.1 tracking rfl allocations (fun _ => Iff.rfl) fun _ => by simp
  | destroy address => exact recorded.destroy legal
  | registerAllocation block threadName =>
    obtain ⟨allocations, tracking⟩ := MemoryManager.registerAllocation_allocations recorded.tracking legal.1
      legal.2.1 block.tag block.owner block.alignment threadName
    exact recorded.register legal.1 tracking rfl allocations (fun _ => Iff.rfl) fun _ => by simp
  | registerDeallocation address => exact recorded.deregister legal

theorem run_recorded {moves : List Move} (legal : Guarded step Legal {} moves) :
    Recorded moves (run step {} moves) := by
  induction moves using List.reverseRecOn with
  | nil => exact start_recorded
  | append_singleton earlier move ih =>
    rw [guarded_append] at legal
    rw [run_append]
    exact (ih legal.1).step legal.2.1

/-- A record at an address where nothing lives is one record too many. -/
theorem Recorded.exact_iff {moves : List Move} {session : Session} (recorded : Recorded moves session)
    (records : Iteration Address MemoryAllocationRecord) :
    LeaksExact records session ↔ ∀ address, ¬Orphaned moves address := by
  have shown : ((session.manager.findLeaks records).map MemoryAllocationRecord.block).Perm
      (session.manager.allocations.values.map MemoryAllocationRecord.block) :=
    (records.enumerates_values session.manager.allocations).map _
  constructor
  · intro same address orphaned
    obtain ⟨dead, held⟩ := (recorded.orphaned address).mp orphaned
    obtain ⟨record, found⟩ := Option.ne_none_iff_exists'.mp held
    have listed : record.block ∈ session.manager.allocations.values.map MemoryAllocationRecord.block :=
      List.mem_map_of_mem (Table.mem_values_iff.mpr ⟨address, found⟩)
    obtain ⟨alive, member, block⟩ := List.mem_map.mp ((shown.symm.trans same).mem_iff.mp listed)
    obtain ⟨key, living⟩ := Table.mem_values_iff.mp member
    -- the block that the record tells of would live at the address
    have here : key = address := by
      rw [← (recorded.placed key alive living).2, block]
      exact recorded.keyed address record found
    rw [here, dead] at living
    cases living
  · intro none
    refine shown.trans (Table.map_values_perm fun key => ?_)
    cases living : session.live.lookup key with
    | some alive => exact recorded.alive key alive living
    | none =>
      by_contra held
      refine none key ((recorded.orphaned key).mpr ⟨living, fun absent => held ?_⟩)
      rw [absent]
      rfl

/-- `FindLeaks` is exact when, and only when, the address of every destroyed
object has been registered again. -/
theorem leaks_exact_iff (records : Iteration Address MemoryAllocationRecord) (moves : List Move)
    (legal : Guarded step Legal {} moves) :
    LeaksExact records (run step {} moves) ↔ ∀ address, ¬Orphaned moves address :=
  (run_recorded legal).exact_iff records

def addressReused : List Move :=
  [.makeUnique ⟨0x1000, 64, 16, .core, []⟩ [], .destroy 0x1000,
    .registerAllocation ⟨0x1000, 32, 16, .graphics, []⟩ [], .registerDeallocation 0x1000]

theorem address_reused_exact : LeaksExact Iteration.listed (run step {} addressReused) ↔
    ∀ address, ¬Orphaned addressReused address :=
  leaks_exact_iff Iteration.listed addressReused (by decide)

def objectDestroyed : List Move := [.makeUnique ⟨0x1000, 64, 16, .core, []⟩ [], .destroy 0x1000]

theorem object_destroyed_reported :
    Guarded step Legal {} objectDestroyed ∧ ¬LeaksExact Iteration.listed (run step {} objectDestroyed) := by
  refine ⟨by decide, fun same => ?_⟩
  exact absurd same.length_eq (by decide)

end MemoryLeaks

end DevilzDen.Backend
