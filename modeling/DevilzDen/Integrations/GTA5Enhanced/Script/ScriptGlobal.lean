import DevilzDen.Foundation.Reading
import DevilzDen.Integrations.GTA5Enhanced.Script.ScriptGlobalManager

/-! Script globals: an index under a manager, moved by offsets and read through.

The manager is a reference to a block table that may be configured anew between
two uses of a global.
-/

set_option autoImplicit false

namespace DevilzDen.Integrations.GTA5Enhanced

open Backend Foundation

structure ScriptGlobal (Ref : Type) where
  manager : Option Ref := none
  index : UInt32 := 0
  deriving DecidableEq, Repr

namespace ScriptGlobal

variable {Ref : Type}

def «at» (global : ScriptGlobal Ref) (offset : Int64) : ScriptGlobal Ref :=
  if offset < 0 ∧ (-offset).toUInt64 > global.index.toUInt64 then {}
  else {
    manager := global.manager
    index := (global.index.toUInt64.toInt64 + offset).toUInt64.toUInt32 }

/-- `Script_Global_Manager::Get`. -/
def get (manager : Ref) (index : UInt32) : ScriptGlobal Ref := { manager := some manager, index }

def resolve (managers : Ref → ScriptGlobalManager) (global : ScriptGlobal Ref) : Result Address :=
  match global.manager with
  | none => .error (.runtime "Script global has no manager")
  | some manager => (managers manager).resolve global.index

/-- `Read` of a type of this size, which is a copy of its bytes. -/
def read (managers : Ref → ScriptGlobalManager) (global : ScriptGlobal Ref) (size : Nat) :
    Reading Address UInt8 (Result (List UInt8)) :=
  match global.resolve managers with
  | .error error => .done (.error error)
  | .ok pointer =>
      (Reading.block ((List.range size).map fun index => pointer + UInt64.ofNat index)).map .ok

/-! ## Offsets -/

section Offsets

variable (global : ScriptGlobal Ref) (offset : Int64)

def target : Int := global.index.toNat + offset.toInt

def InRange : Prop := 0 ≤ target global offset ∧ target global offset ≤ 2 ^ 32 - 1

instance : Decidable (InRange global offset) := inferInstanceAs (Decidable (_ ∧ _))

theorem toNat_neg {offset : Int64} (negative : offset.toInt < 0) : ((-offset).toUInt64.toNat : Int) = -offset.toInt := by
  have lower := offset.le_toInt
  have below := (-offset).toUInt64.toNat_lt
  have bits := toInt_eq (-offset)
  rw [Int64.toInt_neg, Int.bmod_def] at bits
  split at bits <;> split at bits <;> omega

theorem guard_iff : offset < 0 ∧ (-offset).toUInt64 > global.index.toUInt64 ↔ target global offset < 0 := by
  rw [Int64.lt_iff_toInt_lt, gt_iff_lt, UInt64.lt_iff_toNat_lt, UInt32.toNat_toUInt64, target]
  have zero : (0 : Int64).toInt = 0 := rfl
  rw [zero]
  constructor
  · intro guard
    have magnitude := toNat_neg guard.1
    omega
  · intro below
    have negative : offset.toInt < 0 := by omega
    have magnitude := toNat_neg negative
    exact ⟨negative, by omega⟩

theorem toNat_index : ((global.index.toUInt64.toInt64 + offset).toUInt64.toUInt32.toNat : Int) =
    target global offset % 2 ^ 32 := by
  have small := global.index.toNat_lt
  have below := (global.index.toUInt64.toInt64 + offset).toUInt64.toNat_lt
  have start : global.index.toUInt64.toInt64.toInt = global.index.toNat := by
    rw [toInt_toInt64_eq, UInt32.toNat_toUInt64, if_pos (by omega)]
  have bits := toInt_eq (global.index.toUInt64.toInt64 + offset)
  rw [Int64.toInt_add, start, ← target, Int.bmod_def] at bits
  rw [UInt64.toNat_toUInt32]
  split at bits <;> split at bits <;> omega

theorem at_of_negative (negative : target global offset < 0) : global.at offset = {} := by
  rw [ScriptGlobal.at, if_pos ((guard_iff global offset).mpr negative)]

/-- An index from 2^32 on is cut to its low 32 bits. -/
theorem at_of_nonneg (nonneg : 0 ≤ target global offset) :
    global.at offset = ⟨global.manager, UInt32.ofNat (target global offset).toNat⟩ := by
  rw [ScriptGlobal.at, if_neg (mt (guard_iff global offset).mp (by omega))]
  have index : (global.index.toUInt64.toInt64 + offset).toUInt64.toUInt32 =
      UInt32.ofNat (target global offset).toNat := by
    apply UInt32.toNat_inj.mp
    have cut := toNat_index global offset
    rw [UInt32.toNat_ofNat']
    omega
  rw [index]

end Offsets

def managersAfter (calls : Ref → List ScriptGlobalManager.Call) (manager : Ref) : ScriptGlobalManager :=
  run ScriptGlobalManager.step {} (calls manager)

/-- An offset to an index in range keeps the manager and is exact, and a global moved
anywhere else resolves under no configuration. -/
def Unaliased (global : ScriptGlobal Ref) (offset : Int64) : Prop :=
  (InRange global offset → (global.at offset).manager = global.manager ∧
    ((global.at offset).index.toNat : Int) = target global offset) ∧
  (¬InRange global offset → ∀ calls : Ref → List ScriptGlobalManager.Call,
    ∃ error, (global.at offset).resolve (managersAfter calls) = .error error)

theorem resolve_of_covers {calls : List ScriptGlobalManager.Call} {blocks : List ScriptGlobalManager.Block}
    {buildFingerprint : UInt64} {block : ScriptGlobalManager.Block} {index : UInt32}
    (inForce : ScriptGlobalManager.InForce calls blocks buildFingerprint)
    (member : block ∈ blocks) (covers : index.toNat ∈ block.range) :
    (run ScriptGlobalManager.step {} calls).resolve index =
      .ok (block.base + UInt64.ofNat (8 * (index.toNat - block.firstIndex.toNat))) := by
  obtain ⟨accepted, sorting, table⟩ := ScriptGlobalManager.run_of_inForce inForce
  rw [table, ScriptGlobalManager.resolve_eq_ok accepted sorting]
  have below := index.toNat_lt
  have small : 8 * (index.toNat - block.firstIndex.toNat) < 2 ^ 64 := by omega
  refine ⟨block, member, covers, ?_⟩
  rw [ScriptGlobalManager.Block.addressOf, UInt64.toNat_add, UInt64.toNat_ofNat_of_lt' small]

/-- No accepted block has the last index. -/
theorem resolve_last_index (calls : List ScriptGlobalManager.Call) {index : UInt32} (last : index.toNat = 2 ^ 32 - 1) :
    ∃ error, (run ScriptGlobalManager.step {} calls).resolve index = .error error := by
  by_cases some : ∃ blocks buildFingerprint, ScriptGlobalManager.InForce calls blocks buildFingerprint
  · obtain ⟨blocks, buildFingerprint, inForce⟩ := some
    obtain ⟨accepted, sorting, table⟩ := ScriptGlobalManager.run_of_inForce inForce
    rw [table]
    cases resolved : ScriptGlobalManager.resolve ⟨sorting.sorted, buildFingerprint⟩ index with
    | error error => exact ⟨error, rfl⟩
    | ok address =>
      obtain ⟨block, member, covers, _⟩ := (ScriptGlobalManager.resolve_eq_ok accepted sorting index address).mp resolved
      have fits := (accepted.valid block member).fits
      have below : index.toNat < block.firstIndex.toNat + block.slotCount.toNat := covers.2
      omega
  · have none : ∀ blocks buildFingerprint, ¬ScriptGlobalManager.InForce calls blocks buildFingerprint :=
      fun blocks buildFingerprint inForce => some ⟨blocks, buildFingerprint, inForce⟩
    rw [ScriptGlobalManager.run_of_not_inForce none, ScriptGlobalManager.resolve, if_pos rfl]
    exact ⟨_, rfl⟩

def singleSlot (index : UInt32) : ScriptGlobalManager.Call :=
  .configure [⟨index, 1, 0x1000⟩] 1 ⟨[⟨index, 1, 0x1000⟩], .refl _, List.pairwise_singleton _ _⟩

theorem inForce_singleSlot {index : UInt32} (inner : index.toNat < 2 ^ 32 - 1) :
    ScriptGlobalManager.InForce [singleSlot index] [⟨index, 1, 0x1000⟩] 1 := by
  refine ⟨[], _, [], rfl, ⟨by decide, fun block member => ?_, List.pairwise_singleton _ _⟩, nofun⟩
  rw [List.mem_singleton.mp member]
  have one : (1 : UInt32).toNat = 1 := rfl
  have present : (0x1000 : Address) ≠ 0 := by decide
  exact ⟨Nat.one_pos, present, by simp only [one]; omega⟩

theorem covers_singleSlot (index : UInt32) : index.toNat ∈ (ScriptGlobalManager.Block.mk index 1 0x1000).range :=
  ⟨Nat.le_refl _, Nat.lt_succ_self _⟩

theorem resolve_singleSlot {index : UInt32} (inner : index.toNat < 2 ^ 32 - 1) :
    (run ScriptGlobalManager.step {} [singleSlot index]).resolve index = .ok 0x1000 := by
  rw [resolve_of_covers (inForce_singleSlot inner) (List.mem_singleton.mpr rfl) (covers_singleSlot index), Nat.sub_self]
  rfl

theorem unaliased_of_negative {global : ScriptGlobal Ref} {offset : Int64} (negative : target global offset < 0) :
    Unaliased global offset := by
  constructor
  · intro within
    exact absurd within.1 (by omega)
  · intro _ calls
    rw [at_of_negative global offset negative]
    exact ⟨_, rfl⟩

theorem unaliased_of_inRange {global : ScriptGlobal Ref} {offset : Int64} (within : InRange global offset) :
    Unaliased global offset := by
  refine ⟨fun _ => ?_, fun outside => absurd within outside⟩
  obtain ⟨nonneg, below⟩ := within
  rw [at_of_nonneg global offset nonneg]
  have small : (target global offset).toNat < 2 ^ 32 := by omega
  refine ⟨rfl, ?_⟩
  dsimp only
  rw [UInt32.toNat_ofNat_of_lt' small, Int.toNat_of_nonneg nonneg]

/-- Past the last index, an offset fails everywhere exactly when it is cut to the last one. -/
theorem unaliased_of_large (manager : Ref) (index : UInt32) {offset : Int64}
    (large : 2 ^ 32 ≤ target (get manager index) offset) :
    Unaliased (get manager index) offset ↔ target (get manager index) offset % 2 ^ 32 = 2 ^ 32 - 1 := by
  have outside : ¬InRange (get manager index) offset := by
    intro within
    exact absurd within.2 (by omega)
  have cut : (UInt32.ofNat (target (get manager index) offset).toNat).toNat =
      (target (get manager index) offset).toNat % 2 ^ 32 := UInt32.toNat_ofNat'
  rw [Unaliased, at_of_nonneg _ _ (by omega)]
  constructor
  · intro unaliased
    by_contra inner
    generalize UInt32.ofNat (target (get manager index) offset).toNat = aliased at cut unaliased
    obtain ⟨error, failed⟩ := unaliased.2 outside fun _ => [singleSlot aliased]
    have found : (run ScriptGlobalManager.step {} [singleSlot aliased]).resolve aliased = .ok 0x1000 :=
      resolve_singleSlot (by omega)
    exact nomatch failed.symm.trans found
  · intro last
    refine ⟨fun within => absurd within outside, fun _ calls => ?_⟩
    exact resolve_last_index (calls manager) (cut.trans (by omega))

theorem at_at {global : ScriptGlobal Ref} {first second : Int64} (within : InRange global first)
    (next : InRange (global.at first) second) : (global.at first).at second = global.at (first + second) := by
  have exact := (unaliased_of_inRange within).1 within
  have sum : target global (first + second) = target (global.at first) second := by
    have lower := second.le_toInt
    have upper := second.toInt_lt
    have below := global.index.toNat_lt
    rw [InRange] at within next
    rw [target, exact.2, target] at next
    rw [target, Int64.toInt_add, Int.bmod_eq_of_le (by omega) (by omega), target, exact.2, target]
    omega
  rw [at_of_nonneg _ _ next.1, at_of_nonneg global (first + second) (by rw [sum]; exact next.1), sum, exact.1]

/-- Offsets do not alias exactly where the index stays below 2^32, or is cut to the last
one, which no configuration has. Offsets in range add up. -/
theorem unaliased_iff (manager : Ref) (index : UInt32) :
    (∀ offset, Unaliased (get manager index) offset ↔
      target (get manager index) offset ≤ 2 ^ 32 - 1 ∨ target (get manager index) offset % 2 ^ 32 = 2 ^ 32 - 1) ∧
    ∀ first second, InRange (get manager index) first → InRange ((get manager index).at first) second →
      ((get manager index).at first).at second = (get manager index).at (first + second) := by
  refine ⟨fun offset => ?_, fun first second within next => at_at within next⟩
  by_cases large : 2 ^ 32 ≤ target (get manager index) offset
  · rw [unaliased_of_large manager index large]
    constructor
    · exact Or.inr
    · intro either
      rcases either with small | last
      · omega
      · exact last
  · have unaliased : Unaliased (get manager index) offset := by
      by_cases negative : target (get manager index) offset < 0
      · exact unaliased_of_negative negative
      · exact unaliased_of_inRange ⟨by omega, by omega⟩
    exact iff_of_true unaliased (Or.inl (by omega))

/-- An offset of 2^32 leads back to the index itself. -/
theorem offset_aliases_index :
    (get () 5).at 0x100000000 = get () 5 ∧
      (get () 5).resolve (managersAfter fun _ => [singleSlot 5]) = .ok 0x1000 ∧
      ¬Unaliased (get () 5) 0x100000000 := by
  have same : (get () 5).at 0x100000000 = get () 5 := by decide
  have found : (get () 5).resolve (managersAfter fun _ => [singleSlot 5]) = .ok 0x1000 :=
    resolve_singleSlot (by decide)
  refine ⟨same, found, fun unaliased => ?_⟩
  obtain ⟨error, failed⟩ := unaliased.2 (by decide) fun _ => [singleSlot 5]
  rw [same] at failed
  exact nomatch failed.symm.trans found

theorem unaliased_iff_back : ((get () 5).at 3).at (-2) = (get () 5).at (3 + -2) :=
  (unaliased_iff () 5).2 3 (-2) (by decide) (by decide)

/-! ## Reads -/

/-- An address of the slots of a block, counted modulo 2^64 as `Resolve` counts it. -/
def InBlock (block : ScriptGlobalManager.Block) (address : Address) : Prop :=
  ∃ offset < 8 * block.slotCount.toNat, address = block.base + UInt64.ofNat offset

/-- A read that fails, or that takes bytes of the block only. -/
def ReadsInside (managers : Ref → ScriptGlobalManager) (global : ScriptGlobal Ref) (size : Nat)
    (block : ScriptGlobalManager.Block) : Prop :=
  ∀ memory : Memory, (∃ error, Reading.value memory (global.read managers size) = .error error) ∨
    ∀ address ∈ Reading.footprint memory (global.read managers size), InBlock block address

section Reads

variable {calls : List ScriptGlobalManager.Call} {blocks : List ScriptGlobalManager.Block}
  {buildFingerprint : UInt64} {block : ScriptGlobalManager.Block} {index : UInt32}

theorem read_eq_block {managers : Ref → ScriptGlobalManager} {manager : Ref} {pointer : Address}
    (resolved : (managers manager).resolve index = .ok pointer) (size : Nat) :
    (get manager index).read managers size =
      (Reading.block ((List.range size).map fun offset => pointer + UInt64.ofNat offset)).map .ok := by
  have same : (get manager index).resolve managers = .ok pointer := resolved
  rw [read, same]

theorem inBlock_iff {offset : Nat} (small : offset < 2 ^ 64) :
    InBlock block (block.base + UInt64.ofNat offset) ↔ offset < 8 * block.slotCount.toNat := by
  constructor
  · intro inside
    obtain ⟨other, below, same⟩ := inside
    have slots := block.slotCount.toNat_lt
    have base := block.base.toNat_lt
    have equal := congrArg UInt64.toNat same
    rw [UInt64.toNat_add, UInt64.toNat_add, UInt64.toNat_ofNat_of_lt' small,
      UInt64.toNat_ofNat_of_lt' (by omega : other < 2 ^ 64)] at equal
    omega
  · intro below
    exact ⟨offset, below, rfl⟩

theorem mem_footprint_read (inForce : ScriptGlobalManager.InForce calls blocks buildFingerprint)
    (member : block ∈ blocks) (covers : index.toNat ∈ block.range) {managers : Ref → ScriptGlobalManager}
    {manager : Ref} (configured : managers manager = run ScriptGlobalManager.step {} calls) {memory : Memory}
    {size : Nat} {address : Address} :
    address ∈ Reading.footprint memory ((get manager index).read managers size) ↔ ∃ offset < size,
      block.base + UInt64.ofNat (8 * (index.toNat - block.firstIndex.toNat) + offset) = address := by
  have resolved := resolve_of_covers inForce member covers
  rw [← configured] at resolved
  rw [read_eq_block resolved, Reading.footprint_map, Reading.footprint_block, List.mem_map]
  simp only [List.mem_range, UInt64.add_assoc, UInt64.ofNat_add]

theorem value_read_ne_error (inForce : ScriptGlobalManager.InForce calls blocks buildFingerprint)
    (member : block ∈ blocks) (covers : index.toNat ∈ block.range) {managers : Ref → ScriptGlobalManager}
    {manager : Ref} (configured : managers manager = run ScriptGlobalManager.step {} calls) {memory : Memory}
    {size : Nat} {error : Error} :
    Reading.value memory ((get manager index).read managers size) ≠ .error error := by
  have resolved := resolve_of_covers inForce member covers
  rw [← configured] at resolved
  rw [read_eq_block resolved, Reading.value_map]
  exact nofun

/-- A read stays in its block exactly when the bytes from its slot to the end of the block are enough. -/
theorem read_inside_iff (inForce : ScriptGlobalManager.InForce calls blocks buildFingerprint)
    (member : block ∈ blocks) (covers : index.toNat ∈ block.range) (managers : Ref → ScriptGlobalManager)
    (manager : Ref) (configured : managers manager = run ScriptGlobalManager.step {} calls) (size : Nat) :
    ReadsInside managers (get manager index) size block ↔
      8 * (index.toNat - block.firstIndex.toNat) + size ≤ 8 * block.slotCount.toNat := by
  have slots := block.slotCount.toNat_lt
  constructor
  · intro inside
    by_contra beyond
    have local_ : index.toNat < block.firstIndex.toNat + block.slotCount.toNat := covers.2
    rcases inside (fun _ => 0) with failed | all
    · obtain ⟨error, failed⟩ := failed
      exact value_read_ne_error inForce member covers configured failed
    · -- the first byte past the block is one of those that are read
      obtain ⟨offset, past⟩ := Nat.exists_eq_add_of_le
        (by omega : 8 * (index.toNat - block.firstIndex.toNat) ≤ 8 * block.slotCount.toNat)
      have first := all _ ((mem_footprint_read inForce member covers configured).mpr ⟨offset, by omega, rfl⟩)
      rw [← past, inBlock_iff (by omega)] at first
      omega
  · intro fits memory
    apply Or.inr
    intro address read
    obtain ⟨offset, below, rfl⟩ := (mem_footprint_read inForce member covers configured).mp read
    rw [inBlock_iff (by omega)]
    omega

end Reads

/-- A type of 16 bytes is read past the end of a block of one slot. -/
theorem wide_read_leaves_block :
    (get () 5).resolve (managersAfter fun _ => [singleSlot 5]) = .ok 0x1000 ∧
      ¬ReadsInside (managersAfter fun _ => [singleSlot 5]) (get () 5) 16 ⟨5, 1, 0x1000⟩ := by
  have inner : (5 : UInt32).toNat < 2 ^ 32 - 1 := by decide
  refine ⟨resolve_singleSlot inner, fun inside => ?_⟩
  have read : 0x1008 ∈ Reading.footprint (fun _ => 0)
      ((get () 5).read (managersAfter fun _ => [singleSlot 5]) 16) :=
    (mem_footprint_read (inForce_singleSlot inner) (List.mem_singleton.mpr rfl) (covers_singleSlot 5) rfl).mpr
      ⟨8, by decide, by decide⟩
  rcases inside (fun _ => 0) with failed | all
  · obtain ⟨error, failed⟩ := failed
    exact value_read_ne_error (inForce_singleSlot inner) (List.mem_singleton.mpr rfl) (covers_singleSlot 5) rfl failed
  · have outside : ¬InBlock ⟨5, 1, 0x1000⟩ (0x1000 + UInt64.ofNat 8) :=
      mt (inBlock_iff (by decide)).mp (by decide)
    exact outside (all _ read)

theorem read_inside_iff_qword :
    ReadsInside (managersAfter fun _ => [singleSlot 5]) (get () 5) 8 ⟨5, 1, 0x1000⟩ :=
  (read_inside_iff (inForce_singleSlot (by decide)) (List.mem_singleton.mpr rfl) (covers_singleSlot 5)
    (managersAfter fun _ => [singleSlot 5]) () rfl 8).mpr (by decide)

end ScriptGlobal

end DevilzDen.Integrations.GTA5Enhanced
