import DevilzDen.Backend.Memory.Pointer
import DevilzDen.Foundation.Intervals
import DevilzDen.Foundation.Run
import Mathlib.Data.List.Pairwise

/-! The block table of the script globals.

`std::sort` is not stable and its algorithm is not fixed, so a call is taken
with any order it may have produced.
-/

set_option autoImplicit false

namespace DevilzDen.Integrations.GTA5Enhanced

open Backend Foundation

namespace ScriptGlobalManager

structure Block where
  firstIndex : UInt32 := 0
  slotCount : UInt32 := 0
  base : Address := 0
  deriving DecidableEq, Repr

def Block.contains (block : Block) (index : UInt32) : Bool :=
  index ≥ block.firstIndex && index - block.firstIndex < block.slotCount

/-- What `std::sort` may return for the blocks. -/
structure Sorting (blocks : List Block) where
  sorted : List Block
  perm : sorted.Perm blocks
  ordered : sorted.Pairwise fun first second => first.firstIndex ≤ second.firstIndex

/-- A stable sort gives one of these orders. -/
instance (blocks : List Block) : Inhabited (Sorting blocks) where
  default.sorted := blocks.mergeSort fun first second => first.firstIndex ≤ second.firstIndex
  default.perm := List.mergeSort_perm _ _
  default.ordered := by
    let before (first second : Block) : Bool := first.firstIndex ≤ second.firstIndex
    have sorted : (blocks.mergeSort before).Pairwise (before · ·) :=
      List.pairwise_mergeSort (by simpa [before] using fun first second third : Block => UInt32.le_trans)
        (by simpa [before] using fun first second : Block => UInt32.le_total _ _) blocks
    simpa [before] using sorted

end ScriptGlobalManager

structure ScriptGlobalManager where
  blocks : List ScriptGlobalManager.Block := []
  buildFingerprint : UInt64 := 0
  deriving DecidableEq, Repr

namespace ScriptGlobalManager

/-- The loop over the blocks as they are supplied. -/
def checkBlocks : List Block → Result Unit
  | [] => .ok ()
  | block :: rest =>
      if block.slotCount = 0 ∨ block.base = 0 then .error (.runtime "Script global block is invalid")
      else if block.firstIndex > 0xFFFFFFFF - block.slotCount then
        .error (.runtime "Script global block index range overflows")
      else checkBlocks rest

/-- The loop over the sorted blocks and their predecessors. -/
def checkNeighbours : List Block → Result Unit
  | previous :: block :: rest =>
      if previous.firstIndex + previous.slotCount > block.firstIndex then
        .error (.runtime "Script global blocks overlap")
      else checkNeighbours (block :: rest)
  | _ => .ok ()

/-- The manager after `Configure`, or its error: a failure changes nothing. -/
def configure (_ : ScriptGlobalManager) (blocks : List Block) (buildFingerprint : UInt64)
    (sorting : Sorting blocks) : Result ScriptGlobalManager :=
  if buildFingerprint = 0 then .error (.runtime "Script globals require a valid build fingerprint")
  else do
    checkBlocks blocks
    checkNeighbours sorting.sorted
    .ok { blocks := sorting.sorted, buildFingerprint }

def clear (_ : ScriptGlobalManager) : ScriptGlobalManager := { blocks := [], buildFingerprint := 0 }

def slotSize : UInt64 := 8

def resolve (manager : ScriptGlobalManager) (index : UInt32) : Result Address :=
  if manager.buildFingerprint = 0 then .error (.runtime "Script global manager is not configured")
  else match manager.blocks.find? (·.contains index) with
    | none =>
        .error ((Error.runtime "Script global index is outside configured blocks").withContext "Index"
          (decimal index.toNat))
    | some block =>
        let slot := (index - block.firstIndex).toUInt64
        .ok (block.base.add (slot * slotSize).toInt64)

def ready (manager : ScriptGlobalManager) : Bool :=
  manager.buildFingerprint ≠ 0 && !manager.blocks.isEmpty

inductive Call where
  | configure (blocks : List Block) (buildFingerprint : UInt64) (sorting : Sorting blocks)
  | clear

def step (manager : ScriptGlobalManager) : Call → ScriptGlobalManager
  | .configure blocks buildFingerprint sorting =>
      match manager.configure blocks buildFingerprint sorting with
      | .error _ => manager
      | .ok configured => configured
  | .clear => manager.clear

/-! ## What a block table means -/

namespace Block

def lower (block : Block) : Nat := block.firstIndex.toNat

def upper (block : Block) : Nat := block.firstIndex.toNat + block.slotCount.toNat

def range (block : Block) : Set Nat := Set.Ico block.lower block.upper

/-- A block that stands for a range of 32-bit indices at an address. -/
structure Valid (block : Block) : Prop where
  slots : 0 < block.slotCount.toNat
  base : block.base ≠ 0
  fits : block.firstIndex.toNat + block.slotCount.toNat ≤ 2 ^ 32 - 1

end Block

/-- The configurations that the manager is meant to take. -/
structure Acceptable (blocks : List Block) (buildFingerprint : UInt64) : Prop where
  fingerprint : buildFingerprint ≠ 0
  valid : ∀ block ∈ blocks, block.Valid
  disjoint : blocks.Pairwise fun first second => Disjoint first.range second.range

theorem Block.contains_iff (block : Block) (index : UInt32) :
    block.contains index = true ↔ index.toNat ∈ block.range := by
  simp only [Block.contains, Block.range, Block.lower, Block.upper, Set.mem_Ico, Bool.and_eq_true,
    decide_eq_true_eq, ge_iff_le, UInt32.le_iff_toNat_le, UInt32.lt_iff_toNat_lt]
  constructor
  · rintro ⟨above, local_⟩
    rw [UInt32.toNat_sub_of_le _ _ (UInt32.le_iff_toNat_le.mpr above)] at local_
    omega
  · rintro ⟨above, below⟩
    rw [UInt32.toNat_sub_of_le _ _ (UInt32.le_iff_toNat_le.mpr above)]
    omega

/-- The test against the largest index does not wrap. -/
theorem overflows_iff (block : Block) :
    block.firstIndex > 0xFFFFFFFF - block.slotCount ↔
      ¬block.firstIndex.toNat + block.slotCount.toNat ≤ 2 ^ 32 - 1 := by
  have range := block.slotCount.toNat_lt
  have small : block.slotCount ≤ 0xFFFFFFFF := UInt32.le_iff_toNat_le.mpr (by simp; omega)
  rw [gt_iff_lt, UInt32.lt_iff_toNat_lt, UInt32.toNat_sub_of_le _ _ small]
  simp
  omega

theorem checkBlocks_eq_ok {blocks : List Block} :
    checkBlocks blocks = .ok () ↔ ∀ block ∈ blocks, block.Valid := by
  induction blocks with
  | nil => simp [checkBlocks]
  | cons block rest ih =>
    rw [List.forall_mem_cons, ← ih, checkBlocks]
    by_cases invalid : block.slotCount = 0 ∨ block.base = 0
    · rw [if_pos invalid]
      apply iff_of_false (by simp)
      intro valid
      rcases invalid with empty | null
      · exact absurd valid.1.slots (by simp [empty])
      · exact valid.1.base null
    · rw [if_neg invalid]
      by_cases overflows : block.firstIndex > 0xFFFFFFFF - block.slotCount
      · rw [if_pos overflows]
        exact iff_of_false (by simp) fun valid => (overflows_iff block).mp overflows valid.1.fits
      · rw [if_neg overflows]
        have positive : 0 < block.slotCount.toNat :=
          Nat.pos_of_ne_zero fun zero => invalid (Or.inl (UInt32.toNat_inj.mp zero))
        have valid : block.Valid :=
          ⟨positive, fun null => invalid (Or.inr null), not_not.mp (mt (overflows_iff block).mpr overflows)⟩
        exact (and_iff_right valid).symm

theorem checkNeighbours_eq_ok {blocks : List Block} (valid : ∀ block ∈ blocks, block.Valid) :
    checkNeighbours blocks = .ok () ↔ blocks.IsChain (Intervals.Before Block.lower Block.upper) := by
  induction blocks with
  | nil => simp [checkNeighbours]
  | cons previous rest ih =>
    cases rest with
    | nil => simp [checkNeighbours]
    | cons block rest =>
      rw [List.forall_mem_cons] at valid
      have fits := valid.1.fits
      have slots := (valid.2 block List.mem_cons_self).slots
      -- the 32-bit sum is the end of the block's range
      have sum : (previous.firstIndex + previous.slotCount).toNat = previous.upper := by
        rw [UInt32.toNat_add, Nat.mod_eq_of_lt (by omega), Block.upper]
      rw [List.isChain_cons_cons, ← ih valid.2, checkNeighbours]
      by_cases overlap : previous.firstIndex + previous.slotCount > block.firstIndex
      · rw [if_pos overlap]
        apply iff_of_false (by simp)
        intro both
        have apart := both.1.1
        rw [gt_iff_lt, UInt32.lt_iff_toNat_lt, sum] at overlap
        exact absurd apart (Nat.not_le_of_lt overlap)
      · rw [if_neg overlap]
        rw [gt_iff_lt, UInt32.lt_iff_toNat_lt, sum, Nat.not_lt] at overlap
        have before : Intervals.Before Block.lower Block.upper previous block :=
          ⟨overlap, Nat.lt_add_of_pos_right slots⟩
        exact (and_iff_right before).symm

theorem Sorting.valid {blocks : List Block} (sorting : Sorting blocks)
    (valid : ∀ block ∈ blocks, block.Valid) : ∀ block ∈ sorting.sorted, block.Valid :=
  fun block member => valid block (sorting.perm.mem_iff.mp member)

theorem Block.Valid.nonempty {block : Block} (valid : block.Valid) : block.lower < block.upper :=
  Nat.lt_add_of_pos_right valid.slots

theorem Sorting.pairwise_iff {blocks : List Block} (sorting : Sorting blocks)
    (valid : ∀ block ∈ blocks, block.Valid) :
    sorting.sorted.Pairwise (Intervals.Before Block.lower Block.upper) ↔
      blocks.Pairwise fun first second => Disjoint first.range second.range := by
  have ordered : sorting.sorted.Pairwise fun first second => first.lower ≤ second.lower :=
    sorting.ordered.imp UInt32.le_iff_toNat_le.mp
  rw [Intervals.pairwise_before_iff (fun block member => (sorting.valid valid block member).nonempty) ordered]
  exact sorting.perm.pairwise_iff fun apart => apart.symm

theorem configure_eq_ok {manager configured : ScriptGlobalManager} {blocks : List Block}
    {buildFingerprint : UInt64} {sorting : Sorting blocks} :
    manager.configure blocks buildFingerprint sorting = .ok configured ↔
      Acceptable blocks buildFingerprint ∧ configured = { blocks := sorting.sorted, buildFingerprint } := by
  rw [configure]
  by_cases fingerprint : buildFingerprint = 0
  · rw [if_pos fingerprint]
    exact iff_of_false (by simp) fun both => both.1.fingerprint fingerprint
  rw [if_neg fingerprint]
  by_cases valid : ∀ block ∈ blocks, block.Valid
  · rw [checkBlocks_eq_ok.mpr valid]
    have neighbours := (checkNeighbours_eq_ok (sorting.valid valid)).trans
      (Intervals.isChain_iff_pairwise.trans (sorting.pairwise_iff valid))
    cases checked : checkNeighbours sorting.sorted with
    | error error =>
      rw [checked] at neighbours
      exact iff_of_false nofun fun both => nomatch neighbours.mpr both.1.disjoint
    | ok =>
      have accepted : Acceptable blocks buildFingerprint := ⟨fingerprint, valid, neighbours.mp checked⟩
      rw [and_iff_right accepted]
      exact ⟨fun same => (Except.ok.inj same).symm, fun same => congrArg Except.ok same.symm⟩
  · cases checked : checkBlocks blocks with
    | error error => exact iff_of_false nofun fun both => valid both.1.valid
    | ok => exact absurd (checkBlocks_eq_ok.mp checked) valid

theorem step_configure (manager : ScriptGlobalManager) (blocks : List Block) (buildFingerprint : UInt64)
    (sorting : Sorting blocks) :
    (Acceptable blocks buildFingerprint ∧
        step manager (.configure blocks buildFingerprint sorting) =
          { blocks := sorting.sorted, buildFingerprint }) ∨
      ¬Acceptable blocks buildFingerprint ∧
        step manager (.configure blocks buildFingerprint sorting) = manager := by
  rw [step]
  cases configured : manager.configure blocks buildFingerprint sorting with
  | ok table => exact Or.inl (configure_eq_ok.mp configured)
  | error error =>
    refine Or.inr ⟨fun accepted => ?_, rfl⟩
    exact nomatch configured.symm.trans (configure_eq_ok.mpr ⟨accepted, rfl⟩)

theorem step_configure_of_perm (manager : ScriptGlobalManager) {blocks other : List Block}
    (same : blocks.Perm other) (buildFingerprint : UInt64) (sorting : Sorting blocks)
    (sorting' : Sorting other) :
    step manager (.configure blocks buildFingerprint sorting) =
      step manager (.configure other buildFingerprint sorting') := by
  have acceptable : Acceptable blocks buildFingerprint ↔ Acceptable other buildFingerprint := by
    have disjoint := same.pairwise_iff (R := fun first second : Block => Disjoint first.range second.range)
      fun apart => apart.symm
    constructor
    · intro accepted
      exact ⟨accepted.fingerprint, fun block member => accepted.valid block (same.mem_iff.mpr member),
        disjoint.mp accepted.disjoint⟩
    · intro accepted
      exact ⟨accepted.fingerprint, fun block member => accepted.valid block (same.mem_iff.mp member),
        disjoint.mpr accepted.disjoint⟩
  rcases step_configure manager blocks buildFingerprint sorting with ⟨one, table⟩ | ⟨one, table⟩ <;>
    rcases step_configure manager other buildFingerprint sorting' with ⟨two, table'⟩ | ⟨two, table'⟩
  · rw [table, table']
    have sorted : sorting.sorted = sorting'.sorted :=
      Intervals.eq_of_perm ((sorting.pairwise_iff one.valid).mpr one.disjoint)
        ((sorting'.pairwise_iff two.valid).mpr two.disjoint)
        (sorting.perm.trans (same.trans sorting'.perm.symm))
    rw [sorted]
  · exact absurd (acceptable.mp one) two
  · exact absurd (acceptable.mpr two) one
  · rw [table, table']

/-! ## Any sequence of calls -/

/-- A call after which an earlier configuration is not in force any more. -/
def Call.Replaces : Call → Prop
  | .configure blocks buildFingerprint _ => Acceptable blocks buildFingerprint
  | .clear => True

/-- The last accepted configuration of the calls, when no `Clear` follows it. -/
def InForce (calls : List Call) (blocks : List Block) (buildFingerprint : UInt64) : Prop :=
  ∃ earlier sorting later, Last Call.Replaces calls earlier (.configure blocks buildFingerprint sorting) later

theorem run_of_not_replaces (manager : ScriptGlobalManager) {calls : List Call}
    (kept : ∀ call ∈ calls, ¬call.Replaces) : run step manager calls = manager := by
  apply run_of_forall_same step
  intro call member
  cases call with
  | configure blocks buildFingerprint sorting =>
    rcases step_configure manager blocks buildFingerprint sorting with ⟨accepted, _⟩ | ⟨_, same⟩
    · exact absurd accepted (kept _ member)
    · exact same
  | clear => exact absurd trivial (kept _ member)

theorem run_of_inForce {calls : List Call} {blocks : List Block} {buildFingerprint : UInt64}
    (inForce : InForce calls blocks buildFingerprint) :
    Acceptable blocks buildFingerprint ∧
      ∃ sorting : Sorting blocks, run step {} calls = { blocks := sorting.sorted, buildFingerprint } := by
  obtain ⟨earlier, sorting, later, rfl, accepted, kept⟩ := inForce
  refine ⟨accepted, sorting, ?_⟩
  rw [run_append, run_cons, run_of_not_replaces _ kept]
  rcases step_configure (run step {} earlier) blocks buildFingerprint sorting with ⟨_, table⟩ | ⟨refused, _⟩
  · exact table
  · exact absurd accepted refused

theorem run_of_not_inForce {calls : List Call}
    (none : ∀ blocks buildFingerprint, ¬InForce calls blocks buildFingerprint) : run step {} calls = {} := by
  rcases exists_last Call.Replaces calls with kept | ⟨earlier, last, later, found⟩
  · exact run_of_not_replaces _ kept
  · cases last with
    | configure blocks buildFingerprint sorting => exact absurd ⟨earlier, sorting, later, found⟩ (none _ _)
    | clear =>
      obtain ⟨rfl, _, kept⟩ := found
      rw [run_append, run_cons, run_of_not_replaces _ kept]
      rfl

theorem Acceptable.unique {blocks : List Block} {buildFingerprint : UInt64}
    (accepted : Acceptable blocks buildFingerprint) {first second : Block} (isFirst : first ∈ blocks)
    (isSecond : second ∈ blocks) {index : Nat} (inFirst : index ∈ first.range)
    (inSecond : index ∈ second.range) : first = second := by
  by_contra different
  have : Std.Symm fun first second : Block => Disjoint first.range second.range := ⟨fun _ _ apart => apart.symm⟩
  have apart := accepted.disjoint.forall isFirst isSecond different
  exact Set.disjoint_left.mp apart inFirst inSecond

def Block.addressOf (block : Block) (index : UInt32) : Nat :=
  (block.base.toNat + 8 * (index.toNat - block.firstIndex.toNat)) % 2 ^ 64

theorem toNat_add_slot {block : Block} {index : UInt32} (covers : index.toNat ∈ block.range) :
    (block.base.add ((index - block.firstIndex).toUInt64 * slotSize).toInt64).toNat = block.addressOf index := by
  have above : block.firstIndex ≤ index := UInt32.le_iff_toNat_le.mpr covers.1
  have slot : (index - block.firstIndex).toUInt64.toNat = index.toNat - block.firstIndex.toNat := by
    rw [UInt32.toNat_toUInt64, UInt32.toNat_sub_of_le _ _ above]
  have below := index.toNat_lt
  rw [Address.add, UInt64.toUInt64_toInt64, UInt64.toNat_add, UInt64.toNat_mul, slot, Block.addressOf]
  simp only [slotSize, UInt64.toNat_ofNat]
  omega

theorem resolve_eq_ok {blocks : List Block} {buildFingerprint : UInt64}
    (accepted : Acceptable blocks buildFingerprint) (sorting : Sorting blocks) (index : UInt32)
    (address : Address) :
    resolve { blocks := sorting.sorted, buildFingerprint } index = .ok address ↔
      ∃ block ∈ blocks, index.toNat ∈ block.range ∧ address.toNat = block.addressOf index := by
  rw [resolve, if_neg accepted.fingerprint]
  dsimp only
  split
  next none =>
    apply iff_of_false nofun
    rintro ⟨block, member, covers, _⟩
    have missed := List.find?_eq_none.mp none block (sorting.perm.mem_iff.mpr member)
    exact missed ((block.contains_iff index).mpr covers)
  next found some =>
    have member : found ∈ blocks := sorting.perm.mem_iff.mp (List.mem_of_find?_eq_some some)
    have contains : found.contains index = true := by simpa using List.find?_some some
    have covers : index.toNat ∈ found.range := (found.contains_iff index).mp contains
    rw [Except.ok.injEq, ← UInt64.toNat_inj, toNat_add_slot covers]
    constructor
    · intro same
      exact ⟨found, member, covers, same.symm⟩
    · rintro ⟨block, other, alsoCovers, same⟩
      rw [same, accepted.unique member other covers alsoCovers]

structure Answers (calls : List Call) (manager : ScriptGlobalManager) : Prop where
  accepts : ∀ blocks buildFingerprint sorting,
    (∃ configured, manager.configure blocks buildFingerprint sorting = .ok configured) ↔
      Acceptable blocks buildFingerprint
  rejects : ∀ blocks buildFingerprint sorting later, ¬Acceptable blocks buildFingerprint →
    run step manager (.configure blocks buildFingerprint sorting :: later) = run step manager later
  fingerprint : ∀ blocks buildFingerprint, InForce calls blocks buildFingerprint →
    manager.buildFingerprint = buildFingerprint
  noFingerprint : (∀ blocks buildFingerprint, ¬InForce calls blocks buildFingerprint) →
    manager.buildFingerprint = 0
  resolves : ∀ index address, manager.resolve index = .ok address ↔
    ∃ blocks buildFingerprint, InForce calls blocks buildFingerprint ∧
      ∃ block ∈ blocks, index.toNat ∈ block.range ∧ address.toNat = block.addressOf index
  unique : ∀ blocks buildFingerprint, InForce calls blocks buildFingerprint →
    ∀ first ∈ blocks, ∀ second ∈ blocks, ∀ index, index ∈ first.range → index ∈ second.range → first = second
  anyOrder : ∀ blocks other buildFingerprint (sorting : Sorting blocks) (sorting' : Sorting other),
    blocks.Perm other → step manager (.configure blocks buildFingerprint sorting) =
      step manager (.configure other buildFingerprint sorting')

/-- The manager is the table of the last acceptable configuration, after any calls. -/
theorem run_answers (calls : List Call) : Answers calls (run step {} calls) where
  accepts blocks buildFingerprint sorting := by
    constructor
    · rintro ⟨configured, same⟩
      exact (configure_eq_ok.mp same).1
    · intro accepted
      exact ⟨_, configure_eq_ok.mpr ⟨accepted, rfl⟩⟩
  rejects blocks buildFingerprint sorting later refused := by
    rcases step_configure (run step {} calls) blocks buildFingerprint sorting with ⟨accepted, _⟩ | ⟨_, same⟩
    · exact absurd accepted refused
    · rw [run_cons, same]
  fingerprint blocks buildFingerprint inForce := by
    obtain ⟨_, sorting, table⟩ := run_of_inForce inForce
    rw [table]
  noFingerprint none := by rw [run_of_not_inForce none]
  resolves index address := by
    by_cases some : ∃ blocks buildFingerprint, InForce calls blocks buildFingerprint
    · obtain ⟨blocks, buildFingerprint, inForce⟩ := some
      obtain ⟨accepted, sorting, table⟩ := run_of_inForce inForce
      rw [table, resolve_eq_ok accepted sorting]
      constructor
      · intro found
        exact ⟨blocks, buildFingerprint, inForce, found⟩
      · rintro ⟨others, otherFingerprint, alsoInForce, found⟩
        -- both are the table of the same run, up to order
        obtain ⟨_, sorting', table'⟩ := run_of_inForce alsoInForce
        have sorted : sorting.sorted = sorting'.sorted :=
          congrArg ScriptGlobalManager.blocks (table.symm.trans table')
        obtain ⟨block, member, covers⟩ := found
        rw [← sorting'.perm.mem_iff, ← sorted, sorting.perm.mem_iff] at member
        exact ⟨block, member, covers⟩
    · have none : ∀ blocks buildFingerprint, ¬InForce calls blocks buildFingerprint :=
        fun blocks buildFingerprint inForce => some ⟨blocks, buildFingerprint, inForce⟩
      rw [run_of_not_inForce none, resolve, if_pos rfl]
      exact iff_of_false nofun fun ⟨blocks, buildFingerprint, inForce, _⟩ => none _ _ inForce
  unique blocks buildFingerprint inForce first isFirst second isSecond index inFirst inSecond :=
    (run_of_inForce inForce).1.unique isFirst isSecond inFirst inSecond
  anyOrder blocks other buildFingerprint sorting sorting' same :=
    step_configure_of_perm _ same buildFingerprint sorting sorting'

end ScriptGlobalManager

end DevilzDen.Integrations.GTA5Enhanced
