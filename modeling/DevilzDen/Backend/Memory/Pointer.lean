import DevilzDen.Backend.Error
import Mathlib.Data.List.GetD

/-! Addresses, byte memory and ranges of the 64-bit process.

Address arithmetic wraps at 2^64, as `std::uintptr_t` does and as signed
offsets do on the supported compiler.
-/

set_option autoImplicit false

namespace DevilzDen.Backend

abbrev Address := UInt64

abbrev Memory := Address → UInt8

namespace Memory

def read (memory : Memory) (address : Address) (size : Nat) : List UInt8 :=
  (List.range size).map fun index => memory (address + UInt64.ofNat index)

def write (memory : Memory) (address : Address) (bytes : List UInt8) : Memory := fun target =>
  bytes.getD (target - address).toNat (memory target)

@[simp] theorem length_read (memory : Memory) (address : Address) (size : Nat) :
    (memory.read address size).length = size := by simp [read]

theorem read_add (memory : Memory) (address : Address) (first second : Nat) :
    memory.read address (first + second) =
      memory.read address first ++ memory.read (address + UInt64.ofNat first) second := by
  rw [read, List.range_add, List.map_append, List.map_map, read, read]
  refine congrArg (_ ++ ·) (List.map_congr_left fun index _ => ?_)
  rw [Function.comp, UInt64.ofNat_add, UInt64.add_assoc]

theorem take_drop_read (memory : Memory) (address : Address) {skipped taken size : Nat}
    (fits : skipped + taken ≤ size) :
    ((memory.read address size).drop skipped).take taken =
      memory.read (address + UInt64.ofNat skipped) taken := by
  obtain ⟨rest, rfl⟩ := Nat.exists_eq_add_of_le fits
  rw [Nat.add_assoc, read_add, List.drop_left' (length_read _ _ _), read_add,
    List.take_left' (length_read _ _ _)]

theorem write_inside {memory : Memory} {address target : Address} {bytes : List UInt8}
    (inside : (target - address).toNat < bytes.length) :
    memory.write address bytes target = bytes[(target - address).toNat] :=
  List.getD_eq_getElem _ _ inside

theorem write_outside {memory : Memory} {address target : Address} {bytes : List UInt8}
    (outside : bytes.length ≤ (target - address).toNat) :
    memory.write address bytes target = memory target :=
  List.getD_eq_default _ _ outside

theorem write_write {memory : Memory} {address : Address} {first second : List UInt8}
    (length : first.length = second.length) :
    (memory.write address first).write address second = memory.write address second := by
  funext target
  by_cases inside : (target - address).toNat < second.length
  · rw [write_inside inside, write_inside inside]
  · rw [write_outside (Nat.le_of_not_lt inside), write_outside (Nat.le_of_not_lt inside),
      write_outside (length ▸ Nat.le_of_not_lt inside)]

theorem write_read (memory : Memory) (address : Address) (size : Nat) :
    memory.write address (memory.read address size) = memory := by
  funext target
  by_cases inside : (target - address).toNat < (memory.read address size).length
  · rw [write_inside inside]
    simp [read, UInt64.add_comm address]
  · exact write_outside (Nat.le_of_not_lt inside)

/-- The block at the first address has no byte of the block at the second. -/
def Apart (address : Address) (size : Nat) (other : Address) (taken : Nat) : Prop :=
  ∀ index < size, taken ≤ (address + UInt64.ofNat index - other).toNat

instance decidableApart (address : Address) (size : Nat) (other : Address) (taken : Nat) :
    Decidable (Apart address size other taken) := inferInstanceAs (Decidable (∀ _ < _, _ ≤ _))

theorem Apart.outside {address other target : Address} {size taken : Nat} (apart : Apart address size other taken)
    (inside : (target - address).toNat < size) : taken ≤ (target - other).toNat := by
  have beyond := apart _ inside
  rwa [UInt64.ofNat_toNat, UInt64.add_comm, UInt64.sub_add_cancel] at beyond

theorem write_comm {memory : Memory} {address other : Address} {first second : List UInt8}
    (apart : Apart address first.length other second.length) :
    (memory.write other second).write address first = (memory.write address first).write other second := by
  funext target
  by_cases inside : (target - address).toNat < first.length
  · rw [write_inside inside, write_outside (apart.outside inside), write_inside inside]
  · rw [write_outside (Nat.le_of_not_lt inside)]
    by_cases inner : (target - other).toNat < second.length
    · rw [write_inside inner, write_inside inner]
    · rw [write_outside (Nat.le_of_not_lt inner), write_outside (Nat.le_of_not_lt inner),
        write_outside (Nat.le_of_not_lt inside)]

theorem read_write_apart {memory : Memory} {address other : Address} {bytes : List UInt8} {taken : Nat}
    (apart : Apart address bytes.length other taken) :
    (memory.write address bytes).read other taken = memory.read other taken := by
  refine List.map_congr_left fun index member => write_outside ?_
  by_contra inside
  have beyond := apart.outside (Nat.lt_of_not_le inside)
  rw [UInt64.add_comm, UInt64.add_sub_cancel, UInt64.toNat_ofNat'] at beyond
  exact absurd (List.mem_range.mp member) (Nat.not_lt.mpr (beyond.trans (Nat.mod_le _ _)))

theorem read_write {memory : Memory} {address : Address} {bytes : List UInt8}
    (fits : bytes.length ≤ 2 ^ 64) : (memory.write address bytes).read address bytes.length = bytes := by
  apply List.ext_getElem (length_read _ _ _)
  intro index _ inside
  have small : index < 2 ^ 64 := Nat.lt_of_lt_of_le inside fits
  -- the difference undoes the addition even where the block wraps around
  have offset : (address + UInt64.ofNat index - address).toNat = index := by
    rw [UInt64.add_comm, UInt64.add_sub_cancel, UInt64.toNat_ofNat_of_lt' small]
  rw [← offset] at inside
  simp only [read, List.getElem_map, List.getElem_range, write_inside inside, offset]

end Memory

theorem toNat_add_ofNat {address : Address} {index : Nat} (fits : address.toNat + index < 2 ^ 64) :
    (address + UInt64.ofNat index).toNat = address.toNat + index := by
  rw [UInt64.toNat_add, UInt64.toNat_ofNat', Nat.mod_eq_of_lt (by omega : index < 2 ^ 64), Nat.mod_eq_of_lt fits]

theorem toInt_toInt64_eq (word : UInt64) : word.toInt64.toInt =
    if 2 * word.toNat < 2 ^ 64 then (word.toNat : Int) else word.toNat - (2 ^ 64 : Nat) :=
  BitVec.toInt_eq_toNat_cond _

theorem toInt_eq (word : Int64) : word.toInt =
    if 2 * word.toUInt64.toNat < 2 ^ 64 then (word.toUInt64.toNat : Int)
    else word.toUInt64.toNat - (2 ^ 64 : Nat) :=
  BitVec.toInt_eq_toNat_cond _

def littleEndian (bytes : List UInt8) : Nat :=
  bytes.foldr (fun byte value => byte.toNat + 256 * value) 0

theorem littleEndian_lt (bytes : List UInt8) : littleEndian bytes < 256 ^ bytes.length := by
  induction bytes with
  | nil => decide
  | cons byte later ih =>
    have small := byte.toNat_lt
    have unfolded : littleEndian (byte :: later) = byte.toNat + 256 * littleEndian later := rfl
    rw [unfolded, List.length_cons, Nat.pow_succ]
    omega

def Memory.qword (memory : Memory) (address : Address) : UInt64 :=
  UInt64.ofNat (littleEndian (memory.read address 8))

def littleEndianBytes (width value : Nat) : List UInt8 :=
  (List.range width).map fun index => UInt8.ofNat (value / 256 ^ index)

structure MemoryRange where
  first : Address := 0
  size : UInt64 := 0
  deriving DecidableEq, Repr

namespace MemoryRange

def last (range : MemoryRange) : Address := range.first + range.size

def empty (range : MemoryRange) : Bool := range.first == 0 || range.size == 0

def contains (range : MemoryRange) (address : Address) (bytes : UInt64 := 1) : Bool :=
  !range.empty && address ≥ range.first && bytes ≤ range.size && address ≤ range.last - bytes

def bytes (range : MemoryRange) (memory : Memory) : List UInt8 :=
  if range.empty then [] else memory.read range.first range.size.toNat

/-- A block of bytes that lies entirely in a range, of which no end wraps. -/
def Covers (range : MemoryRange) (address : Address) (bytes : Nat) : Prop :=
  range.first.toNat ≤ address.toNat ∧ address.toNat + bytes ≤ range.first.toNat + range.size.toNat

/-- The end of a range may be 2^64, which is 0 in 64 bits. -/
theorem contains_iff {range : MemoryRange} (present : 0 < range.first.toNat)
    (fits : range.first.toNat + range.size.toNat ≤ 2 ^ 64) {bytes : UInt64} (positive : 0 < bytes.toNat)
    (address : Address) : range.contains address bytes = true ↔ range.Covers address bytes.toNat := by
  have small := range.size.toNat_lt
  have below := address.toNat_lt
  have first : range.first ≠ 0 := fun null => by simp [null] at present
  -- the last place for the block, where the range is long enough for it
  have last (room : bytes.toNat ≤ range.size.toNat) :
      (range.last - bytes).toNat = range.first.toNat + range.size.toNat - bytes.toNat := by
    rw [last, UInt64.toNat_sub, UInt64.toNat_add]
    omega
  simp only [contains, empty, Covers, Bool.and_eq_true, Bool.not_eq_true', Bool.or_eq_false_iff,
    beq_eq_false_iff_ne, decide_eq_true_eq, ge_iff_le, UInt64.le_iff_toNat_le]
  constructor
  · intro inside
    obtain ⟨⟨⟨_, after⟩, room⟩, before⟩ := inside
    rw [last room] at before
    exact ⟨after, by omega⟩
  · intro covered
    obtain ⟨after, before⟩ := covered
    have room : bytes.toNat ≤ range.size.toNat := by omega
    have size : range.size ≠ 0 := fun none => by
      rw [none] at room
      exact absurd room (by simp; omega)
    exact ⟨⟨⟨⟨first, size⟩, after⟩, room⟩, by rw [last room]; omega⟩

end MemoryRange

namespace Address

def add (pointer : Address) (offset : Int64) : Address := pointer + offset.toUInt64

def inRange (pointer : Address) (range : MemoryRange) (bytes : UInt64 := 1) : Bool :=
  range.contains pointer bytes

/-- The target of a RIP-relative operand: a signed 32-bit displacement read at
an offset from the instruction, counted from the instruction's end. -/
def resolveRelative32 (memory : Memory) (pointer : Address) (displacementOffset : Int64)
    (instructionSize : UInt64) (readableRange : MemoryRange) : Option Address :=
  let displacementAddress := pointer.add displacementOffset
  if !displacementAddress.inRange readableRange 4 then none
  else
    let displacement : Int32 :=
      (UInt32.ofNat (littleEndian (memory.read displacementAddress 4))).toInt32
    let target := pointer.add (instructionSize.toInt64 + displacement.toInt64)
    if target ≠ 0 then some target else none

end Address

end DevilzDen.Backend
