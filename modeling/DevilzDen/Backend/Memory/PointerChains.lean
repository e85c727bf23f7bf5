import DevilzDen.Backend.Memory.Pointer
import DevilzDen.Foundation.Reading

/-! Pointer chains: where they lead, and the bytes that are read on the way.

A hop adds a signed offset and loads the pointer that is there, so the next hop
starts at whatever the memory holds. The loop is a program over single bytes.
-/

set_option autoImplicit false

namespace DevilzDen.Backend

open Foundation

namespace Address

def loadPointer (address : Address) : Reading Address UInt8 Address :=
  (Reading.block ((List.range 8).map fun index => address + UInt64.ofNat index)).map fun bytes =>
    UInt64.ofNat (littleEndian bytes)

def followLoop (readableRange : MemoryRange) : Address → List Int64 → Reading Address UInt8 (Option Address)
  | current, [] => .done (some current)
  | current, offset :: later =>
      let cell := current.add offset
      if !cell.inRange readableRange 8 then .done none
      else (loadPointer cell).bind fun next => if next = 0 then .done none else followLoop readableRange next later

/-- `Follow`; the offsets are an array of at least `count` of them, or null. -/
def follow (pointer : Address) (offsets : Option (List Int64)) (count : Nat) (readableRange : MemoryRange) :
    Reading Address UInt8 (Option Address) :=
  if offsets.isNone ∧ count ≠ 0 then .done none
  else followLoop readableRange pointer ((offsets.getD []).take count)

/-- Hop by hop, the cell lies in the range and holds a pointer that is not null. -/
inductive Hops (memory : Memory) (range : MemoryRange) : Address → List Int64 → Address → Prop where
  | start (pointer : Address) : Hops memory range pointer [] pointer
  | hop {pointer target : Address} {offset : Int64} {later : List Int64}
      (inside : range.Covers (pointer.add offset) 8) (present : memory.qword (pointer.add offset) ≠ 0)
      (rest : Hops memory range (memory.qword (pointer.add offset)) later target) :
      Hops memory range pointer (offset :: later) target

theorem value_loadPointer (memory : Memory) (address : Address) :
    Reading.value memory (loadPointer address) = memory.qword address := by
  rw [loadPointer, Reading.value_map, Reading.value_block, List.map_map]
  rfl

theorem all_loadPointer {range : MemoryRange} (fits : range.first.toNat + range.size.toNat ≤ 2 ^ 64)
    {cell : Address} (covered : range.Covers cell 8) :
    (loadPointer cell).All fun address => range.Covers address 1 := by
  refine Program.all_bind (Reading.all_block fun address member => ?_) fun _ => trivial
  obtain ⟨index, below, rfl⟩ := List.mem_map.mp member
  rw [List.mem_range] at below
  obtain ⟨after, before⟩ := covered
  have exact_ : (cell + UInt64.ofNat index).toNat = cell.toNat + index := toNat_add_ofNat (by omega)
  rw [MemoryRange.Covers, exact_]
  omega

section Follow

variable {range : MemoryRange} (present : 0 < range.first.toNat)
  (fits : range.first.toNat + range.size.toNat ≤ 2 ^ 64)

include present fits

theorem inRange_iff (cell : Address) : cell.inRange range 8 = true ↔ range.Covers cell 8 :=
  MemoryRange.contains_iff present fits (by decide) cell

theorem value_followLoop_iff (memory : Memory) (offsets : List Int64) (pointer target : Address) :
    Reading.value memory (followLoop range pointer offsets) = some target ↔
      Hops memory range pointer offsets target := by
  induction offsets generalizing pointer with
  | nil =>
    rw [followLoop, Reading.value_done, Option.some.injEq]
    constructor
    · rintro rfl
      exact .start pointer
    · intro hops
      cases hops
      rfl
  | cons offset later ih =>
    have inside_iff := inRange_iff present fits (pointer.add offset)
    rw [followLoop]
    split
    next outside =>
      rw [Reading.value_done]
      refine ⟨nofun, fun hops => ?_⟩
      cases hops with
      | hop inside => simp [inside_iff.mpr inside] at outside
    next inside =>
      rw [Reading.value_bind, value_loadPointer]
      have covered := inside_iff.mp (by simpa using inside)
      split
      next null =>
        rw [Reading.value_done]
        refine ⟨nofun, fun hops => ?_⟩
        cases hops with
        | hop _ present => exact absurd null present
      next loaded =>
        rw [ih]
        constructor
        · exact fun rest => .hop covered loaded rest
        · intro hops
          cases hops with
          | hop _ _ rest => exact rest

theorem all_followLoop (offsets : List Int64) (pointer : Address) :
    (followLoop range pointer offsets).All fun address => range.Covers address 1 := by
  induction offsets generalizing pointer with
  | nil => trivial
  | cons offset later ih =>
    rw [followLoop]
    split
    · trivial
    next inside =>
      have covered := (inRange_iff present fits (pointer.add offset)).mp (by simpa using inside)
      apply Program.all_bind (all_loadPointer fits covered)
      intro next
      split
      · trivial
      · exact ih next

end Follow

/-- A chain of any length leads to where its hops lead, and fails where one of them
fails; whatever the pointers on the way are, only bytes of the range are read. -/
theorem follow_hops (memory : Memory) (pointer : Address) (offsets : List Int64) (range : MemoryRange)
    (present : 0 < range.first.toNat) (fits : range.first.toNat + range.size.toNat ≤ 2 ^ 64) :
    (∀ target, Reading.value memory (follow pointer (some offsets) offsets.length range) = some target ↔
      Hops memory range pointer offsets target) ∧
    ∀ address ∈ Reading.footprint memory (follow pointer (some offsets) offsets.length range),
      range.Covers address 1 := by
  have loop : follow pointer (some offsets) offsets.length range = followLoop range pointer offsets := by
    simp [follow]
  rw [loop]
  refine ⟨value_followLoop_iff present fits memory offsets pointer, ?_⟩
  exact Reading.forall_footprint (all_followLoop present fits offsets pointer)

/-- The last cell of a range that ends at 2^64. -/
theorem follow_hops_last_cell :
    Reading.value (fun _ => 0xFF) (follow 0xFFFFFFFFFFFFFFF0 (some [8]) 1 ⟨0xFFFFFFFFFFFFF000, 0x1000⟩) =
      some 0xFFFFFFFFFFFFFFFF :=
  ((follow_hops (fun _ => 0xFF) 0xFFFFFFFFFFFFFFF0 [8] ⟨0xFFFFFFFFFFFFF000, 0x1000⟩
    (by decide) (by decide)).1 _).mpr (.hop ⟨by decide, by decide⟩ (by decide) (.start _))

end Address

end DevilzDen.Backend
