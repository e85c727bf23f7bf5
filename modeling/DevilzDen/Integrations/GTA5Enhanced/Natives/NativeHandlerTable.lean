import DevilzDen.Backend.Memory.Pointer
import DevilzDen.Foundation.Run
import DevilzDen.Integrations.GTA5Enhanced.Natives.NativeHash

/-! The table of native handlers by index: three columns of one length.

Only the column of handlers is measured before the others are written or read,
so it is part of a table that the columns have the same length.
-/

set_option autoImplicit false

namespace DevilzDen.Integrations.GTA5Enhanced

open Backend Foundation

structure NativeHandlerTable where
  hashes : List NativeHash
  handlers : List Address
  validated : List Bool
  sameHashes : hashes.length = handlers.length
  sameValidated : validated.length = handlers.length

namespace NativeHandlerTable

def empty : NativeHandlerTable := ⟨[], [], [], rfl, rfl⟩

def reset (_table : NativeHandlerTable) (count : Nat) : NativeHandlerTable where
  hashes := List.replicate count {}
  handlers := List.replicate count 0
  validated := List.replicate count false
  sameHashes := by simp
  sameValidated := by simp

def clear (_table : NativeHandlerTable) : NativeHandlerTable := empty

def size (table : NativeHandlerTable) : Nat := table.handlers.length

/-- `Set`: whether the index is in the table, and the table it leaves. -/
def set (table : NativeHandlerTable) (index : UInt32) (runtimeHash : NativeHash) (handler : Address)
    (validated : Bool) : Bool × NativeHandlerTable :=
  if index.toNat ≥ table.handlers.length then (false, table)
  else
    (true, {
      hashes := table.hashes.set index.toNat runtimeHash
      handlers := table.handlers.set index.toNat handler
      validated := table.validated.set index.toNat validated
      sameHashes := by rw [List.length_set, List.length_set, table.sameHashes]
      sameValidated := by rw [List.length_set, List.length_set, table.sameValidated] })

def get (table : NativeHandlerTable) (index : UInt32) : Option Address :=
  match table.handlers[index.toNat]?, table.validated[index.toNat]? with
  | some handler, some true => if handler = 0 then none else some handler
  | _, _ => none

def runtimeHash (table : NativeHandlerTable) (index : UInt32) : Option NativeHash := table.hashes[index.toNat]?

/-! ## One call -/

theorem get_eq_some_iff {table : NativeHandlerTable} {index : UInt32} {handler : Address} :
    table.get index = some handler ↔ table.handlers[index.toNat]? = some handler ∧
      table.validated[index.toNat]? = some true ∧ handler ≠ 0 := by
  unfold get
  split
  next found valid =>
    rw [found, valid]
    split
    next null =>
      constructor
      · intro none
        cases none
      · rintro ⟨same, -, present⟩
        cases same
        exact absurd null present
    next present =>
      constructor
      · intro same
        cases same
        exact ⟨rfl, rfl, present⟩
      · rintro ⟨same, -, -⟩
        exact same
  next other =>
    constructor
    · intro none
      cases none
    · rintro ⟨found, valid, -⟩
      exact absurd valid (other handler found)

def written (table : NativeHandlerTable) (index : UInt32) (handler : Address) (validated : Bool) : Option Address :=
  if index.toNat < table.size ∧ validated = true ∧ handler ≠ 0 then some handler else none

theorem get_set_self (table : NativeHandlerTable) (index : UInt32) (runtimeHash : NativeHash) (handler : Address)
    (validated : Bool) :
    (table.set index runtimeHash handler validated).2.get index = table.written index handler validated := by
  unfold set written size
  by_cases inside : index.toNat < table.handlers.length
  · have inside' : index.toNat < table.validated.length := by rw [table.sameValidated]; exact inside
    rw [if_neg (Nat.not_le.mpr inside), get]
    cases validated with
    | false => simp [inside, inside']
    | true => by_cases null : handler = 0 <;> simp [inside, inside', null]
  · have absent : table.handlers[index.toNat]? = none := List.getElem?_eq_none (Nat.not_lt.mp inside)
    rw [if_pos (Nat.not_lt.mp inside), get, absent]
    simp [inside]

theorem get_set_of_ne (table : NativeHandlerTable) {index other : UInt32} (differs : other ≠ index)
    (runtimeHash : NativeHash) (handler : Address) (validated : Bool) :
    (table.set index runtimeHash handler validated).2.get other = table.get other := by
  unfold set
  split
  · rfl
  · have apart : index.toNat ≠ other.toNat := fun same => differs (UInt32.toNat_inj.mp same.symm)
    rw [get, get, List.getElem?_set_ne apart, List.getElem?_set_ne apart]

theorem get_reset (table : NativeHandlerTable) (count : Nat) (index : UInt32) : (table.reset count).get index = none := by
  cases found : (table.reset count).get index with
  | none => rfl
  | some handler =>
    obtain ⟨-, valid, -⟩ := get_eq_some_iff.mp found
    have unvalidated := List.eq_of_mem_replicate (List.mem_of_getElem? valid)
    cases unvalidated

end NativeHandlerTable

end DevilzDen.Integrations.GTA5Enhanced
