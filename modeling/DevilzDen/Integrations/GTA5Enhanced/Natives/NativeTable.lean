import DevilzDen.Backend.Memory.Pointer
import DevilzDen.Foundation.Table
import DevilzDen.Integrations.GTA5Enhanced.Natives.NativeHash

/-! The table of registered native handlers, and the cache of resolved ones. -/

set_option autoImplicit false

namespace DevilzDen.Integrations.GTA5Enhanced

open Backend Foundation

structure NativeRegistration where
  hash : NativeHash
  handler : Address
  validated : Bool := false
  callCount : UInt64 := 0
  deriving DecidableEq, Repr

structure NativeTable where
  entries : Table NativeHash NativeRegistration := ∅

namespace NativeTable

def register (table : NativeTable) (registration : NativeRegistration) : Result Unit × NativeTable :=
  if registration.hash.value = 0 ∨ registration.handler = 0 then
    (.error (Error.runtime "Native registration contains an invalid hash or handler"), table)
  else if (table.entries.lookup registration.hash).any fun existing =>
      existing.handler ≠ registration.handler then
    (.error ((Error.runtime "Native table hash collision").withContext "Hash"
      (decimal registration.hash.value.toNat)), table)
  else (.ok (), { entries := table.entries.insert registration.hash registration })

/-- Registrations are made until one is rejected; those before it stay. -/
def registerBatch : NativeTable → List NativeRegistration → Result Unit × NativeTable
  | table, [] => (.ok (), table)
  | table, registration :: later =>
      match table.register registration with
      | (.error error, rejected) => (.error error, rejected)
      | (.ok _, registered) => registerBatch registered later

def find (table : NativeTable) (runtimeHash : NativeHash) : Option NativeRegistration :=
  table.entries.lookup runtimeHash

def clear (_table : NativeTable) : NativeTable := {}

/-- A registration either leaves the table as it is, or replaces what was found
under its hash, which then had the same handler. -/
theorem register_cases (table : NativeTable) (registration : NativeRegistration) :
    (table.register registration).2 = table ∨
      registration.hash.value ≠ 0 ∧
      (∀ existing, table.find registration.hash = some existing → existing.handler = registration.handler) ∧
      ∀ hash, (table.register registration).2.find hash =
        if hash = registration.hash then some registration else table.find hash := by
  unfold register
  split
  · exact Or.inl rfl
  next valid =>
    split
    · exact Or.inl rfl
    next free =>
      refine Or.inr ⟨(not_or.mp valid).1, fun existing found => ?_, fun hash => Table.lookup_insert_eq _ _ _ _⟩
      rw [find] at found
      simpa [found] using free

/-- The registrations a batch makes: those before the first rejected one. -/
def accepted : NativeTable → List NativeRegistration → List NativeRegistration
  | _, [] => []
  | table, registration :: later =>
      match table.register registration with
      | (.error _, _) => []
      | (.ok _, registered) => registration :: accepted registered later

theorem find_register {table registered : NativeTable} {registration : NativeRegistration}
    (made : table.register registration = (.ok (), registered)) (hash : NativeHash) :
    registered.find hash = if registration.hash = hash then some registration else table.find hash := by
  unfold register at made
  split at made
  · cases made
  · split at made
    · cases made
    · cases made
      rw [find, Table.lookup_insert_eq]
      exact if_congr eq_comm rfl rfl

theorem register_error {table rejected : NativeTable} {registration : NativeRegistration} {error : Error}
    (refused : table.register registration = (.error error, rejected)) : rejected = table := by
  rcases table.register_cases registration with kept | ⟨_, _, replaced⟩
  · rw [refused] at kept
    exact kept
  · unfold register at refused
    split at refused
    · exact (congrArg Prod.snd refused).symm
    · split at refused
      · exact (congrArg Prod.snd refused).symm
      · cases refused

theorem find_registerBatch (table : NativeTable) (registrations : List NativeRegistration)
    (hash : NativeHash) :
    (table.registerBatch registrations).2.find hash =
      ((table.accepted registrations).reverse.find? fun made => made.hash = hash).or (table.find hash) := by
  -- from the front: later registrations hide the first one under its own hash
  induction registrations generalizing table with
  | nil => rfl
  | cons registration later ih =>
    rw [registerBatch, accepted]
    split
    next refused => rw [register_error refused]; rfl
    next registered made =>
      rw [ih, find_register made, List.reverse_cons, List.find?_append, Option.or_assoc]
      by_cases same : registration.hash = hash <;> simp [same]

theorem registerBatch_invariant (holds : NativeTable → Prop)
    (preserved : ∀ table registration, holds table → holds (table.register registration).2)
    {table : NativeTable} (start : holds table) (registrations : List NativeRegistration) :
    holds (table.registerBatch registrations).2 := by
  induction registrations generalizing table with
  | nil => exact start
  | cons registration later ih =>
    have first := preserved table registration start
    rw [registerBatch]
    split
    next same => rw [same] at first; exact first
    next same => rw [same] at first; exact ih first

theorem registerBatch_handler {table : NativeTable} {hash : NativeHash} {handler : Address}
    (found : ∃ existing, table.find hash = some existing ∧ existing.handler = handler)
    (registrations : List NativeRegistration) :
    ∃ after, (table.registerBatch registrations).2.find hash = some after ∧ after.handler = handler := by
  refine registerBatch_invariant (fun table => ∃ existing, table.find hash = some existing ∧
    existing.handler = handler) (fun table registration before => ?_) found registrations
  obtain ⟨existing, found, same⟩ := before
  rcases table.register_cases registration with kept | ⟨_, free, replaced⟩
  · rw [kept]
    exact ⟨existing, found, same⟩
  · rw [replaced]
    by_cases atHash : hash = registration.hash
    · subst atHash
      exact ⟨registration, if_pos rfl, (free existing found).symm.trans same⟩
    · exact ⟨existing, (if_neg atHash).trans found, same⟩

theorem registerBatch_nonzero {table : NativeTable}
    (start : ∀ hash registration, table.find hash = some registration → hash.value ≠ 0)
    (registrations : List NativeRegistration) :
    ∀ hash registration, (table.registerBatch registrations).2.find hash = some registration →
      hash.value ≠ 0 := by
  refine registerBatch_invariant (fun table => ∀ hash registration,
    table.find hash = some registration → hash.value ≠ 0)
    (fun table registration nonzero hash other found => ?_) start registrations
  rcases table.register_cases registration with kept | ⟨present, _, replaced⟩
  · rw [kept] at found
    exact nonzero hash other found
  · rw [replaced] at found
    split at found
    next atHash => exact atHash ▸ present
    next => exact nonzero hash other found

theorem registerBatch_singleton (table : NativeTable) (registration : NativeRegistration) :
    (table.registerBatch [registration]).2 = (table.register registration).2 := by
  rw [registerBatch]
  split
  next same => rw [same]
  next same => rw [same]; rfl

end NativeTable

structure NativeCache where
  entries : Table NativeHash NativeRegistration := ∅

namespace NativeCache

def store (cache : NativeCache) (registration : NativeRegistration) : NativeCache where
  entries := cache.entries.insert registration.hash registration

def find (cache : NativeCache) (hash : NativeHash) : Option NativeRegistration := cache.entries.lookup hash

def invalidate (cache : NativeCache) (hash : NativeHash) : NativeCache where
  entries := cache.entries.erase hash

def clear (_cache : NativeCache) : NativeCache := {}

theorem find_store (cache : NativeCache) (registration : NativeRegistration) (hash : NativeHash) :
    (cache.store registration).find hash =
      if hash = registration.hash then some registration else cache.find hash :=
  Table.lookup_insert_eq _ _ _ _

end NativeCache

end DevilzDen.Integrations.GTA5Enhanced
