import DevilzDen.Foundation.Table
import Mathlib.Data.List.Nodup
import Mathlib.Logic.Function.Basic

/-! Registries of objects that others own: a table of references under the keys that the objects had.

The owner may change an object, or destroy it, while it is registered.
-/

set_option autoImplicit false

namespace Foundation.Registry

variable {Key Ref Object : Type} [DecidableEq Key] (keyOf : Object → Key) (valid : Object → Prop)

/-- What is registered is there, valid, and has the key that it is found under. -/
def Agrees (heap : Ref → Option Object) (table : Table Key Ref) : Prop :=
  ∀ key ref, table.lookup key = some ref → ∃ object, heap ref = some object ∧ keyOf object = key ∧ valid object

def Registered (table : Table Key Ref) (ref : Ref) : Prop := ∃ key, table.lookup key = some ref

def Stays (before after : Option Object) : Prop :=
  ∃ object object', before = some object ∧ after = some object' ∧ keyOf object' = keyOf object ∧ valid object'

variable {keyOf valid} {heap : Ref → Option Object} {table : Table Key Ref}

namespace Agrees

theorem empty (heap : Ref → Option Object) : Agrees keyOf valid heap ∅ := fun _ _ found => by cases found

theorem insert (agrees : Agrees keyOf valid heap table) {ref : Ref} {object : Object} (live : heap ref = some object)
    (sound : valid object) : Agrees keyOf valid heap (table.insert (keyOf object) ref) := by
  intro key other found
  rw [Table.lookup_insert_eq] at found
  split at found
  next same =>
    cases found
    exact ⟨object, live, same.symm, sound⟩
  · exact agrees key other found

theorem erase (agrees : Agrees keyOf valid heap table) (key : Key) :
    Agrees keyOf valid heap (table.erase key) := by
  intro other ref found
  rw [Table.lookup_erase_eq] at found
  split at found
  · cases found
  · exact agrees other ref found

theorem live (agrees : Agrees keyOf valid heap table) {order : List Ref} (shown : table.Enumerates order) {ref : Ref}
    (member : ref ∈ order) : ∃ object, heap ref = some object ∧ table.lookup (keyOf object) = some ref ∧ valid object := by
  obtain ⟨key, found⟩ := Table.mem_values_iff.mp (shown.mem_iff.mp member)
  obtain ⟨object, live, rfl, sound⟩ := agrees key ref found
  exact ⟨object, live, found, sound⟩

theorem nodup (agrees : Agrees keyOf valid heap table) {order : List Ref} (shown : table.Enumerates order) :
    order.Nodup := by
  have keys : table.values.map (fun ref => (heap ref).map keyOf) = table.keys.map some := by
    simp only [Table.values, AList.keys, List.keys, List.map_map]
    apply List.map_congr_left
    intro entry member
    obtain ⟨object, live, under, -⟩ := agrees entry.1 entry.2 (AList.mem_lookup_iff.mpr member)
    simp [live, under]
  have distinct : (table.values.map fun ref => (heap ref).map keyOf).Nodup := by
    rw [keys]
    exact table.keys_nodup.map fun _ _ => Option.some.inj
  exact shown.nodup_iff.mpr distinct.of_map

variable [DecidableEq Ref]

theorem change (agrees : Agrees keyOf valid heap table) {ref : Ref} {after : Option Object}
    (stays : Registered table ref → Stays keyOf valid (heap ref) after) :
    Agrees keyOf valid (Function.update heap ref after) table := by
  intro key other found
  obtain ⟨object, live, under, sound⟩ := agrees key other found
  by_cases same : other = ref
  · subst same
    obtain ⟨before, object', here, there, kept, sound'⟩ := stays ⟨key, found⟩
    cases live.symm.trans here
    exact ⟨object', by rw [Function.update_self, there], kept.trans under, sound'⟩
  · exact ⟨object, by rw [Function.update_of_ne same, live], under, sound⟩

theorem stays (agrees : Agrees keyOf valid heap table) {ref : Ref} {after : Option Object}
    (next : Agrees keyOf valid (Function.update heap ref after) table) (registered : Registered table ref) :
    Stays keyOf valid (heap ref) after := by
  obtain ⟨key, found⟩ := registered
  obtain ⟨object, live, under, -⟩ := agrees key ref found
  obtain ⟨object', there, under', sound⟩ := next key ref found
  rw [Function.update_self] at there
  exact ⟨object, object', live, there, under'.trans under.symm, sound⟩

end Agrees

end Foundation.Registry
