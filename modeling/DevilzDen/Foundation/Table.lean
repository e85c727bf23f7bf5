import Mathlib.Algebra.GroupWithZero.Nat
import Mathlib.Algebra.Order.BigOperators.Group.List
import Mathlib.Algebra.Order.Group.Nat
import Mathlib.Data.List.AList

/-! Finite tables: one value for each key, over any key type with decidable equality.

Lookup, insertion and erasure are those of `AList`. This file adds conditional
erasure, insertion of many values, sums over the values, and what an iteration over an unordered
container may show: the values in some order that no operation promises.
-/

set_option autoImplicit false

namespace Foundation

variable {κ ν : Type}

abbrev Table (κ ν : Type) := AList fun _ : κ => ν

namespace Table

def size (table : Table κ ν) : Nat := table.entries.length

def values (table : Table κ ν) : List ν := table.entries.map (·.2)

/-- An order in which an iteration over the table may meet its values. -/
def Enumerates (table : Table κ ν) (order : List ν) : Prop := order.Perm table.values

def eraseIf (table : Table κ ν) (selected : κ → ν → Bool) : Table κ ν where
  entries := table.entries.filter fun entry => !selected entry.1 entry.2
  nodupKeys := table.nodupKeys.sublist List.filter_sublist

@[simp] theorem values_empty : values (∅ : Table κ ν) = [] := rfl

theorem length_values (table : Table κ ν) : table.values.length = table.size := by
  simp [values, size]

theorem enumerates_values (table : Table κ ν) : table.Enumerates table.values := List.Perm.refl _

theorem Enumerates.mem_iff {table : Table κ ν} {order : List ν} (shown : table.Enumerates order)
    {value : ν} : value ∈ order ↔ value ∈ table.values := List.Perm.mem_iff shown

variable [DecidableEq κ]

theorem mem_values_iff {table : Table κ ν} {value : ν} :
    value ∈ table.values ↔ ∃ key, table.lookup key = some value := by
  simp only [values, List.mem_map]
  constructor
  · rintro ⟨⟨key, found⟩, member, rfl⟩
    exact ⟨key, AList.mem_lookup_iff.mpr member⟩
  · rintro ⟨key, found⟩
    exact ⟨⟨key, value⟩, AList.mem_lookup_iff.mp found, rfl⟩

@[simp] theorem lookup_eraseIf (table : Table κ ν) (selected : κ → ν → Bool) (key : κ) :
    (table.eraseIf selected).lookup key = (table.lookup key).filter fun value => !selected key value := by
  apply Option.ext
  intro value
  rw [Option.filter_eq_some_iff, ← Option.mem_def, ← Option.mem_def, AList.mem_lookup_iff,
    AList.mem_lookup_iff]
  simp [eraseIf]

theorem lookup_insert_eq (table : Table κ ν) (key other : κ) (value : ν) :
    (table.insert key value).lookup other = if other = key then some value else table.lookup other := by
  split
  next same => rw [same, AList.lookup_insert]
  next different => rw [AList.lookup_insert_ne different]

theorem lookup_erase_eq (table : Table κ ν) (key other : κ) :
    (table.erase key).lookup other = if other = key then none else table.lookup other := by
  split
  next same => rw [same, AList.lookup_erase]
  next different => rw [AList.lookup_erase_ne different]

def insertAll {ι : Type} (keyOf : ι → κ) (valueOf : ι → ν) (table : Table κ ν) (inputs : List ι) : Table κ ν :=
  inputs.foldl (fun filled input => filled.insert (keyOf input) (valueOf input)) table

theorem lookup_insertAll {ι : Type} (keyOf : ι → κ) (valueOf : ι → ν) (table : Table κ ν) (inputs : List ι)
    (key : κ) :
    (∃ input ∈ inputs, key = keyOf input ∧
        (table.insertAll keyOf valueOf inputs).lookup key = some (valueOf input)) ∨
      (∀ input ∈ inputs, key ≠ keyOf input) ∧
        (table.insertAll keyOf valueOf inputs).lookup key = table.lookup key := by
  induction inputs generalizing table with
  | nil => exact .inr ⟨nofun, rfl⟩
  | cons first later ih =>
    have split : table.insertAll keyOf valueOf (first :: later) =
        insertAll keyOf valueOf (table.insert (keyOf first) (valueOf first)) later := rfl
    rw [split]
    rcases ih (table.insert (keyOf first) (valueOf first)) with ⟨input, member, same, found⟩ | ⟨apart, kept⟩
    · exact .inl ⟨input, List.mem_cons_of_mem first member, same, found⟩
    · rw [lookup_insert_eq] at kept
      by_cases same : key = keyOf first
      · rw [if_pos same] at kept
        exact .inl ⟨first, List.mem_cons_self, same, kept⟩
      · rw [if_neg same] at kept
        exact .inr ⟨List.forall_mem_cons.mpr ⟨same, apart⟩, kept⟩

theorem values_insert_of_absent {table : Table κ ν} {key : κ} (absent : table.lookup key = none) (value : ν) :
    values (table.insert key value) = value :: table.values := by
  rw [values, AList.entries_insert_of_notMem (AList.lookup_eq_none.mp absent)]
  rfl

theorem values_erase_perm {table : Table κ ν} {key : κ} {value : ν} (found : table.lookup key = some value) :
    (value :: values (table.erase key)).Perm table.values := by
  have listed : key ∈ table.entries.keys := AList.lookup_isSome.mp (by rw [found]; rfl)
  obtain ⟨held, before, after, _, split, erased⟩ := List.exists_of_kerase listed
  have same : held = value := by
    have member : (⟨key, held⟩ : Sigma fun _ : κ => ν) ∈ table.entries := by
      rw [split]
      exact List.mem_append_right _ List.mem_cons_self
    exact Option.some.inj ((AList.mem_lookup_iff.mpr member).symm.trans found)
  have rest : (table.erase key).entries = before ++ after := erased
  simp only [values, split, rest, same, List.map_append, List.map_cons]
  exact List.perm_middle.symm

theorem size_insert_of_absent {table : Table κ ν} {key : κ} (absent : table.lookup key = none) (value : ν) :
    size (table.insert key value) = table.size + 1 := by
  rw [← length_values, values_insert_of_absent absent, List.length_cons, length_values]

theorem map_values_eq_keys (table : Table κ ν) (keyOf : ν → κ)
    (keyed : ∀ key value, table.lookup key = some value → key = keyOf value) :
    table.values.map keyOf = table.keys := by
  simp only [values, AList.keys, List.keys, List.map_map]
  apply List.map_congr_left
  rintro ⟨key, value⟩ member
  exact (keyed key value (AList.mem_lookup_iff.mpr member)).symm

/-- An enumeration meets each key once, where the values themselves determine their keys. -/
theorem Enumerates.keys_nodup {table : Table κ ν} {order : List ν} (shown : table.Enumerates order)
    (keyOf : ν → κ) (keyed : ∀ key value, table.lookup key = some value → key = keyOf value) :
    (order.map keyOf).Nodup := by
  rw [(shown.map keyOf).nodup_iff, map_values_eq_keys table keyOf keyed]
  exact table.keys_nodup

theorem values_nodup (table : Table κ ν) (keyOf : ν → κ)
    (keyed : ∀ key value, table.lookup key = some value → key = keyOf value) :
    table.values.Nodup :=
  List.Nodup.of_map keyOf ((enumerates_values table).keys_nodup keyOf keyed)

/-- Two tables that hold the same values under keys of their own enumerate the same list up to order. -/
theorem values_perm {κ' : Type} [DecidableEq κ'] (first : Table κ ν) (second : Table κ' ν)
    (firstKey : ν → κ) (secondKey : ν → κ')
    (firstKeyed : ∀ key value, first.lookup key = some value → key = firstKey value)
    (secondKeyed : ∀ key value, second.lookup key = some value → key = secondKey value)
    (same : ∀ value, first.lookup (firstKey value) = some value ↔
      second.lookup (secondKey value) = some value) :
    first.values.Perm second.values := by
  -- both enumerations are free of duplicates, so membership decides
  rw [List.perm_ext_iff_of_nodup (first.values_nodup firstKey firstKeyed)
    (second.values_nodup secondKey secondKeyed)]
  intro value
  rw [mem_values_iff, mem_values_iff]
  constructor
  · rintro ⟨key, found⟩
    exact ⟨_, (same value).mp (firstKeyed key value found ▸ found)⟩
  · rintro ⟨key, found⟩
    exact ⟨_, (same value).mpr (secondKeyed key value found ▸ found)⟩

theorem map_values_perm {ν' α : Type} {first : Table κ ν} {second : Table κ ν'} {view : ν → α} {view' : ν' → α}
    (same : ∀ key, (first.lookup key).map view = (second.lookup key).map view') :
    (first.values.map view).Perm (second.values.map view') := by
  have shown {μ : Type} (table : Table κ μ) (look : μ → α) :
      (table.values.map look).map some = table.keys.map fun key => (table.lookup key).map look := by
    simp only [values, AList.keys, List.keys, List.map_map]
    apply List.map_congr_left
    rintro ⟨key, value⟩ member
    have held : table.lookup key = some value := AList.mem_lookup_iff.mpr member
    simp [held]
  have keys : first.keys.Perm second.keys := by
    rw [List.perm_ext_iff_of_nodup first.keys_nodup second.keys_nodup]
    intro key
    have absent : first.lookup key = none ↔ second.lookup key = none := by
      rw [← Option.map_eq_none_iff (f := view), same key, Option.map_eq_none_iff]
    rw [AList.lookup_eq_none, AList.lookup_eq_none] at absent
    exact not_iff_not.mp absent
  rw [← List.map_perm_map_iff fun _ _ => Option.some.inj, shown, shown]
  simp only [same]
  exact keys.map _

/-! ## Sums over the values -/

def total (weight : ν → Nat) (table : Table κ ν) : Nat := (table.values.map weight).sum

omit [DecidableEq κ] in
@[simp] theorem total_empty (weight : ν → Nat) : total weight (∅ : Table κ ν) = 0 := rfl

omit [DecidableEq κ] in
theorem total_one (table : Table κ ν) : table.total (fun _ => 1) = table.size := by
  rw [total, List.map_const', List.sum_replicate, length_values, Nat.nsmul_eq_mul, Nat.mul_one]

theorem total_insert_of_absent {table : Table κ ν} {key : κ} (absent : table.lookup key = none)
    (weight : ν → Nat) (value : ν) : total weight (table.insert key value) = weight value + table.total weight := by
  rw [total, values_insert_of_absent absent, List.map_cons, List.sum_cons, total]

theorem total_erase_add {table : Table κ ν} {key : κ} {value : ν} (found : table.lookup key = some value)
    (weight : ν → Nat) : total weight (table.erase key) + weight value = table.total weight := by
  have sums := ((values_erase_perm found).map weight).sum_eq
  rw [List.map_cons, List.sum_cons, Nat.add_comm] at sums
  exact sums

theorem size_erase_add_one {table : Table κ ν} {key : κ} {value : ν} (found : table.lookup key = some value) :
    size (table.erase key) + 1 = table.size := by
  have rest := total_erase_add found fun _ => 1
  rwa [total_one, total_one] at rest

theorem total_le_total {table : Table κ ν} {weight heavier : ν → Nat}
    (le : ∀ key value, table.lookup key = some value → weight value ≤ heavier value) :
    table.total weight ≤ table.total heavier := by
  apply List.sum_le_sum
  intro value member
  obtain ⟨key, found⟩ := mem_values_iff.mp member
  exact le key value found

omit [DecidableEq κ] in
theorem Enumerates.sum_map {table : Table κ ν} {order : List ν} (shown : table.Enumerates order)
    (weight : ν → Nat) : (order.map weight).sum = table.total weight := (shown.map weight).sum_eq

theorem total_eq_sum_keys (table : Table κ ν) (weight : ν → Nat) :
    table.total weight = (table.keys.map fun key => (table.lookup key).elim 0 weight).sum := by
  have each : ∀ entry ∈ table.entries, (table.lookup entry.1).elim 0 weight = weight entry.2 := by
    intro entry member
    rw [AList.mem_lookup_iff.mpr member, Option.elim_some]
  rw [total, values, AList.keys, List.keys, List.map_map, List.map_map]
  exact congrArg List.sum (List.map_congr_left fun entry member => (each entry member).symm)

omit [DecidableEq κ] in
theorem total_classified {γ : Type} [DecidableEq γ] {table : Table κ ν} {classes : List γ}
    (nodup : classes.Nodup) {classify : ν → γ} (covered : ∀ value ∈ table.values, classify value ∈ classes)
    (weight : ν → Nat) :
    (classes.map fun one => table.total fun value => if classify value = one then weight value else 0).sum =
      table.total weight := by
  unfold total
  generalize table.values = values at covered ⊢
  induction values with
  | nil => simp
  | cons first later ih =>
    rw [List.forall_mem_cons] at covered
    -- the first value counts in its own class only
    have own : (classes.map fun one => if classify first = one then weight first else 0).sum = weight first := by
      rw [List.sum_map_eq_nsmul_single (classify first), List.count_eq_one_of_mem nodup covered.1, if_pos rfl,
        one_nsmul]
      exact fun other apart _ => if_neg (Ne.symm apart)
    simp only [List.map_cons, List.sum_cons, List.sum_map_add, ih covered.2, own]

theorem insert_erase (table : Table κ ν) (key : κ) (value : ν) :
    (table.erase key).insert key value = table.insert key value := by
  ext1
  rw [AList.entries_insert, AList.entries_insert]
  exact congrArg _ (List.kerase_of_notMem_keys (AList.lookup_eq_none.mp (AList.lookup_erase key table)))

end Table

/-- How a container shows its entries: in an order that may depend on all of it. -/
structure Iteration (κ ν : Type) where
  entries : Table κ ν → List (κ × ν)
  enumerates : ∀ table, (entries table).Perm (table.entries.map fun entry => (entry.1, entry.2))

namespace Iteration

/-- The iteration in the order of the table's own entries. -/
def listed : Iteration κ ν := ⟨fun table => table.entries.map fun entry => (entry.1, entry.2), fun _ => .refl _⟩

def values (iteration : Iteration κ ν) (table : Table κ ν) : List ν := (iteration.entries table).map Prod.snd

theorem enumerates_values (iteration : Iteration κ ν) (table : Table κ ν) :
    table.Enumerates (iteration.values table) := by
  have shown := (iteration.enumerates table).map Prod.snd
  rwa [List.map_map] at shown

end Iteration

end Foundation
