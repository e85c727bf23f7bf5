import DevilzDen.Backend.Memory.PatternCache
import DevilzDen.Foundation.Lines
import DevilzDen.Foundation.Run

/-! The pattern cache as a map from module and name.

Entries live under one text, while the operations on a whole module look at the
fields of the stored keys. The two agree where no module name has a colon: the
first colon of a text key then ends its module.
-/

set_option autoImplicit false

namespace DevilzDen.Backend.PatternCache

open Foundation

inductive Call where
  | store (key : PatternCacheKey) (address moduleBase : Address)
  | find (key : PatternCacheKey)
  | contains (key : PatternCacheKey)
  | invalidate (module name : Text)
  | invalidateModule (module : Text)
  | invalidateFingerprint (module : Text) (validFingerprint : UInt64)
  | clear

def step (cache : PatternCache) : Call → PatternCache
  | .store key address moduleBase => cache.store key address moduleBase
  | .find key => (cache.find key).2
  | .contains _ => cache
  | .invalidate module name => cache.invalidate module name
  | .invalidateModule module => cache.invalidateModule module
  | .invalidateFingerprint module validFingerprint => cache.invalidateFingerprint module validFingerprint
  | .clear => cache.clear

def colon : UInt8 := 58

/-- The module name of a call has no colon. -/
def Call.Plain : Call → Prop
  | .store key _ _ | .find key | .contains key => colon ∉ key.module
  | .invalidate module _ | .invalidateModule module | .invalidateFingerprint module _ => colon ∉ module
  | .clear => True

instance : DecidablePred Call.Plain
  | .store key _ _ | .find key | .contains key => inferInstanceAs (Decidable (colon ∉ key.module))
  | .invalidate module _ | .invalidateModule module | .invalidateFingerprint module _ =>
      inferInstanceAs (Decidable (colon ∉ module))
  | .clear => isTrue trivial

/-! ## The abstract map -/

/-- Fingerprint and address for each pair of module and name. -/
abbrev Contents := Table (Text × Text) (UInt64 × Address)

namespace Contents

def find (contents : Contents) (key : PatternCacheKey) : Option Address :=
  (contents.lookup (key.module, key.name)).bind fun held =>
    if held.1 = key.moduleFingerprint then some held.2 else none

def step (contents : Contents) : Call → Contents
  | .store key address _ => contents.insert (key.module, key.name) (key.moduleFingerprint, address)
  | .find _ | .contains _ => contents
  | .invalidate module name => contents.erase (module, name)
  | .invalidateModule module => contents.eraseIf fun pair _ => pair.1 == module
  | .invalidateFingerprint module validFingerprint =>
      contents.eraseIf fun pair held => pair.1 == module && held.1 != validFingerprint
  | .clear => ∅

/-- The calls after which the answer for a key is known: a store for its pair,
and the removals that cover the pair while it has the key's fingerprint. -/
def Settles (key : PatternCacheKey) : Call → Prop
  | .store stored _ _ => (stored.module, stored.name) = (key.module, key.name)
  | .find _ | .contains _ => False
  | .invalidate module name => (module, name) = (key.module, key.name)
  | .invalidateModule module => module = key.module
  | .invalidateFingerprint module validFingerprint =>
      module = key.module ∧ validFingerprint ≠ key.moduleFingerprint
  | .clear => True

/-- What a call that settles the answer for a key lets it find. -/
def settled (key : PatternCacheKey) : Call → Option Address
  | .store stored address _ => if stored.moduleFingerprint = key.moduleFingerprint then some address else none
  | _ => none

theorem settled_eq_some {key : PatternCacheKey} {call : Call} {address : Address} (settles : Settles key call)
    (answer : settled key call = some address) : ∃ moduleBase, call = .store key address moduleBase := by
  cases call with
  | store stored written moduleBase =>
    by_cases fingerprint : stored.moduleFingerprint = key.moduleFingerprint
    · have pair : stored.module = key.module ∧ stored.name = key.name := Prod.mk.inj settles
      have same : stored = key := by
        cases stored
        cases key
        simp_all only
      have written_eq : written = address := by simpa [settled, fingerprint] using answer
      exact ⟨moduleBase, by rw [same, written_eq]⟩
    · exact nomatch (if_neg fingerprint).symm.trans answer
  | find | contains | invalidate | invalidateModule | invalidateFingerprint | clear => exact nomatch answer

section EraseIf

variable (contents : Contents) {key : PatternCacheKey} {removed : Text × Text → UInt64 × Address → Bool}

theorem find_eraseIf_of_removed
    (covers : ∀ address, removed (key.module, key.name) (key.moduleFingerprint, address) = true) :
    find (contents.eraseIf removed) key = none := by
  rw [find, Table.lookup_eraseIf]
  cases contents.lookup (key.module, key.name) with
  | none => rfl
  | some held =>
    obtain ⟨fingerprint, address⟩ := held
    by_cases same : fingerprint = key.moduleFingerprint
    · simp [same, covers]
    · -- what is held is no answer for the key, whether it stays or not
      by_cases erased : removed (key.module, key.name) (fingerprint, address) = true
      · simp [erased]
      · simp [erased, same]

theorem find_eraseIf_of_kept
    (kept : ∀ address, removed (key.module, key.name) (key.moduleFingerprint, address) = false) :
    find (contents.eraseIf removed) key = contents.find key := by
  rw [find, Table.lookup_eraseIf, find]
  cases contents.lookup (key.module, key.name) with
  | none => rfl
  | some held =>
    obtain ⟨fingerprint, address⟩ := held
    by_cases same : fingerprint = key.moduleFingerprint
    · simp [Option.filter, same, kept]
    · by_cases erased : removed (key.module, key.name) (fingerprint, address) = true
      · simp [Option.filter, erased, same]
      · simp [Option.filter, erased]

end EraseIf

theorem find_of_settles (contents : Contents) (key : PatternCacheKey) (call : Call)
    (settles : Settles key call) : find (contents.step call) key = settled key call := by
  cases call with
  | store stored address moduleBase =>
    have same : (stored.module, stored.name) = (key.module, key.name) := settles
    simp only [find, step, settled, same, AList.lookup_insert, Option.bind_some]
  | find | contains => exact settles.elim
  | invalidate module name =>
    have same : (module, name) = (key.module, key.name) := settles
    simp only [find, step, settled, same, AList.lookup_erase, Option.bind_none]
  | invalidateModule module =>
    have same : module = key.module := settles
    apply find_eraseIf_of_removed
    simp [same]
  | invalidateFingerprint module validFingerprint =>
    obtain ⟨same, outdated⟩ := settles
    apply find_eraseIf_of_removed
    simp [same, Ne.symm outdated]
  | clear => rfl

theorem find_of_not_settles (contents : Contents) (key : PatternCacheKey) (call : Call)
    (other : ¬Settles key call) : find (contents.step call) key = contents.find key := by
  cases call with
  | store stored address moduleBase =>
    have different : (key.module, key.name) ≠ (stored.module, stored.name) := fun same => other same.symm
    rw [find, step, AList.lookup_insert_ne different, find]
  | find | contains => rfl
  | invalidate module name =>
    have different : (key.module, key.name) ≠ (module, name) := fun same => other same.symm
    rw [find, step, AList.lookup_erase_ne different, find]
  | invalidateModule module =>
    have different : ¬key.module = module := fun same => other same.symm
    apply find_eraseIf_of_kept
    simp [different]
  | invalidateFingerprint module validFingerprint =>
    apply find_eraseIf_of_kept
    by_cases same : key.module = module
    · have valid : key.moduleFingerprint = validFingerprint :=
        not_not.mp fun different => other ⟨same.symm, Ne.symm different⟩
      simp [valid]
    · simp [same]
  | clear => exact absurd trivial other

theorem run_find_eq_some_iff (calls : List Call) (key : PatternCacheKey) (address : Address) :
    find (run step ∅ calls) key = some address ↔
      ∃ earlier moduleBase later, Last (Settles key) calls earlier (.store key address moduleBase) later := by
  have none : find ∅ key = none := rfl
  have lastWrite := run_eq_some_iff (fun contents => find contents key) none
    (fun contents call => find_of_settles contents key call)
    (fun contents call => find_of_not_settles contents key call) calls address
  rw [lastWrite]
  constructor
  · rintro ⟨earlier, last, later, isLast, wrote⟩
    obtain ⟨moduleBase, rfl⟩ := settled_eq_some isLast.2.1 wrote
    exact ⟨earlier, moduleBase, later, isLast⟩
  · rintro ⟨earlier, moduleBase, later, isLast⟩
    exact ⟨earlier, _, later, isLast, if_pos rfl⟩

end Contents

/-! ## The cache refines the map -/

theorem stableKey_eq_iff {module name module' name' : Text} (plain : colon ∉ module)
    (plain' : colon ∉ module') :
    module ++ text "::" ++ name = module' ++ text "::" ++ name' ↔ (module, name) = (module', name') := by
  have joined (first second : Text) : first ++ text "::" ++ second = first ++ colon :: colon :: second :=
    List.append_assoc _ _ _
  rw [joined, joined, Lines.append_cons_eq_iff plain plain', Prod.mk.injEq, List.cons.injEq]
  exact and_congr_right fun _ => and_iff_right rfl

def held (entry : PatternCacheEntry) : UInt64 × Address := (entry.key.moduleFingerprint, entry.address)

theorem findEntry_fst (key : PatternCacheKey) (found : Option PatternCacheEntry) :
    (findEntry key found).1 = found.bind fun entry =>
      if entry.key.moduleFingerprint = key.moduleFingerprint then some entry.address else none := by
  cases found with
  | none => rfl
  | some entry =>
    by_cases same : entry.key.moduleFingerprint = key.moduleFingerprint
    · simp [findEntry, same]
    · simp [findEntry, same]

theorem map_lookup_find {α : Type} (cache : PatternCache) (key : PatternCacheKey) (stable : Text)
    (view : PatternCacheEntry → α) (blind : ∀ entry hits, view { entry with hits } = view entry) :
    ((cache.find key).2.entries.lookup stable).map view = (cache.entries.lookup stable).map view := by
  rw [lookup_find]
  split
  next same =>
    rw [same]
    cases cache.entries.lookup key.stableKey with
    | none => rfl
    | some entry =>
      unfold findEntry
      dsimp only
      split
      · rfl
      · exact congrArg some (blind entry _)
  next => rfl

structure Refines (cache : PatternCache) (contents : Contents) : Prop where
  keyed : ∀ stable entry, cache.entries.lookup stable = some entry →
    stable = entry.key.stableKey ∧ colon ∉ entry.key.module
  holds : ∀ module name, colon ∉ module →
    (cache.entries.lookup (module ++ text "::" ++ name)).map held = contents.lookup (module, name)

namespace Refines

variable {cache : PatternCache} {contents : Contents}

theorem empty : Refines {} ∅ where
  keyed := nofun
  holds _ _ _ := rfl

theorem store (refines : Refines cache contents) {key : PatternCacheKey} (plain : colon ∉ key.module)
    (address moduleBase : Address) :
    Refines (cache.store key address moduleBase)
      (contents.insert (key.module, key.name) (key.moduleFingerprint, address)) where
  keyed stable entry found := by
    rw [lookup_store] at found
    split at found
    next same =>
      cases Option.some.inj found
      exact ⟨same, plain⟩
    next => exact refines.keyed stable entry found
  holds module name named := by
    rw [lookup_store, Table.lookup_insert_eq, PatternCacheKey.stableKey]
    simp only [stableKey_eq_iff named plain]
    split
    next => rfl
    next => exact refines.holds module name named

theorem find (refines : Refines cache contents) (key : PatternCacheKey) :
    Refines (cache.find key).2 contents where
  keyed stable entry found := by
    have same := map_lookup_find cache key stable (·.key) fun _ _ => rfl
    rw [found, Option.map_some, eq_comm, Option.map_eq_some_iff] at same
    obtain ⟨before, stored, key_eq⟩ := same
    have keyed := refines.keyed stable before stored
    rw [key_eq] at keyed
    exact keyed
  holds module name named :=
    (map_lookup_find cache key _ held fun _ _ => rfl).trans (refines.holds module name named)

theorem invalidate (refines : Refines cache contents) {module : Text} (plain : colon ∉ module) (name : Text) :
    Refines (cache.invalidate module name) (contents.erase (module, name)) where
  keyed stable entry found := by
    rw [lookup_invalidate] at found
    split at found
    next => exact nomatch found
    next => exact refines.keyed stable entry found
  holds other otherName named := by
    rw [lookup_invalidate, Table.lookup_erase_eq]
    simp only [stableKey_eq_iff named plain]
    split
    next => rfl
    next => exact refines.holds other otherName named

theorem eraseIf (refines : Refines cache contents) (erased : PatternCacheEntry → Bool)
    (removed : Text × Text → UInt64 × Address → Bool)
    (same : ∀ entry, erased entry = removed (entry.key.module, entry.key.name) (held entry)) :
    Refines { entries := cache.entries.eraseIf fun _ entry => erased entry } (contents.eraseIf removed) where
  keyed stable entry found := by
    rw [Table.lookup_eraseIf, Option.filter_eq_some_iff] at found
    exact refines.keyed stable entry found.1
  holds module name named := by
    rw [Table.lookup_eraseIf, Table.lookup_eraseIf, ← refines.holds module name named]
    cases found : cache.entries.lookup (module ++ text "::" ++ name) with
    | none => rfl
    | some entry =>
      obtain ⟨stable, plain⟩ := refines.keyed _ entry found
      have pair : (entry.key.module, entry.key.name) = (module, name) :=
        ((stableKey_eq_iff named plain).mp stable).symm
      rw [Option.map_some, Option.filter, Option.filter, same, pair]
      split <;> rfl

theorem step (refines : Refines cache contents) {call : Call} (plain : call.Plain) :
    Refines (cache.step call) (contents.step call) := by
  cases call with
  | store key address moduleBase => exact refines.store plain address moduleBase
  | find key => exact refines.find key
  | contains => exact refines
  | invalidate module name => exact refines.invalidate plain name
  | invalidateModule module =>
    exact refines.eraseIf (fun entry => entry.key.module == module) (fun pair _ => pair.1 == module) fun _ => rfl
  | invalidateFingerprint module validFingerprint =>
    exact refines.eraseIf (outdated module validFingerprint)
      (fun pair held => pair.1 == module && held.1 != validFingerprint) fun _ => rfl
  | clear => exact empty

theorem find_eq (refines : Refines cache contents) {key : PatternCacheKey} (plain : colon ∉ key.module) :
    (cache.find key).1 = Contents.find contents key := by
  rw [find_fst, findEntry_fst, Contents.find, ← refines.holds key.module key.name plain,
    PatternCacheKey.stableKey, Option.bind_map]
  rfl

end Refines

theorem run_refines {calls : List Call} (plain : ∀ call ∈ calls, call.Plain) :
    Refines (run step {} calls) (run Contents.step ∅ calls) :=
  run_related_of_mem (fun call member _ _ refines => refines.step (plain call member)) Refines.empty

theorem contains_eq (cache : PatternCache) (key : PatternCacheKey) :
    cache.contains key = (cache.find key).1.isSome := by
  rw [find_fst, findEntry_fst, contains]
  cases cache.entries.lookup key.stableKey with
  | none => rfl
  | some entry =>
    by_cases same : entry.key.moduleFingerprint = key.moduleFingerprint
    · simp [same]
    · simp [same]

structure AnswersAsMap (calls : List Call) (cache : PatternCache) : Prop where
  find : ∀ key, colon ∉ key.module →
    (cache.find key).1 = Contents.find (run Contents.step ∅ calls) key
  contains : ∀ key, colon ∉ key.module →
    cache.contains key = (Contents.find (run Contents.step ∅ calls) key).isSome
  lastStore : ∀ key address, colon ∉ key.module → ((cache.find key).1 = some address ↔
    ∃ earlier moduleBase later,
      Last (Contents.Settles key) calls earlier (.store key address moduleBase) later)
  contained : ∀ key, colon ∉ key.module → (cache.contains key = true ↔
    ∃ earlier address moduleBase later,
      Last (Contents.Settles key) calls earlier (.store key address moduleBase) later)
  others : ∀ key call, colon ∉ key.module → call.Plain → ¬Contents.Settles key call →
    ((cache.step call).find key).1 = (cache.find key).1 ∧
      (cache.step call).contains key = cache.contains key

theorem run_answersAsMap (calls : List Call) (plain : ∀ call ∈ calls, call.Plain) :
    AnswersAsMap calls (run step {} calls) := by
  have refines := run_refines plain
  constructor
  · exact fun key named => refines.find_eq named
  · intro key named
    rw [contains_eq, refines.find_eq named]
  · intro key address named
    rw [refines.find_eq named, Contents.run_find_eq_some_iff]
  · intro key named
    rw [contains_eq, refines.find_eq named, Option.isSome_iff_exists]
    simp only [Contents.run_find_eq_some_iff]
    exact exists_comm
  · intro key call named plainCall other
    have after := (refines.step plainCall).find_eq named
    rw [Contents.find_of_not_settles _ key call other, ← refines.find_eq named] at after
    exact ⟨after, by rw [contains_eq, contains_eq, after]⟩

/-- A pattern name that holds the separator, next to the name before it. -/
def separatorInName : List Call :=
  [.store ⟨text "a", text "b::c", 1⟩ 0x1010 0x1000, .store ⟨text "a", text "b", 1⟩ 0x1020 0x1000,
    .invalidate (text "a") (text "b"), .invalidateFingerprint (text "a") 1, .find ⟨text "a", text "b::c", 1⟩]

theorem separator_in_name_answersAsMap :
    ((run step {} separatorInName).find ⟨text "a", text "b::c", 1⟩).1 = some 0x1010 ∧
      AnswersAsMap separatorInName (run step {} separatorInName) :=
  ⟨by decide, run_answersAsMap separatorInName (by decide)⟩

end DevilzDen.Backend.PatternCache
