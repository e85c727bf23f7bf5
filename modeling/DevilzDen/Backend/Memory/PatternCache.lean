import DevilzDen.Backend.Memory.Pointer
import DevilzDen.Foundation.Program
import DevilzDen.Foundation.Table

/-! The pattern cache: resolved addresses under the text key of module and name.

Each method of the cache holds its lock for its whole body, so a method is one
atomic action of the programs that use the cache. Resolution times are left out
of the entries.
-/

set_option autoImplicit false

namespace DevilzDen.Backend

open Foundation

structure PatternCacheKey where
  module : Text
  name : Text
  moduleFingerprint : UInt64 := 0
  deriving DecidableEq, Repr

def PatternCacheKey.stableKey (key : PatternCacheKey) : Text := key.module ++ text "::" ++ key.name

structure PatternCacheEntry where
  key : PatternCacheKey
  address : Address
  moduleBase : Address
  relativeOffset : UInt64
  hits : UInt64 := 0
  deriving DecidableEq, Repr

structure PatternCache where
  entries : Table Text PatternCacheEntry := ∅
  deriving DecidableEq

namespace PatternCache

def makeEntry (key : PatternCacheKey) (address moduleBase : Address) : PatternCacheEntry where
  key := key
  address := address
  moduleBase := moduleBase
  -- an address below the base is recorded as the base itself
  relativeOffset := if address ≥ moduleBase then address - moduleBase else 0

def store (cache : PatternCache) (key : PatternCacheKey) (address moduleBase : Address) : PatternCache where
  entries := cache.entries.insert key.stableKey (makeEntry key address moduleBase)

/-- A hit counts itself in the entry. -/
def find (cache : PatternCache) (key : PatternCacheKey) : Option Address × PatternCache :=
  match cache.entries.lookup key.stableKey with
  | none => (none, cache)
  | some entry =>
      if entry.key.moduleFingerprint ≠ key.moduleFingerprint then (none, cache)
      else
        (some entry.address,
          { entries := cache.entries.insert key.stableKey { entry with hits := entry.hits + 1 } })

def contains (cache : PatternCache) (key : PatternCacheKey) : Bool :=
  match cache.entries.lookup key.stableKey with
  | none => false
  | some entry => entry.key.moduleFingerprint == key.moduleFingerprint

def invalidate (cache : PatternCache) (module name : Text) : PatternCache where
  entries := cache.entries.erase (module ++ text "::" ++ name)

def invalidateModule (cache : PatternCache) (module : Text) : PatternCache where
  entries := cache.entries.eraseIf fun _ entry => entry.key.module == module

/-- Whether `InvalidateFingerprint` erases the entry. -/
def outdated (module : Text) (validFingerprint : UInt64) (entry : PatternCacheEntry) : Bool :=
  entry.key.module == module && entry.key.moduleFingerprint != validFingerprint

def invalidateFingerprint (cache : PatternCache) (module : Text) (validFingerprint : UInt64) :
    PatternCache where
  entries := cache.entries.eraseIf fun _ entry => outdated module validFingerprint entry

def clear (_cache : PatternCache) : PatternCache where
  entries := ∅

/-- The entries in some order of the hash table. -/
def Snapshot (cache : PatternCache) (order : List PatternCacheEntry) : Prop :=
  cache.entries.Enumerates order

/-- The locked sections that resolution runs. -/
inductive Action where
  | invalidateFingerprint (module : Text) (validFingerprint : UInt64)
  | find (key : PatternCacheKey)
  | invalidate (module name : Text)
  | store (key : PatternCacheKey) (address moduleBase : Address)

def Reply : Action → Type
  | .find _ => Option Address
  | _ => Unit

def handler : Handler Action Reply PatternCache
  | .invalidateFingerprint module validFingerprint, cache =>
      ((), cache.invalidateFingerprint module validFingerprint)
  | .find key, cache => cache.find key
  | .invalidate module name, cache => ((), cache.invalidate module name)
  | .store key address moduleBase, cache => ((), cache.store key address moduleBase)

theorem lookup_store (cache : PatternCache) (key : PatternCacheKey) (address moduleBase : Address)
    (stable : Text) :
    (cache.store key address moduleBase).entries.lookup stable =
      if stable = key.stableKey then some (makeEntry key address moduleBase)
      else cache.entries.lookup stable :=
  Table.lookup_insert_eq _ _ _ _

theorem lookup_invalidate (cache : PatternCache) (module name stable : Text) :
    (cache.invalidate module name).entries.lookup stable =
      if stable = module ++ text "::" ++ name then none else cache.entries.lookup stable :=
  Table.lookup_erase_eq _ _ _

theorem lookup_invalidateFingerprint (cache : PatternCache) (module : Text)
    (validFingerprint : UInt64) (stable : Text) :
    (cache.invalidateFingerprint module validFingerprint).entries.lookup stable =
      (cache.entries.lookup stable).filter fun entry => !outdated module validFingerprint entry :=
  Table.lookup_eraseIf _ _ _

def findEntry (key : PatternCacheKey) : Option PatternCacheEntry → Option Address × Option PatternCacheEntry
  | none => (none, none)
  | some entry =>
      if entry.key.moduleFingerprint ≠ key.moduleFingerprint then (none, some entry)
      else (some entry.address, some { entry with hits := entry.hits + 1 })

theorem find_fst (cache : PatternCache) (key : PatternCacheKey) :
    (cache.find key).1 = (findEntry key (cache.entries.lookup key.stableKey)).1 := by
  unfold find findEntry
  cases cache.entries.lookup key.stableKey with
  | none => rfl
  | some entry => dsimp only; split <;> rfl

theorem lookup_find (cache : PatternCache) (key : PatternCacheKey) (stable : Text) :
    (cache.find key).2.entries.lookup stable =
      if stable = key.stableKey then (findEntry key (cache.entries.lookup key.stableKey)).2
      else cache.entries.lookup stable := by
  by_cases same : stable = key.stableKey
  · subst same
    rw [if_pos rfl]
    unfold find findEntry
    cases found : cache.entries.lookup key.stableKey with
    | none => exact found
    | some entry =>
      dsimp only
      split
      · exact found
      · exact AList.lookup_insert _
  · rw [if_neg same]
    unfold find
    cases cache.entries.lookup key.stableKey with
    | none => rfl
    | some entry =>
      dsimp only
      split
      · rfl
      · exact AList.lookup_insert_ne same

end PatternCache

end DevilzDen.Backend
