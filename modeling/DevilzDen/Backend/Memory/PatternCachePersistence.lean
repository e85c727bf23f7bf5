import DevilzDen.Backend.Memory.Module
import DevilzDen.Backend.Memory.PatternCache
import DevilzDen.Foundation.Lines
import DevilzDen.Foundation.Run

/-! Saving the pattern cache and loading the entries of one module.

An entry is saved as its offset from the module's base, and loaded at the base
where the module is mapped then. File access enters as its outcome.
-/

set_option autoImplicit false

namespace DevilzDen.Backend.PatternCachePersistence

open Foundation

def header : Text := text "DDPC1"

def entryLine (entry : PatternCacheEntry) : Text :=
  entry.key.module ++ tab :: (entry.key.name ++ tab ::
    (decimal entry.key.moduleFingerprint.toNat ++ tab :: decimal entry.relativeOffset.toNat))

/-- The text that `Save` writes for one order of the snapshot. -/
def saveText (order : List PatternCacheEntry) : Text :=
  Lines.unlines newline (header :: order.map entryLine)

/-- What the file manager answers for the cache's path. -/
structure FileAccess where
  fileExists : Result Bool
  readText : Result Text

/-- The key and the offset of a line that belongs to the module as it is mapped now. -/
def parseLine (module : ModuleInfo) (line : Text) : Option (PatternCacheKey × UInt64) := do
  let (moduleName, afterModule) ← Lines.cut tab line
  let (name, afterName) ← Lines.cut tab afterModule
  let (fingerprintText, offsetText) ← Lines.cut tab afterName
  if moduleName ≠ module.name then none
  else do
    let fingerprint ← fromChars64 10 fingerprintText
    let offset ← fromChars64 10 offsetText
    -- the only bound on a loaded address: its offset lies inside the image
    if fingerprint ≠ module.fingerprint.value ∨ offset ≥ module.size then none
    else some (⟨module.name, name, fingerprint⟩, offset)

def loadLine (module : ModuleInfo) (loaded : PatternCache × Nat) (line : Text) : PatternCache × Nat :=
  match parseLine module line with
  | none => loaded
  | some (key, offset) => (loaded.1.store key (module.base + offset) module.base, loaded.2 + 1)

def unsupportedFormat (path : Text) : Error :=
  let error : Error := ⟨.fileReadFailed, .filesystem, text "Unsupported pattern cache format", none, []⟩
  error.withContext "Path" path

/-- The number of entries loaded, and the cache; `none` for the manager is the null pointer. -/
def loadForModule (files : Option FileAccess) (cache : PatternCache) (module : ModuleInfo) (path : Text) :
    Result Nat × PatternCache :=
  match files with
  | none =>
      (.error ⟨.runtimeFailure, .filesystem,
        text "Pattern cache persistence has no filesystem manager", none, []⟩, cache)
  | some access =>
      match access.fileExists with
      | .error error => (.error error, cache)
      | .ok false => (.ok 0, cache)
      | .ok true =>
          match access.readText with
          | .error error => (.error error, cache)
          | .ok contents =>
              match Lines.lines newline contents with
              | [] => (.error (unsupportedFormat path), cache)
              | first :: body =>
                  if first ≠ header then (.error (unsupportedFormat path), cache)
                  else
                    let loaded := body.foldl (loadLine module) (cache, 0)
                    (.ok loaded.2, loaded.1)

/-! ## Lines -/

section Line

theorem notMem_decimal {char : UInt8} (other : Numeral.isDigit 10 char = false) (value : Nat) :
    char ∉ decimal value := Numeral.notMem_render (by decide) (by decide) other value

/-- Texts that a line can hold between its tabs. -/
def Plain (key : PatternCacheKey) : Prop :=
  tab ∉ key.module ∧ newline ∉ key.module ∧ tab ∉ key.name ∧ newline ∉ key.name

def Restored (module : ModuleInfo) (entry : PatternCacheEntry) : Prop :=
  entry.key.module = module.name ∧ entry.key.moduleFingerprint = module.fingerprint.value ∧
    entry.relativeOffset < module.size

instance (module : ModuleInfo) (entry : PatternCacheEntry) : Decidable (Restored module entry) :=
  inferInstanceAs (Decidable (_ ∧ _ ∧ _))

theorem fromChars64_decimal (value : UInt64) : fromChars64 10 (decimal value.toNat) = some value :=
  fromChars64_render (by decide) (by decide) value

theorem parseLine_entryLine (module : ModuleInfo) {entry : PatternCacheEntry} (plain : Plain entry.key) :
    parseLine module (entryLine entry) =
      if Restored module entry then some (entry.key, entry.relativeOffset) else none := by
  obtain ⟨moduleTab, _, nameTab, _⟩ := plain
  have digits : tab ∉ decimal entry.key.moduleFingerprint.toNat := notMem_decimal (by decide) _
  simp only [parseLine, entryLine, Lines.cut_append moduleTab, Lines.cut_append nameTab,
    Lines.cut_append digits, fromChars64_decimal, Option.bind_eq_bind, Option.bind_some]
  by_cases ours : entry.key.module = module.name
  · rw [if_neg (not_not.mpr ours)]
    by_cases current : entry.key.moduleFingerprint = module.fingerprint.value ∧
        entry.relativeOffset < module.size
    · rw [if_neg (by simpa using current), if_pos ⟨ours, current⟩, ← ours]
    · have refused : entry.key.moduleFingerprint ≠ module.fingerprint.value ∨
          entry.relativeOffset ≥ module.size := by
        rwa [not_and_or, UInt64.not_lt] at current
      rw [if_pos refused, if_neg fun restored => current restored.2]
  · rw [if_pos ours, if_neg fun restored => ours restored.1]

theorem newline_notMem_entryLine {entry : PatternCacheEntry} (plain : Plain entry.key) :
    newline ∉ entryLine entry := by
  obtain ⟨_, moduleLine, _, nameLine⟩ := plain
  have digits : ∀ value, newline ∉ decimal value := notMem_decimal (by decide)
  have separator : newline ≠ tab := by decide
  simp [entryLine, digits, separator, moduleLine, nameLine]

theorem lines_saveText {order : List PatternCacheEntry} (plain : ∀ entry ∈ order, Plain entry.key) :
    Lines.lines newline (saveText order) = header :: order.map entryLine :=
  Lines.lines_unlines_map (by decide) fun entry member => newline_notMem_entryLine (plain entry member)

end Line

/-! ## Loading what was saved -/

def restore (module : ModuleInfo) (cache : PatternCache) (entry : PatternCacheEntry) : PatternCache :=
  if Restored module entry then
    cache.store entry.key (module.base + entry.relativeOffset) module.base
  else cache

section Reload

variable {module : ModuleInfo}

theorem foldl_loadLine {order : List PatternCacheEntry} (plain : ∀ entry ∈ order, Plain entry.key)
    (loaded : PatternCache × Nat) :
    ((order.map entryLine).foldl (loadLine module) loaded).1 = order.foldl (restore module) loaded.1 := by
  induction order generalizing loaded with
  | nil => rfl
  | cons entry later ih =>
    rw [List.map_cons, List.foldl_cons, List.foldl_cons,
      ih fun other member => plain other (List.mem_cons_of_mem _ member)]
    apply congrArg (List.foldl (restore module) · later)
    rw [loadLine, parseLine_entryLine module (plain entry List.mem_cons_self), restore]
    by_cases restored : Restored module entry
    · rw [if_pos restored, if_pos restored]
    · rw [if_neg restored, if_neg restored]

theorem loadForModule_saveText {order : List PatternCacheEntry} (plain : ∀ entry ∈ order, Plain entry.key)
    (path : Text) :
    (loadForModule (some ⟨.ok true, .ok (saveText order)⟩) {} module path).2 =
      order.foldl (restore module) {} := by
  simp only [loadForModule, lines_saveText plain]
  exact foldl_loadLine plain ({}, 0)

theorem lookup_restore (cache : PatternCache) (entry : PatternCacheEntry) (stable : Text) :
    ((restore module cache entry).entries.lookup stable).map (·.address) =
      if stable = entry.key.stableKey ∧ Restored module entry then some (module.base + entry.relativeOffset)
      else (cache.entries.lookup stable).map (·.address) := by
  unfold restore
  by_cases restored : Restored module entry
  · rw [if_pos restored, PatternCache.lookup_store]
    by_cases same : stable = entry.key.stableKey
    · rw [if_pos same, if_pos ⟨same, restored⟩]
      rfl
    · rw [if_neg same, if_neg fun both => same both.1]
  · rw [if_neg restored, if_neg fun both => restored both.2]

theorem lookup_restoreAll_of_notMem {order : List PatternCacheEntry} {stable : Text}
    (absent : stable ∉ order.map (·.key.stableKey)) (cache : PatternCache) :
    ((order.foldl (restore module) cache).entries.lookup stable).map (·.address) =
      (cache.entries.lookup stable).map (·.address) := by
  induction order generalizing cache with
  | nil => rfl
  | cons entry later ih =>
    rw [List.map_cons, List.mem_cons, not_or] at absent
    rw [List.foldl_cons, ih absent.2, lookup_restore, if_neg fun both => absent.1 both.1]

theorem lookup_restoreAll {order : List PatternCacheEntry} (distinct : (order.map (·.key.stableKey)).Nodup)
    {entry : PatternCacheEntry} (listed : entry ∈ order) {cache : PatternCache}
    (fresh : cache.entries.lookup entry.key.stableKey = none) :
    ((order.foldl (restore module) cache).entries.lookup entry.key.stableKey).map (·.address) =
      if Restored module entry then some (module.base + entry.relativeOffset) else none := by
  induction order generalizing cache with
  | nil => cases listed
  | cons first later ih =>
    rw [List.map_cons, List.nodup_cons] at distinct
    rw [List.foldl_cons]
    rcases List.mem_cons.mp listed with rfl | member
    · rw [lookup_restoreAll_of_notMem distinct.1, lookup_restore, fresh]
      simp
    -- restoring an entry with another key leaves this key free
    · have other : entry.key.stableKey ≠ first.key.stableKey := fun same =>
        distinct.1 (List.mem_map.mpr ⟨entry, member, same⟩)
      apply ih distinct.2 member
      rw [← Option.map_eq_none_iff, lookup_restore, if_neg fun both => other both.1, fresh]
      rfl

end Reload

structure StoreCall where
  key : PatternCacheKey
  address : Address
  moduleBase : Address

def storeAll (calls : List StoreCall) : PatternCache :=
  run (fun cache call => cache.store call.key call.address call.moduleBase) {} calls

theorem storeAll_entry {calls : List StoreCall} {stable : Text} {entry : PatternCacheEntry}
    (found : (storeAll calls).entries.lookup stable = some entry) :
    stable = entry.key.stableKey ∧
      ∃ call ∈ calls, entry = PatternCache.makeEntry call.key call.address call.moduleBase := by
  let Stored (cache : PatternCache) : Prop := ∀ stable entry, cache.entries.lookup stable = some entry →
    stable = entry.key.stableKey ∧
      ∃ call ∈ calls, entry = PatternCache.makeEntry call.key call.address call.moduleBase
  have stored : Stored (storeAll calls) := by
    refine run_invariant_of_mem (fun call member cache stored stable entry found => ?_) nofun
    rw [PatternCache.lookup_store] at found
    split at found
    next same =>
      cases found
      exact ⟨same, call, member, rfl⟩
    next => exact stored stable entry found
  exact stored stable entry found

/-- An entry for the module as it is mapped: its name and its fingerprint. -/
def OfModule (module : ModuleInfo) (entry : PatternCacheEntry) : Prop :=
  entry.key.module = module.name ∧ entry.key.moduleFingerprint = module.fingerprint.value

/-- The reloaded cache points at the same place of the image as the entry did,
and nowhere when the entry pointed outside of it. -/
def SamePlace (module later : ModuleInfo) (reloaded : PatternCache) (entry : PatternCacheEntry) : Prop :=
  (reloaded.entries.lookup entry.key.stableKey).map (·.address) =
    if module.base ≤ entry.address ∧ entry.address.toNat < module.base.toNat + module.size.toNat then
      some (later.base + (entry.address - module.base))
    else none

theorem restored_samePlace_iff {module later : ModuleInfo} {key : PatternCacheKey} {address : Address}
    (ofModule : key.module = module.name ∧ key.moduleFingerprint = module.fingerprint.value)
    (sameName : later.name = module.name) (sameSize : later.size = module.size)
    (sameFingerprint : later.fingerprint.value = module.fingerprint.value) :
    let entry := PatternCache.makeEntry key address module.base
    (if Restored later entry then some (later.base + entry.relativeOffset) else none) =
        (if module.base ≤ address ∧ address.toNat < module.base.toNat + module.size.toNat then
          some (later.base + (address - module.base))
        else none) ↔
      module.base ≤ address ∨ module.size = 0 := by
  intro entry
  have restored : Restored later entry ↔ entry.relativeOffset < module.size := by
    simp [Restored, entry, PatternCache.makeEntry, sameName, sameSize, sameFingerprint, ofModule]
  -- above the base the offset is exact; below it the offset is zero, which every module that is not empty accepts
  by_cases above : module.base ≤ address
  · have offset : entry.relativeOffset = address - module.base := if_pos above
    have inside : address - module.base < module.size ↔
        address.toNat < module.base.toNat + module.size.toNat := by
      rw [UInt64.lt_iff_toNat_lt, UInt64.toNat_sub_of_le _ _ above]
      have order := UInt64.le_iff_toNat_le.mp above
      omega
    simp [restored, offset, inside, above]
  · have offset : entry.relativeOffset = 0 := if_neg above
    have refused : 0 < module.size ↔ module.size ≠ 0 := UInt64.pos_iff_ne_zero
    simp [restored, offset, above, refused]

/-- A saved and reloaded cache points at the same places exactly when no entry
of the module lies below its base. Such an entry is saved with offset zero, and
only a module of size zero refuses that. -/
theorem reload_samePlace_iff (calls : List StoreCall) (module later : ModuleInfo)
    (order : List PatternCacheEntry) (path : Text) (plain : ∀ call ∈ calls, Plain call.key)
    (based : ∀ call ∈ calls, call.key.module = module.name → call.moduleBase = module.base)
    (sameName : later.name = module.name) (sameSize : later.size = module.size)
    (sameFingerprint : later.fingerprint.value = module.fingerprint.value)
    (shown : (storeAll calls).Snapshot order) :
    let reloaded := (loadForModule (some ⟨.ok true, .ok (saveText order)⟩) {} later path).2
    (∀ entry ∈ order, OfModule module entry → SamePlace module later reloaded entry) ↔
      ∀ entry ∈ order, OfModule module entry → module.base ≤ entry.address ∨ module.size = 0 := by
  intro reloaded
  have origin : ∀ entry ∈ order, ∃ call ∈ calls,
      entry = PatternCache.makeEntry call.key call.address call.moduleBase := by
    intro entry member
    obtain ⟨stable, found⟩ := Table.mem_values_iff.mp (shown.mem_iff.mp member)
    exact (storeAll_entry found).2
  have plainEntries : ∀ entry ∈ order, Plain entry.key := by
    intro entry member
    obtain ⟨call, made, rfl⟩ := origin entry member
    exact plain call made
  have distinct : (order.map (·.key.stableKey)).Nodup :=
    shown.keys_nodup (·.key.stableKey) fun stable entry found => (storeAll_entry found).1
  have reads : reloaded = order.foldl (restore later) {} := loadForModule_saveText plainEntries path
  apply forall₂_congr
  intro entry member
  apply imp_congr_right
  intro ofModule
  rw [SamePlace, reads, lookup_restoreAll distinct member rfl]
  obtain ⟨call, made, rfl⟩ := origin entry member
  obtain ⟨key, address, moduleBase⟩ := call
  cases based _ made ofModule.1
  exact restored_samePlace_iff ofModule sameName sameSize sameFingerprint

/-! An address below the base comes back as the base itself. -/

def mappedModule (base : Address) : ModuleInfo where
  name := text "game.exe"
  base := base
  size := 0x1000
  fingerprint := ⟨1, 2, 3⟩
  sections := []

def storedAt (address : Address) : StoreCall :=
  ⟨⟨text "game.exe", text "target", (mappedModule 0x4000).fingerprint.value⟩, address, 0x4000⟩

def storedEntry (address : Address) : PatternCacheEntry :=
  PatternCache.makeEntry (storedAt address).key address 0x4000

def reloadedFrom (entry : PatternCacheEntry) : PatternCache :=
  (loadForModule (some ⟨.ok true, .ok (saveText [entry])⟩) {} (mappedModule 0x8000) (text "cache.txt")).2

theorem reload_moves_address_below_base :
    (storeAll [storedAt 0x3000]).entries.values = [storedEntry 0x3000] ∧
      ((reloadedFrom (storedEntry 0x3000)).entries.lookup (storedEntry 0x3000).key.stableKey).map
        (·.address) = some 0x8000 ∧
      ¬SamePlace (mappedModule 0x4000) (mappedModule 0x8000) (reloadedFrom (storedEntry 0x3000))
        (storedEntry 0x3000) := by
  have restored : ((reloadedFrom (storedEntry 0x3000)).entries.lookup
      (storedEntry 0x3000).key.stableKey).map (·.address) = some 0x8000 := by decide
  refine ⟨rfl, restored, ?_⟩
  rw [SamePlace, restored]
  decide

theorem reload_samePlace_iff_inside :
    (∀ entry ∈ [storedEntry 0x4010], OfModule (mappedModule 0x4000) entry →
      SamePlace (mappedModule 0x4000) (mappedModule 0x8000) (reloadedFrom (storedEntry 0x4010)) entry) ↔
      ∀ entry ∈ [storedEntry 0x4010], OfModule (mappedModule 0x4000) entry →
        (mappedModule 0x4000).base ≤ entry.address ∨ (mappedModule 0x4000).size = 0 :=
  reload_samePlace_iff [storedAt 0x4010] (mappedModule 0x4000) (mappedModule 0x8000) [storedEntry 0x4010]
    (text "cache.txt") (by simp [Plain]; decide) (by simp [storedAt, mappedModule]) rfl rfl rfl
    (List.Perm.refl _)

end DevilzDen.Backend.PatternCachePersistence
