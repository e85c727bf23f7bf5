import DevilzDen.Backend.Memory.PatternCachePersistence

/-! What a cache file can put into the cache.

The file is arbitrary: any bytes, and any outcome of the file accesses. A load
is a sequence of stores, one for each line that is an entry of the module.
-/

set_option autoImplicit false

namespace DevilzDen.Backend.PatternCachePersistence

open Foundation

/-! ## Lines -/

/-- A line with an entry of the module: its number fields and what they denote. -/
structure Row (module : ModuleInfo) (line : Text) (key : PatternCacheKey) (offset : UInt64)
    (numbers : List (Text × Nat)) : Prop where
  name : key.module = module.name
  fingerprint : key.moduleFingerprint = module.fingerprint.value
  inside : offset < module.size
  fields : ∃ fingerprintText offsetText,
    Lines.Fields tab line key.module key.name fingerprintText offsetText ∧
      numbers = [(fingerprintText, key.moduleFingerprint.toNat), (offsetText, offset.toNat)]

theorem Row.unique {module : ModuleInfo} {line : Text} {key : PatternCacheKey} {offset : UInt64}
    {numbers others : List (Text × Nat)} (row : Row module line key offset numbers)
    (other : Row module line key offset others) : numbers = others := by
  obtain ⟨_, _, fields, rfl⟩ := row.fields
  obtain ⟨_, _, otherFields, rfl⟩ := other.fields
  obtain ⟨_, _, rfl, rfl⟩ := fields.unique otherFields
  rfl

theorem parseLine_eq_some_iff {module : ModuleInfo} {line : Text} {key : PatternCacheKey} {offset : UInt64} :
    parseLine module line = some (key, offset) ↔
      ∃ numbers, Row module line key offset numbers ∧ Numeral.LeadingNumerals 10 (2 ^ 64) numbers := by
  have read : ∀ {fingerprintText offsetText : Text} {fingerprint : UInt64},
      Numeral.LeadingNumerals 10 (2 ^ 64) [(fingerprintText, fingerprint.toNat), (offsetText, offset.toNat)] ↔
        fromChars64 10 fingerprintText = some fingerprint ∧ fromChars64 10 offsetText = some offset := by
    simp [Numeral.LeadingNumerals, fromChars64_eq_some_iff]
  simp only [parseLine, Option.bind_eq_bind, Option.bind_eq_some_iff]
  constructor
  · intro parsed
    obtain ⟨⟨moduleName, afterModule⟩, first, ⟨name, afterName⟩, second,
      ⟨fingerprintText, offsetText⟩, third, parsed⟩ := parsed
    split at parsed
    · cases parsed
    next ours =>
      simp only [Option.bind_eq_some_iff] at parsed
      obtain ⟨fingerprint, fingerprintRead, loaded, offsetRead, kept⟩ := parsed
      split at kept
      · cases kept
      next current =>
        rw [not_or, not_not, ge_iff_le, UInt64.not_le] at current
        cases kept
        cases not_not.mp ours
        have fields := Lines.fields_iff.mpr ⟨_, _, first, second, third⟩
        exact ⟨_, ⟨rfl, current.1, current.2, _, _, fields, rfl⟩, read.mpr ⟨fingerprintRead, offsetRead⟩⟩
  · intro row
    obtain ⟨_, row, numbers⟩ := row
    obtain ⟨fingerprintText, offsetText, fields, rfl⟩ := row.fields
    obtain ⟨afterModule, afterName, first, second, third⟩ := Lines.fields_iff.mp fields
    obtain ⟨fingerprintRead, offsetRead⟩ := read.mp numbers
    have current : ¬(key.moduleFingerprint ≠ module.fingerprint.value ∨ offset ≥ module.size) := by
      rw [not_or, not_not, ge_iff_le, UInt64.not_le]
      exact ⟨row.fingerprint, row.inside⟩
    refine ⟨_, first, _, second, _, third, ?_⟩
    rw [if_neg (not_not.mpr row.name), Option.bind_eq_some_iff]
    refine ⟨_, fingerprintRead, ?_⟩
    rw [Option.bind_eq_some_iff]
    refine ⟨_, offsetRead, ?_⟩
    rw [if_neg current, ← row.name]

/-! ## Stores -/

def storeOf (module : ModuleInfo) (line : Text) : Option StoreCall :=
  (parseLine module line).map fun parsed => ⟨parsed.1, module.base + parsed.2, module.base⟩

def storesOf (module : ModuleInfo) (body : List Text) : List StoreCall := body.filterMap (storeOf module)

def StoreCall.perform (cache : PatternCache) (call : StoreCall) : PatternCache :=
  cache.store call.key call.address call.moduleBase

theorem loadLine_eq (module : ModuleInfo) (loaded : PatternCache × Nat) (line : Text) :
    loadLine module loaded line =
      (run StoreCall.perform loaded.1 (storeOf module line).toList,
        loaded.2 + (storeOf module line).toList.length) := by
  unfold loadLine storeOf
  cases parseLine module line with
  | none => rfl
  | some parsed => rfl

theorem foldl_loadLine_eq (module : ModuleInfo) (body : List Text) (loaded : PatternCache × Nat) :
    body.foldl (loadLine module) loaded =
      (run StoreCall.perform loaded.1 (storesOf module body), loaded.2 + (storesOf module body).length) := by
  induction body generalizing loaded with
  | nil => rfl
  | cons line later ih =>
    have split : storesOf module (line :: later) = (storeOf module line).toList ++ storesOf module later := by
      rw [storesOf, List.filterMap_cons]
      cases storeOf module line <;> rfl
    rw [List.foldl_cons, ih, loadLine_eq, split, run_append, List.length_append, Nat.add_assoc]

/-- A load that succeeds performs the stores of some lines; one that fails leaves the cache. -/
theorem loadForModule_cases (files : Option FileAccess) (cache : PatternCache) (module : ModuleInfo)
    (path : Text) :
    (∃ error, loadForModule files cache module path = (.error error, cache)) ∨
      ∃ body, loadForModule files cache module path =
        (.ok (storesOf module body).length, run StoreCall.perform cache (storesOf module body)) := by
  unfold loadForModule
  split
  · exact .inl ⟨_, rfl⟩
  · split
    · exact .inl ⟨_, rfl⟩
    -- a missing file has no lines
    · exact .inr ⟨[], rfl⟩
    · split
      · exact .inl ⟨_, rfl⟩
      · split
        · exact .inl ⟨_, rfl⟩
        next first body _ =>
          split
          · exact .inl ⟨_, rfl⟩
          · refine .inr ⟨body, ?_⟩
            rw [foldl_loadLine_eq, Nat.zero_add]

/-- An entry of the module at an address inside its image. -/
structure InImage (module : ModuleInfo) (key : PatternCacheKey) (address : Address) : Prop where
  name : key.module = module.name
  fingerprint : key.moduleFingerprint = module.fingerprint.value
  above : module.base.toNat ≤ address.toNat
  below : address.toNat < module.base.toNat + module.size.toNat

theorem storesOf_inImage {module : ModuleInfo} (unwrapped : module.base.toNat + module.size.toNat ≤ 2 ^ 64)
    {body : List Text} {call : StoreCall} (performed : call ∈ storesOf module body) :
    InImage module call.key call.address := by
  obtain ⟨line, _, stored⟩ := List.mem_filterMap.mp performed
  obtain ⟨⟨key, offset⟩, parsed, rfl⟩ := Option.map_eq_some_iff.mp stored
  obtain ⟨_, row, _⟩ := parseLine_eq_some_iff.mp parsed
  have inside := UInt64.lt_iff_toNat_lt.mp row.inside
  have address : (module.base + offset).toNat = module.base.toNat + offset.toNat := by
    rw [UInt64.toNat_add, Nat.mod_eq_of_lt (by omega)]
  refine ⟨row.name, row.fingerprint, ?_, ?_⟩
  · rw [address]
    omega
  · rw [address]
    omega

theorem run_perform_entries (cache : PatternCache) (calls : List StoreCall) :
    (run StoreCall.perform cache calls).entries = cache.entries.insertAll (fun call => call.key.stableKey)
      (fun call => PatternCache.makeEntry call.key call.address call.moduleBase) calls := by
  induction calls generalizing cache with
  | nil => rfl
  | cons call later ih =>
    rw [run_cons, ih]
    rfl

/-- No file can put an address outside of the image into the cache. A load that
succeeds performs stores for the module as it is mapped, all of them inside the
image, and returns their number. Every other entry stays as it was, and so does
the whole cache when the load fails. -/
theorem load_stays_in_image (files : Option FileAccess) (cache : PatternCache) (module : ModuleInfo)
    (path : Text) (unwrapped : module.base.toNat + module.size.toNat ≤ 2 ^ 64) :
    let loaded := loadForModule files cache module path
    (∀ count, loaded.1 = .ok count → ∃ calls : List StoreCall,
      loaded.2 = run StoreCall.perform cache calls ∧ count = calls.length ∧
        (∀ call ∈ calls, InImage module call.key call.address) ∧
        ∀ stable,
          ((∃ call ∈ calls, stable = call.key.stableKey) →
            ∃ entry, loaded.2.entries.lookup stable = some entry ∧ InImage module entry.key entry.address) ∧
          ((∀ call ∈ calls, stable ≠ call.key.stableKey) →
            loaded.2.entries.lookup stable = cache.entries.lookup stable)) ∧
      ∀ error, loaded.1 = .error error → loaded.2 = cache := by
  intro loaded
  rcases loadForModule_cases files cache module path with ⟨failure, failed⟩ | ⟨body, succeeded⟩
  · have same : loaded = (.error failure, cache) := failed
    rw [same]
    exact ⟨nofun, fun _ _ => rfl⟩
  · have same : loaded =
        (.ok (storesOf module body).length, run StoreCall.perform cache (storesOf module body)) := succeeded
    rw [same]
    have inImage : ∀ call ∈ storesOf module body, InImage module call.key call.address :=
      fun call performed => storesOf_inImage unwrapped performed
    refine ⟨fun count counted => ?_, fun error failed => by cases failed⟩
    refine ⟨storesOf module body, rfl, (Except.ok.inj counted).symm, inImage, fun stable => ?_⟩
    rw [run_perform_entries]
    rcases Table.lookup_insertAll (fun call : StoreCall => call.key.stableKey) _ cache.entries
      (storesOf module body) stable with ⟨call, member, key, found⟩ | ⟨untouched, kept⟩
    · refine ⟨fun _ => ⟨_, found, inImage call member⟩, fun others => ?_⟩
      exact absurd key (others call member)
    · refine ⟨fun written => ?_, fun _ => kept⟩
      obtain ⟨call, member, key⟩ := written
      exact absurd key (untouched call member)

/-- A line of the module beside one whose offset lies outside of the image. -/
def hostileText : Text :=
  text "DDPC1\ngame.exe\ttarget\t4294967297\t16\ngame.exe\tother\t4294967297\t4096\n"

theorem load_stays_in_image_hostile :
    let loaded := loadForModule (some ⟨.ok true, .ok hostileText⟩) {} (mappedModule 0x8000) (text "cache.txt")
    loaded.1 = .ok 1 ∧
      (∀ count, loaded.1 = .ok count → ∃ calls : List StoreCall,
        loaded.2 = run StoreCall.perform {} calls ∧ count = calls.length ∧
          (∀ call ∈ calls, InImage (mappedModule 0x8000) call.key call.address) ∧
          ∀ stable,
            ((∃ call ∈ calls, stable = call.key.stableKey) →
              ∃ entry, loaded.2.entries.lookup stable = some entry ∧
                InImage (mappedModule 0x8000) entry.key entry.address) ∧
            ((∀ call ∈ calls, stable ≠ call.key.stableKey) →
              loaded.2.entries.lookup stable = ({} : PatternCache).entries.lookup stable)) ∧
      ∀ error, loaded.1 = .error error → loaded.2 = {} := by
  intro loaded
  have loads : loaded.1 = .ok 1 := by decide
  exact ⟨loads, load_stays_in_image (some ⟨.ok true, .ok hostileText⟩) {} (mappedModule 0x8000)
    (text "cache.txt") (by decide)⟩

end DevilzDen.Backend.PatternCachePersistence
