import DevilzDen.Backend.Memory.PatternReads

/-! What a scan finds, and where it lies.

A scan is compared with the list of all offsets at which the pattern occurs.
The matches that the sections of an inspected module have lie in its image.
-/

set_option autoImplicit false

namespace DevilzDen.Backend

open Foundation

namespace PatternScanner

/-- An offset at which every exact token equals the byte of the range. -/
def Occurs (memory : Memory) (range : MemoryRange) (pattern : Pattern) (offset : Nat) : Prop :=
  offset + pattern.size ≤ range.size.toNat ∧
    ∀ index token, pattern.tokens[index]? = some token →
      token.wildcard = true ∨ memory (range.first + UInt64.ofNat (offset + index)) = token.value

def resultAt (range : MemoryRange) (offset : Nat) : PatternScanResult where
  address := range.first + UInt64.ofNat offset
  offset := offset

/-- The first results up to a maximum; zero is none. -/
def firstResults (maxResults : UInt64) (offsets : List Nat) : List Nat :=
  if maxResults = 0 then offsets else offsets.take maxResults.toNat

def Refused (range : MemoryRange) (pattern : Pattern) : Prop :=
  range.empty = true ∨ range.size.toNat < pattern.size

section Scan

variable {memory : Memory} {range : MemoryRange} {pattern : Pattern}

theorem not_refused_iff : ¬Refused range pattern ↔ range.empty = false ∧ pattern.size ≤ range.size.toNat := by
  rw [Refused, not_or, Bool.not_eq_true, Nat.not_lt]

theorem pairwise_occurrences (memory : Memory) (range : MemoryRange) (pattern : Pattern) :
    (occurrences memory range pattern).Pairwise (· < ·) :=
  List.pairwise_lt_range.filter _

theorem length_occurrences_lt (tokens : pattern.empty = false) :
    (occurrences memory range pattern).length ≤ UInt64.size - 1 := by
  have positive := Pattern.size_pos tokens
  have bytes : (range.bytes memory).length < UInt64.size := by
    cases present : range.empty with
    | true => simp [MemoryRange.bytes, present]
    | false => rw [length_bytes memory present]; exact range.size.toNat_lt
  have filtered : (occurrences memory range pattern).length ≤ (range.bytes memory).length + 1 - pattern.size := by
    rw [occurrences]
    exact Nat.le_trans (List.length_filter_le _ _) (Nat.le_of_eq List.length_range)
  omega

theorem scan_eq_occurrences (tokens : pattern.empty = false) (valid : ¬Refused range pattern) (options : Options) :
    (scan memory range pattern options).1 =
      .ok ((firstResults options.maxResults (occurrences memory range pattern)).map (resultAt range)) := by
  obtain ⟨present, fits⟩ := not_refused_iff.mp valid
  rw [scan_eq_ok present tokens fits, filterMap_accept present fits, firstResults]
  split
  · have all : (occurrences memory range pattern).length ≤ UInt64.size - 1 := length_occurrences_lt tokens
    rw [List.take_of_length_le (by rwa [List.length_map])]
    rfl
  · rw [List.map_take]
    rfl

theorem findFirst_eq_head (tokens : pattern.empty = false) (valid : ¬Refused range pattern) :
    (findFirst memory range pattern).1.toOption = (occurrences memory range pattern).head?.map (resultAt range) := by
  have found : (scan memory range pattern { maxResults := 1 }).1 = _ := scan_eq_occurrences tokens valid _
  unfold findFirst
  dsimp only
  rw [found]
  cases occurrences memory range pattern with
  | nil => rfl
  | cons first others => rfl

end Scan

/-- A scan fails on a range that is empty or shorter than the pattern, and otherwise
finds the first offsets of the list of all at which the pattern occurs. The anchor
alone decides nothing, and no byte outside the range is read. -/
theorem scan_spec {signature : Text} {pattern : Pattern} (compiled : Pattern.compile signature = .ok pattern)
    (memory : Memory) (range : MemoryRange) (options : Options) :
    ((∃ error, (scan memory range pattern options).1 = .error error) ↔ Refused range pattern) ∧
    (Refused range pattern → (findFirst memory range pattern).1.toOption = none) ∧
    (¬Refused range pattern → ∃ offsets : List Nat, offsets.Pairwise (· < ·) ∧
      (∀ offset, offset ∈ offsets ↔ Occurs memory range pattern offset) ∧
      (scan memory range pattern options).1 = .ok ((firstResults options.maxResults offsets).map (resultAt range)) ∧
      (findFirst memory range pattern).1.toOption = offsets.head?.map (resultAt range)) ∧
    (∀ offset, accept range (range.bytes memory) pattern offset =
      if candidateMatches ((range.bytes memory).drop offset) pattern then some (resultAt range offset) else none) ∧
    Reading.value memory (PatternReads.scan range pattern options) = scan memory range pattern options ∧
    ∀ address ∈ Reading.footprint memory (PatternReads.scan range pattern options),
      PatternReads.Within range address := by
  have tokens := Pattern.compile_nonempty compiled
  refine ⟨?_, ?_, ?_, accept_eq range _ pattern, PatternReads.value_scan options,
    Reading.forall_footprint (PatternReads.all_scan range pattern options)⟩
  · constructor
    · intro failed
      by_contra valid
      obtain ⟨error, failed⟩ := failed
      rw [scan_eq_occurrences tokens valid] at failed
      cases failed
    · intro refused
      rw [scan_refused refused]
      exact ⟨_, rfl⟩
  · intro refused
    rw [findFirst, scan_refused refused]
    rfl
  · intro valid
    refine ⟨occurrences memory range pattern, pairwise_occurrences memory range pattern, fun offset => ?_,
      scan_eq_occurrences tokens valid options, findFirst_eq_head tokens valid⟩
    rw [mem_occurrences tokens]
    exact and_iff_right (not_refused_iff.mp valid).1

theorem scan_spec_everyByte :
    ¬∃ error, (scan (fun _ => 0xAA) ⟨0x1000, 2⟩ (PatternBatchScanner.oneByte "AA" 0xAA) { maxResults := 0 }).1 =
      .error error := by
  have compiled : Pattern.compile (text "AA") = .ok (PatternBatchScanner.oneByte "AA" 0xAA) := rfl
  rw [(scan_spec compiled (fun _ => 0xAA) ⟨0x1000, 2⟩ { maxResults := 0 }).1, not_refused_iff]
  decide

end PatternScanner

namespace PatternBatchScanner

/-- The bytes from an address on, or none, in a module's image. -/
def Contained (module : ModuleInfo) (first : Address) (size : Nat) : Prop :=
  module.base.toNat ≤ first.toNat ∧ first.toNat + size ≤ module.base.toNat + module.size.toNat

section Image

variable {imageMemory : Memory} {fileName : Text} {moduleBase : Address} {module : ModuleInfo}

theorem section_contained (inspected : ModuleManager.inspect imageMemory fileName moduleBase = .ok module)
    (fits : module.base.toNat + module.size.toNat < 2 ^ 64) {section_ : ModuleSection}
    (member : section_ ∈ module.sections) :
    Contained module section_.range.first section_.range.size.toNat := by
  obtain ⟨virtualAddress, first, bound⟩ := ModuleManager.inspect_sections inspected member
  rw [Contained, first, UInt64.toNat_add, Nat.mod_eq_of_lt (by omega)]
  omega

theorem base_ne_zero (inspected : ModuleManager.inspect imageMemory fileName moduleBase = .ok module) :
    module.base ≠ 0 := by
  unfold ModuleManager.inspect at inspected
  split at inspected
  · cases inspected
  next present =>
    split at inspected
    · cases inspected
    · dsimp only at inspected
      split at inspected
      · cases inspected
      · cases inspected
        exact present

theorem inRange_of_contained (present : module.base ≠ 0) (fits : module.base.toNat + module.size.toNat < 2 ^ 64)
    {address : Address} {size : Nat} (positive : 0 < size) (contained : Contained module address size) :
    address.inRange module.imageRange = true := by
  obtain ⟨after, before⟩ := contained
  have one : (1 : UInt64).toNat = 1 := rfl
  have first : 0 < module.base.toNat := Nat.pos_of_ne_zero fun null => present (UInt64.toNat_inj.mp null)
  have covered : module.imageRange.Covers address (1 : UInt64).toNat := by
    refine ⟨after, ?_⟩
    exact Nat.le_trans (Nat.add_le_add_left positive _) before
  exact (MemoryRange.contains_iff first (Nat.le_of_lt fits) (by rw [one]; decide) address).mpr covered

theorem scanModule_contained (inspected : ModuleManager.inspect imageMemory fileName moduleBase = .ok module)
    (fits : module.base.toNat + module.size.toNat < 2 ^ 64) {memory : Memory} {request : PatternRequest}
    {pattern : Pattern} (untransformed : request.transform = .«match»)
    (compiled : Pattern.compile request.signature = .ok pattern) {outcome : Address × PatternScanStats}
    (scanned : scanModule memory module request = .ok outcome) :
    Contained module outcome.1 pattern.size ∧ request.accepts outcome.1 = true := by
  have tokens := Pattern.compile_nonempty compiled
  rw [scanModule, compiled] at scanned
  cases selected : selectRanges module request with
  | error error =>
    rw [selected] at scanned
    cases scanned
  | ok ranges =>
    rw [selected] at scanned
    obtain ⟨range, member, first, found, transformed, accepted⟩ := scanRanges_sound tokens scanned
    refine ⟨?_, accepted⟩
    rw [applyTransform, untransformed] at transformed
    cases transformed
    obtain ⟨offset, occurs, same⟩ := PatternScanner.firstOccurrence_eq_some found
    have inside := ((PatternScanner.mem_occurrences tokens).mp occurs).2.1
    obtain ⟨section_, listed, rfl⟩ := PatternReads.mem_selectRanges selected member
    obtain ⟨after, before⟩ := section_contained inspected fits listed
    rw [← same, Contained, toNat_add_ofNat (by omega)]
    omega

theorem mem_selectSections {access : ModuleSectionAccess} {range : MemoryRange}
    (member : range ∈ ModuleManager.selectSections module access) :
    range.empty = false ∧ ∃ section_ ∈ module.sections, section_.range = range := by
  obtain ⟨section_, kept, rfl⟩ := List.mem_map.mp member
  obtain ⟨listed, chosen⟩ := List.mem_filter.mp kept
  rw [Bool.and_eq_true, Bool.not_eq_true'] at chosen
  exact ⟨chosen.2, section_, listed, rfl⟩

end Image

theorem resolveOne_after_store (memory : Memory) (module : ModuleInfo) (request : PatternRequest)
    (cache : PatternCache) {address : Address} (accepted : request.accepts address = true)
    (inside : address.inRange module.imageRange = true) :
    ((resolveOne true memory module request).run PatternCache.handler
      (cache.store (cacheKey module request) address module.base)).1 = .ok ⟨request.name, address, true, {}⟩ := by
  let stored := cache.store (cacheKey module request) address module.base
  let looked := (stored.invalidateFingerprint module.name module.fingerprint.value).find (cacheKey module request)
  have hit : looked.1 = some address := by
    have kept : PatternCache.outdated module.name module.fingerprint.value
        (PatternCache.makeEntry (cacheKey module request) address module.base) = false := by
      simp [PatternCache.outdated, PatternCache.makeEntry, cacheKey]
    rw [PatternCache.find_fst, PatternCache.lookup_invalidateFingerprint, PatternCache.lookup_store, if_pos rfl,
      Option.filter_some, kept]
    simp [PatternCache.findEntry, PatternCache.makeEntry]
  have answered : (resolveOne true memory module request).run PatternCache.handler stored =
      (afterFind memory module request looked.1).run PatternCache.handler looked.2 := rfl
  rw [answered, hit, afterFind, accepted, inside]
  rfl

/-- Whatever its header says, the sections of an inspected module lie in its image, and
so do the matches found in them. An address that was found answers later resolutions. -/
theorem matches_inside {imageMemory : Memory} {fileName : Text} {moduleBase : Address} {module : ModuleInfo}
    (inspected : ModuleManager.inspect imageMemory fileName moduleBase = .ok module)
    (fits : module.base.toNat + module.size.toNat < 2 ^ 64) :
    (∀ section_ ∈ module.sections, Contained module section_.range.first section_.range.size.toNat) ∧
    (∀ access, ∀ range ∈ ModuleManager.selectSections module access,
      range.empty = false ∧ Contained module range.first range.size.toNat) ∧
    ∀ memory request pattern, request.transform = .«match» → Pattern.compile request.signature = .ok pattern →
      ∀ cached cache resolution after,
        (resolveOne cached memory module request).run PatternCache.handler cache = (.ok resolution, after) →
        resolution.address.inRange module.imageRange = true ∧
        (resolution.cacheHit = false → Contained module resolution.address pattern.size ∧
          (cached = true → ∀ later, ((resolveOne true later module request).run PatternCache.handler after).1 =
            .ok ⟨request.name, resolution.address, true, {}⟩)) := by
  refine ⟨fun section_ member => section_contained inspected fits member, ?_, ?_⟩
  · intro access range member
    obtain ⟨filled, section_, listed, rfl⟩ := mem_selectSections member
    exact ⟨filled, section_contained inspected fits listed⟩
  · intro memory request pattern untransformed compiled cached cache resolution after resolved
    have scans {outcome : Address × PatternScanStats} (scanned : scanModule memory module request = .ok outcome) :
        outcome.1.inRange module.imageRange = true ∧ Contained module outcome.1 pattern.size ∧
          request.accepts outcome.1 = true := by
      obtain ⟨contained, accepted⟩ := scanModule_contained inspected fits untransformed compiled scanned
      have positive := Pattern.size_pos (Pattern.compile_nonempty compiled)
      exact ⟨inRange_of_contained (base_ne_zero inspected) fits positive contained, contained, accepted⟩
    cases cached with
    | false =>
      rw [resolveOne, if_neg Bool.false_ne_true, scanAndStore] at resolved
      cases scanned : scanModule memory module request with
      | error error =>
        rw [scanned] at resolved
        cases resolved
      | ok outcome =>
        rw [scanned] at resolved
        cases resolved
        obtain ⟨inside, contained, _⟩ := scans scanned
        exact ⟨inside, fun _ => ⟨contained, fun uncached => absurd uncached Bool.false_ne_true⟩⟩
    | true =>
      rcases resolveOne_cases memory module request cache with
        ⟨address, _, _, inside, outcome⟩ | ⟨before, _, ⟨error, _, outcome⟩ | ⟨address, statistics, scanned, outcome⟩⟩
      · rw [resolved] at outcome
        cases outcome
        exact ⟨inside, fun scanned => absurd scanned.symm Bool.false_ne_true⟩
      · rw [resolved] at outcome
        cases outcome
      · rw [resolved] at outcome
        cases outcome
        obtain ⟨inside, contained, accepted⟩ := scans scanned
        exact ⟨inside, fun _ => ⟨contained, fun _ later =>
          resolveOne_after_store later module request before accepted inside⟩⟩

theorem matches_inside_call : Contained PatternReads.inspectedModule 0x103F8 1 := by
  have inspected : ModuleManager.inspect (PatternReads.imageWithCall 0x103F8) (text "game.exe") 0x10000 =
      .ok PatternReads.inspectedModule := by decide +kernel
  have resolved : (resolveOne false (PatternReads.imageWithCall 0x103F8) PatternReads.inspectedModule
      (requestFor "E8")).run PatternCache.handler {} = (.ok ⟨text "target", 0x103F8, false, ⟨16, 9, 1⟩⟩, {}) :=
    Prod.ext (by decide +kernel) rfl
  exact (((matches_inside inspected (by decide)).2.2 _ _ (oneByte "E8" 0xE8) rfl rfl _ _ _ _ resolved).2 rfl).1

end PatternBatchScanner

end DevilzDen.Backend
