import DevilzDen.Backend.Memory.Module
import DevilzDen.Backend.Memory.PatternCache
import DevilzDen.Backend.Memory.PatternScanner
import DevilzDen.Foundation.Run

/-! Resolution of named pattern requests, with and without the shared cache.

`resolveOne` and `resolve` are programs over the atomic operations of the
cache, so the same definitions run alone or interleaved with other jobs. Log
records and elapsed times are left out.
-/

set_option autoImplicit false

namespace DevilzDen.Backend

open Foundation

inductive PatternAddressTransform where
  | «match»
  | addOffset
  | resolveRelative32
  deriving DecidableEq, Repr

/-- The validator is a total pure predicate; `none` is the empty `std::function`. -/
structure PatternRequest where
  name : Text
  signature : Text
  sectionName : Option Text := none
  access : ModuleSectionAccess := .executableReadable
  transform : PatternAddressTransform := .«match»
  offset : Int64 := 0
  relativeDisplacementOffset : Int64 := 0
  relativeInstructionSize : UInt64 := 0
  validator : Option (Address → Bool) := none

/-- `!request.validator || request.validator(address)` -/
def PatternRequest.accepts (request : PatternRequest) (address : Address) : Bool :=
  match request.validator with
  | none => true
  | some validator => validator address

structure PatternResolution where
  name : Text
  address : Address
  cacheHit : Bool := false
  statistics : PatternScanStats := {}
  deriving DecidableEq, Repr

def PatternScanStats.add (first second : PatternScanStats) : PatternScanStats where
  bytesScanned := first.bytesScanned + second.bytesScanned
  candidateCount := first.candidateCount + second.candidateCount
  matchCount := first.matchCount + second.matchCount

namespace PatternBatchScanner

abbrev CacheProgram := Program PatternCache.Action PatternCache.Reply

def applyTransform (memory : Memory) (matched : Address) (request : PatternRequest) : Result Address :=
  match request.transform with
  | .«match» => .ok matched
  | .addOffset => .ok (matched.add request.offset)
  | .resolveRelative32 =>
      let instruction := matched.add request.offset
      let available : MemoryRange := ⟨instruction, request.relativeInstructionSize⟩
      match instruction.resolveRelative32 memory request.relativeDisplacementOffset
          request.relativeInstructionSize available with
      | none =>
          .error ((Error.runtime "Unable to resolve pattern relative address").withContext
            "Pattern" request.name)
      | some resolved => .ok resolved

def notFound (module : ModuleInfo) (request : PatternRequest) (aggregate : PatternScanStats) : Error :=
  ((((Error.runtime "Pattern was not found").withContext "Pattern" request.name).withContext
    "Module" module.name).withContext "Signature" request.signature).withContext
    "BytesScanned" (decimal aggregate.bytesScanned)

/-- The first range whose first match transforms to an accepted address. -/
def scanRanges (memory : Memory) (module : ModuleInfo) (request : PatternRequest) (pattern : Pattern) :
    List MemoryRange → PatternScanStats → Result (Address × PatternScanStats)
  | [], aggregate => .error (notFound module request aggregate)
  | range :: later, aggregate =>
      let found := PatternScanner.findFirst memory range pattern
      let scanned := aggregate.add found.2
      match found.1 with
      -- a range without a match is skipped; its statistics still count
      | .error _ => scanRanges memory module request pattern later scanned
      | .ok first =>
          match applyTransform memory first.address request with
          | .error error => .error error
          | .ok transformed =>
              if request.accepts transformed then .ok (transformed, scanned)
              else scanRanges memory module request pattern later scanned

def selectRanges (module : ModuleInfo) (request : PatternRequest) : Result (List MemoryRange) :=
  match request.sectionName with
  | some sectionName =>
      match ModuleManager.findSection module sectionName with
      | .error error => .error (error.withContext "PatternName" request.name)
      | .ok range => .ok [range]
  | none => .ok (ModuleManager.selectSections module request.access)

def scanModule (memory : Memory) (module : ModuleInfo) (request : PatternRequest) :
    Result (Address × PatternScanStats) :=
  match Pattern.compile request.signature with
  | .error error => .error (error.withContext "PatternName" request.name)
  | .ok pattern =>
      match selectRanges module request with
      | .error error => .error error
      | .ok ranges => scanRanges memory module request pattern ranges {}

def cacheKey (module : ModuleInfo) (request : PatternRequest) : PatternCacheKey :=
  ⟨module.name, request.name, module.fingerprint.value⟩

def scanAndStore (cached : Bool) (memory : Memory) (module : ModuleInfo) (request : PatternRequest) :
    CacheProgram (Result PatternResolution) :=
  match scanModule memory module request with
  | .error error => .done (.error error)
  | .ok (address, statistics) =>
      let resolution : PatternResolution := ⟨request.name, address, false, statistics⟩
      if cached then
        .perform (.store (cacheKey module request) address module.base) fun _ => .done (.ok resolution)
      else .done (.ok resolution)

/-- What follows the lookup: a usable hit answers, another one is dropped first. -/
def afterFind (memory : Memory) (module : ModuleInfo) (request : PatternRequest) :
    Option Address → CacheProgram (Result PatternResolution)
  | some address =>
      if request.accepts address && address.inRange module.imageRange then
        .done (.ok ⟨request.name, address, true, {}⟩)
      else
        .perform (.invalidate module.name request.name) fun _ =>
          scanAndStore true memory module request
  | none => scanAndStore true memory module request

/-- `cached` tells whether `m_cache` points to a cache. -/
def resolveOne (cached : Bool) (memory : Memory) (module : ModuleInfo) (request : PatternRequest) :
    CacheProgram (Result PatternResolution) :=
  if cached then
    .perform (.invalidateFingerprint module.name module.fingerprint.value) fun _ =>
      .perform (.find (cacheKey module request)) (afterFind memory module request)
  else scanAndStore cached memory module request

def resolveFrom (cached : Bool) (memory : Memory) (module : ModuleInfo) :
    List PatternRequest → List PatternResolution → CacheProgram (Result (List PatternResolution))
  | [], resolutions => .done (.ok resolutions)
  | request :: later, resolutions =>
      (resolveOne cached memory module request).bind fun
        | .error error => .done (.error error)
        | .ok resolution => resolveFrom cached memory module later (resolutions ++ [resolution])

def resolve (cached : Bool) (memory : Memory) (module : ModuleInfo) (requests : List PatternRequest) :
    CacheProgram (Result (List PatternResolution)) :=
  resolveFrom cached memory module requests []

/-- `ResolveOne` with `m_cache = nullptr`: it performs no cache operation. -/
def resolveUncached (memory : Memory) (module : ModuleInfo) (request : PatternRequest) :
    Result PatternResolution :=
  ((resolveOne false memory module request).run PatternCache.handler {}).1

theorem resolveUncached_eq (memory : Memory) (module : ModuleInfo) (request : PatternRequest) :
    resolveUncached memory module request =
      (scanModule memory module request).map fun scanned =>
        ⟨request.name, scanned.1, false, scanned.2⟩ := by
  unfold resolveUncached resolveOne scanAndStore
  cases scanModule memory module request with
  | error error => rfl
  | ok scanned => rfl

/-! ## What one resolution does to the cache -/

/-- The three ways a resolution with a cache can go, with the cache it leaves:
a usable hit, a failed scan, or a scan whose result is stored. The scan starts
from the cache after the lookup, or after the unusable hit is dropped. -/
theorem resolveOne_cases (memory : Memory) (module : ModuleInfo) (request : PatternRequest)
    (cache : PatternCache) :
    let key := cacheKey module request
    let looked := (cache.invalidateFingerprint module.name module.fingerprint.value).find key
    let outcome := (resolveOne true memory module request).run PatternCache.handler cache
    (∃ address, looked.1 = some address ∧ request.accepts address = true ∧
        address.inRange module.imageRange = true ∧
        outcome = (.ok ⟨request.name, address, true, {}⟩, looked.2)) ∨
      ∃ before, (before = looked.2 ∨ before = looked.2.invalidate module.name request.name) ∧
        ((∃ error, scanModule memory module request = .error error ∧ outcome = (.error error, before)) ∨
          ∃ address statistics, scanModule memory module request = .ok (address, statistics) ∧
            outcome = (.ok ⟨request.name, address, false, statistics⟩,
              before.store key address module.base)) := by
  intro key looked outcome
  have unfolded : outcome = (afterFind memory module request looked.1).run PatternCache.handler looked.2 :=
    rfl
  have scans : ∀ before : PatternCache,
      let scanned := (scanAndStore true memory module request).run PatternCache.handler before
      (∃ error, scanModule memory module request = .error error ∧ scanned = (.error error, before)) ∨
        ∃ address statistics, scanModule memory module request = .ok (address, statistics) ∧
          scanned = (.ok ⟨request.name, address, false, statistics⟩,
            before.store key address module.base) := by
    intro before
    unfold scanAndStore
    cases scanModule memory module request with
    | error error => exact Or.inl ⟨error, rfl, rfl⟩
    | ok result => exact Or.inr ⟨result.1, result.2, rfl, rfl⟩
  -- a miss scans; a hit is tested by the validator and against the image first
  cases hit : looked.1 with
  | none =>
    rw [hit] at unfolded
    exact Or.inr ⟨looked.2, Or.inl rfl, unfolded ▸ scans looked.2⟩
  | some address =>
    rw [hit, afterFind] at unfolded
    by_cases usable : (request.accepts address && address.inRange module.imageRange) = true
    · rw [if_pos usable] at unfolded
      rw [Bool.and_eq_true] at usable
      exact Or.inl ⟨address, rfl, usable.1, usable.2, unfolded⟩
    · rw [if_neg usable] at unfolded
      exact Or.inr ⟨_, Or.inr rfl, unfolded ▸ scans _⟩

/-! ## Where the addresses of a shared cache come from -/

/-- A request for a module, with the bytes mapped when it is made. -/
structure Presented where
  memory : Memory
  module : ModuleInfo
  request : PatternRequest

namespace Presented

def key (presented : Presented) : PatternCacheKey := cacheKey presented.module presented.request

def uncached (presented : Presented) : Result PatternResolution :=
  resolveUncached presented.memory presented.module presented.request

def withCache (presented : Presented) (cache : PatternCache) : Result PatternResolution × PatternCache :=
  (resolveOne true presented.memory presented.module presented.request).run PatternCache.handler cache

end Presented

structure Call where
  memory : Memory
  module : ModuleInfo
  requests : List PatternRequest

def Call.presented (call : Call) : List Presented :=
  call.requests.map fun request => ⟨call.memory, call.module, request⟩

def Call.resolve (cache : PatternCache) (call : Call) : PatternCache :=
  ((PatternBatchScanner.resolve true call.memory call.module call.requests).run
    PatternCache.handler cache).2

/-- Every address in the cache is the one that a request of the list, under the
same key, resolves to without a cache. -/
def Traced (origins : List Presented) (cache : PatternCache) : Prop :=
  ∀ stable entry, cache.entries.lookup stable = some entry →
    ∃ origin ∈ origins, origin.key.stableKey = stable ∧
      origin.key.moduleFingerprint = entry.key.moduleFingerprint ∧
      ∃ scanned, origin.uncached = .ok scanned ∧ scanned.address = entry.address

namespace Traced

variable {origins : List Presented} {cache : PatternCache}

theorem invalidateFingerprint (traced : Traced origins cache) (module : Text)
    (validFingerprint : UInt64) : Traced origins (cache.invalidateFingerprint module validFingerprint) := by
  intro stable entry found
  rw [PatternCache.lookup_invalidateFingerprint, Option.filter_eq_some_iff] at found
  exact traced stable entry found.1

theorem invalidate (traced : Traced origins cache) (module name : Text) :
    Traced origins (cache.invalidate module name) := by
  intro stable entry found
  rw [PatternCache.lookup_invalidate] at found
  split at found
  · cases found
  · exact traced stable entry found

theorem find (traced : Traced origins cache) (key : PatternCacheKey) :
    Traced origins (cache.find key).2 := by
  intro stable entry found
  rw [PatternCache.lookup_find] at found
  split at found
  next same =>
    cases before : cache.entries.lookup key.stableKey with
    | none => simp [before, PatternCache.findEntry] at found
    | some old =>
      obtain ⟨origin, member, named, fingerprint, resolved⟩ := traced _ old before
      refine ⟨origin, member, named.trans same.symm, ?_⟩
      -- a hit only counts itself in the entry it answers from
      rw [before, PatternCache.findEntry] at found
      split at found <;> cases found <;> exact ⟨fingerprint, resolved⟩
  next => exact traced stable entry found

theorem store (traced : Traced origins cache) {origin : Presented} (member : origin ∈ origins)
    {scanned : PatternResolution} (resolved : origin.uncached = .ok scanned) (moduleBase : Address) :
    Traced origins (cache.store origin.key scanned.address moduleBase) := by
  intro stable entry found
  rw [PatternCache.lookup_store] at found
  split at found
  next same =>
    cases found
    exact ⟨origin, member, same.symm, rfl, scanned, resolved, rfl⟩
  next => exact traced stable entry found

theorem withCache (traced : Traced origins cache) {origin : Presented} (member : origin ∈ origins) :
    Traced origins (origin.withCache cache).2 := by
  have looked := (traced.invalidateFingerprint origin.module.name
    origin.module.fingerprint.value).find origin.key
  rcases resolveOne_cases origin.memory origin.module origin.request cache with
    ⟨address, _, _, _, outcome⟩ | ⟨before, started, ⟨error, _, outcome⟩ | ⟨address, statistics, scanned, outcome⟩⟩
  · rw [Presented.withCache, outcome]
    exact looked
  · rw [Presented.withCache, outcome]
    rcases started with rfl | rfl
    · exact looked
    · exact looked.invalidate _ _
  · have resolved : origin.uncached =
        .ok ⟨origin.request.name, address, false, statistics⟩ := by
      rw [Presented.uncached, resolveUncached_eq, scanned]
      rfl
    rw [Presented.withCache, outcome]
    rcases started with rfl | rfl
    · exact looked.store member resolved _
    · exact (looked.invalidate _ _).store member resolved _

/-- A whole call keeps the cache traced, wherever it stops. -/
theorem resolveFrom {memory : Memory} {module : ModuleInfo} {requests : List PatternRequest}
    (traced : Traced origins cache)
    (listed : ∀ request ∈ requests, (⟨memory, module, request⟩ : Presented) ∈ origins)
    (resolutions : List PatternResolution) :
    Traced origins ((PatternBatchScanner.resolveFrom true memory module requests resolutions).run
      PatternCache.handler cache).2 := by
  induction requests generalizing cache resolutions with
  | nil => exact traced
  | cons request later ih =>
    have first := traced.withCache (listed request List.mem_cons_self)
    rw [PatternBatchScanner.resolveFrom, Program.run_bind]
    split
    · exact first
    · exact ih first (fun other member => listed other (List.mem_cons_of_mem _ member)) _

end Traced

def twoByteMemory : Memory := fun address => if address = 0x1001 then 0xBB else 0xAA

def twoByteModule : ModuleInfo where
  name := text "game.exe"
  base := 0x1000
  size := 2
  fingerprint := ⟨1, 2, 3⟩
  sections := [⟨text ".text", ⟨0x1000, 2⟩, 0x60000000⟩]

def requestFor (signature : String) : PatternRequest :=
  { name := text "target", signature := text signature }

end PatternBatchScanner

end DevilzDen.Backend
