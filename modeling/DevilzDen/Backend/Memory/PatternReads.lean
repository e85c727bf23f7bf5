import DevilzDen.Backend.Memory.PatternCompleteness
import DevilzDen.Foundation.Reading

/-! The bytes that a resolution reads.

The scan and the decoding of a displacement are programs over single bytes
here. They compute what the definitions over whole ranges do, and their
footprint is what `ResolveOne` reads.
-/

set_option autoImplicit false

namespace DevilzDen.Backend

open Foundation

abbrev ByteReading := Reading Address UInt8

namespace PatternReads

def compare (address : Address) (token : Pattern.Token) : ByteReading Bool :=
  (Reading.read address).map fun byte => byte == token.value

def anchorMatches (range : MemoryRange) (pattern : Pattern) (offset : Nat) : ByteReading Bool :=
  Reading.all (fun a => compare (range.first + UInt64.ofNat (offset + pattern.anchorOffset + a))
    (pattern.tokens.getD (pattern.anchorOffset + a) {})) pattern.anchorLength 0

/-- `Matches`; a wildcard's byte is not read. -/
def candidateMatches (range : MemoryRange) (pattern : Pattern) (offset : Nat) : ByteReading Bool :=
  Reading.all (fun index =>
    let token := pattern.tokens.getD index {}
    if token.wildcard then .done true else compare (range.first + UInt64.ofNat (offset + index)) token)
    pattern.size 0

def accept (range : MemoryRange) (pattern : Pattern) (offset : Nat) : ByteReading (Option PatternScanResult) :=
  (anchorMatches range pattern offset).bind fun anchored =>
    (if anchored then candidateMatches range pattern offset else .done false).map fun verified =>
      if verified then some { address := range.first + UInt64.ofNat offset, offset := offset } else none

def scan (range : MemoryRange) (pattern : Pattern) (options : PatternScanner.Options := {}) :
    ByteReading (Result (List PatternScanResult) × PatternScanStats) :=
  if range.empty || pattern.empty || pattern.size > range.size.toNat then
    .done (.error (Error.runtime "Invalid pattern scan range or pattern"), {})
  else
    let maxResults := if options.maxResults = 0 then UInt64.size - 1 else options.maxResults.toNat
    let limit := range.size.toNat - pattern.size + 1
    (Reading.search (accept range pattern) maxResults limit 0 []).map fun outcome =>
      (.ok outcome.1,
        { bytesScanned := range.size.toNat
          candidateCount := outcome.2
          matchCount := outcome.1.length })

def findFirst (range : MemoryRange) (pattern : Pattern) :
    ByteReading (Result PatternScanResult × PatternScanStats) :=
  (scan range pattern { maxResults := 1 }).map fun outcome =>
    match outcome.1 with
    | .error error => (.error error, outcome.2)
    | .ok [] =>
        (.error ((Error.runtime "Pattern was not found").withContext "Pattern" pattern.source), outcome.2)
    | .ok (first :: _) => (.ok first, outcome.2)

def resolveRelative32 (pointer : Address) (displacementOffset : Int64) (instructionSize : UInt64)
    (readableRange : MemoryRange) : ByteReading (Option Address) :=
  let displacementAddress := pointer.add displacementOffset
  if !displacementAddress.inRange readableRange 4 then .done none
  else
    (Reading.block ((List.range 4).map fun index => displacementAddress + UInt64.ofNat index)).map fun bytes =>
      let displacement : Int32 := (UInt32.ofNat (littleEndian bytes)).toInt32
      let target := pointer.add (instructionSize.toInt64 + displacement.toInt64)
      if target ≠ 0 then some target else none

def applyTransform (matched : Address) (request : PatternRequest) : ByteReading (Result Address) :=
  match request.transform with
  | .«match» => .done (.ok matched)
  | .addOffset => .done (.ok (matched.add request.offset))
  | .resolveRelative32 =>
      let instruction := matched.add request.offset
      let available : MemoryRange := ⟨instruction, request.relativeInstructionSize⟩
      (resolveRelative32 instruction request.relativeDisplacementOffset request.relativeInstructionSize
        available).map fun
        | none =>
            .error ((Error.runtime "Unable to resolve pattern relative address").withContext
              "Pattern" request.name)
        | some resolved => .ok resolved

def scanRanges (module : ModuleInfo) (request : PatternRequest) (pattern : Pattern) :
    List MemoryRange → PatternScanStats → ByteReading (Result (Address × PatternScanStats))
  | [], aggregate => .done (.error (PatternBatchScanner.notFound module request aggregate))
  | range :: later, aggregate =>
      (findFirst range pattern).bind fun found =>
        let scanned := aggregate.add found.2
        match found.1 with
        | .error _ => scanRanges module request pattern later scanned
        | .ok first =>
            (applyTransform first.address request).bind fun
              | .error error => .done (.error error)
              | .ok transformed =>
                  if request.accepts transformed then .done (.ok (transformed, scanned))
                  else scanRanges module request pattern later scanned

def scanModule (module : ModuleInfo) (request : PatternRequest) :
    ByteReading (Result (Address × PatternScanStats)) :=
  match Pattern.compile request.signature with
  | .error error => .done (.error (error.withContext "PatternName" request.name))
  | .ok pattern =>
      match PatternBatchScanner.selectRanges module request with
      | .error error => .done (.error error)
      | .ok ranges => scanRanges module request pattern ranges {}

/-- The actions of `ResolveOne`: on the cache, and single bytes read. -/
abbrev ResolveProgram := Program (PatternCache.Action ⊕ Address) (Reading.Answer PatternCache.Reply Address UInt8)

def scanAndStore (cached : Bool) (module : ModuleInfo) (request : PatternRequest) :
    ResolveProgram (Result PatternResolution) :=
  (Reading.embed PatternCache.Reply (scanModule module request)).bind fun
    | .error error => .done (.error error)
    | .ok (address, statistics) =>
        let resolution : PatternResolution := ⟨request.name, address, false, statistics⟩
        if cached then
          .perform (.inl (.store (PatternBatchScanner.cacheKey module request) address module.base)) fun _ =>
            .done (.ok resolution)
        else .done (.ok resolution)

def afterFind (module : ModuleInfo) (request : PatternRequest) :
    Option Address → ResolveProgram (Result PatternResolution)
  | some address =>
      if request.accepts address && address.inRange module.imageRange then
        .done (.ok ⟨request.name, address, true, {}⟩)
      else
        .perform (.inl (.invalidate module.name request.name)) fun _ => scanAndStore true module request
  | none => scanAndStore true module request

def resolveOne (cached : Bool) (module : ModuleInfo) (request : PatternRequest) :
    ResolveProgram (Result PatternResolution) :=
  if cached then
    .perform (.inl (.invalidateFingerprint module.name module.fingerprint.value)) fun _ =>
      .perform (.inl (.find (PatternBatchScanner.cacheKey module request))) (afterFind module request)
  else scanAndStore cached module request

def outcome (memory : Memory) (cached : Bool) (module : ModuleInfo) (request : PatternRequest)
    (cache : PatternCache) : Result PatternResolution × PatternCache × List Address :=
  (resolveOne cached module request).run (Reading.handler memory PatternCache.handler) (cache, [])

def reads (memory : Memory) (cached : Bool) (module : ModuleInfo) (request : PatternRequest)
    (cache : PatternCache) : List Address :=
  (outcome memory cached module request cache).2.2

/-! ## The programs compute what the definitions over ranges do -/

section Values

variable {memory : Memory} {range : MemoryRange} {pattern : Pattern} {offset : Nat}

@[simp] theorem value_compare (address : Address) (token : Pattern.Token) :
    Reading.value memory (compare address token) = (memory address == token.value) := by
  rw [compare, Reading.value_map, Reading.value_read]

theorem value_anchorMatches (present : range.empty = false) (inside : offset + pattern.size ≤ range.size.toNat) :
    Reading.value memory (anchorMatches range pattern offset) =
      PatternScanner.anchorMatches (range.bytes memory) pattern offset := by
  rw [PatternScanner.anchorMatches, List.range_eq_range']
  apply Reading.value_all
  intro a _ before
  have within := pattern.anchor_inside (by omega : a < pattern.anchorLength)
  rw [value_compare, PatternScanner.getD_bytes present (by omega)]

theorem value_candidateMatches (present : range.empty = false)
    (inside : offset + pattern.size ≤ range.size.toNat) :
    Reading.value memory (candidateMatches range pattern offset) =
      PatternScanner.candidateMatches ((range.bytes memory).drop offset) pattern := by
  rw [PatternScanner.candidateMatches, List.range_eq_range']
  apply Reading.value_all
  intro index _ before
  rw [PatternScanner.getD_drop_bytes present (by omega)]
  generalize pattern.tokens.getD index {} = token
  dsimp only
  cases token.wildcard with
  | true => rfl
  | false => rw [Bool.false_or, if_neg Bool.false_ne_true, value_compare]

theorem value_accept (present : range.empty = false) (inside : offset + pattern.size ≤ range.size.toNat) :
    Reading.value memory (accept range pattern offset) =
      PatternScanner.accept range (range.bytes memory) pattern offset := by
  rw [accept, Reading.value_bind, Reading.value_map, PatternScanner.accept, value_anchorMatches present inside]
  cases PatternScanner.anchorMatches (range.bytes memory) pattern offset with
  | false => rfl
  | true => rw [if_pos rfl, value_candidateMatches present inside, Bool.true_and]

theorem value_scan (options : PatternScanner.Options) : Reading.value memory (scan range pattern options) =
    PatternScanner.scan memory range pattern options := by
  unfold scan PatternScanner.scan
  split
  · rfl
  next valid =>
    simp only [Bool.or_eq_true, decide_eq_true_eq, not_or, Bool.not_eq_true] at valid
    obtain ⟨⟨present, _⟩, fits⟩ := valid
    have searched (maximum : Nat) : Reading.value memory (Reading.search (accept range pattern) maximum
        (range.size.toNat - pattern.size + 1) 0 []) = search (PatternScanner.accept range (range.bytes memory) pattern)
          maximum (range.size.toNat - pattern.size + 1) 0 [] :=
      Reading.value_search (fun offset _ before => value_accept present (by omega)) []
    simp only [Reading.value_map, searched, PatternScanner.length_bytes memory present]

theorem value_findFirst : Reading.value memory (findFirst range pattern) =
    PatternScanner.findFirst memory range pattern := by
  rw [findFirst, Reading.value_map, value_scan]
  rfl

theorem value_resolveRelative32 (pointer : Address) (displacementOffset : Int64) (instructionSize : UInt64)
    (readableRange : MemoryRange) :
    Reading.value memory (resolveRelative32 pointer displacementOffset instructionSize readableRange) =
      pointer.resolveRelative32 memory displacementOffset instructionSize readableRange := by
  unfold resolveRelative32 Address.resolveRelative32
  dsimp only
  split
  · rfl
  · rw [Reading.value_map, Reading.value_block, List.map_map]
    rfl

theorem value_applyTransform (matched : Address) (request : PatternRequest) :
    Reading.value memory (applyTransform matched request) =
      PatternBatchScanner.applyTransform memory matched request := by
  unfold applyTransform PatternBatchScanner.applyTransform
  cases request.transform with
  | «match» => rfl
  | addOffset => rfl
  | resolveRelative32 =>
    dsimp only
    rw [Reading.value_map]
    cases decoded : Address.resolveRelative32 memory (matched.add request.offset) request.relativeDisplacementOffset
        request.relativeInstructionSize ⟨matched.add request.offset, request.relativeInstructionSize⟩ with
    | none => rw [value_resolveRelative32, decoded]
    | some resolved => rw [value_resolveRelative32, decoded]

theorem value_scanRanges (module : ModuleInfo) (request : PatternRequest) (ranges : List MemoryRange)
    (aggregate : PatternScanStats) :
    Reading.value memory (scanRanges module request pattern ranges aggregate) =
      PatternBatchScanner.scanRanges memory module request pattern ranges aggregate := by
  induction ranges generalizing aggregate with
  | nil => rfl
  | cons range later ih =>
    rw [scanRanges, Reading.value_bind, value_findFirst, PatternBatchScanner.scanRanges]
    dsimp only
    cases (PatternScanner.findFirst memory range pattern).1 with
    | error error => exact ih _
    | ok first =>
      dsimp only
      rw [Reading.value_bind, value_applyTransform]
      cases PatternBatchScanner.applyTransform memory first.address request with
      | error error => rfl
      | ok transformed =>
        dsimp only
        split
        · rfl
        · exact ih _

theorem value_scanModule (module : ModuleInfo) (request : PatternRequest) :
    Reading.value memory (scanModule module request) = PatternBatchScanner.scanModule memory module request := by
  unfold scanModule PatternBatchScanner.scanModule
  cases Pattern.compile request.signature with
  | error error => rfl
  | ok pattern =>
    cases PatternBatchScanner.selectRanges module request with
    | error error => rfl
    | ok ranges => exact value_scanRanges _ _ _ _

theorem scanModule_congr {memory other : Memory} {module : ModuleInfo} {request : PatternRequest}
    (agree : ∀ address ∈ Reading.footprint memory (scanModule module request), other address = memory address) :
    PatternBatchScanner.scanModule other module request = PatternBatchScanner.scanModule memory module request := by
  rw [← value_scanModule, ← value_scanModule, Reading.value_congr agree]

end Values

def answers (cached : Bool) (module : ModuleInfo) (request : PatternRequest) (cache : PatternCache) : Bool :=
  cached &&
    match ((cache.invalidateFingerprint module.name module.fingerprint.value).find
        (PatternBatchScanner.cacheKey module request)).1 with
    | none => false
    | some address => request.accepts address && address.inRange module.imageRange

theorem run_scanAndStore (memory : Memory) (cached : Bool) (module : ModuleInfo) (request : PatternRequest)
    (cache : PatternCache) (cells : List Address) :
    (scanAndStore cached module request).run (Reading.handler memory PatternCache.handler) (cache, cells) =
      let stored := (PatternBatchScanner.scanAndStore cached memory module request).run PatternCache.handler cache
      (stored.1, (stored.2, cells ++ Reading.footprint memory (scanModule module request))) := by
  rw [scanAndStore, Program.run_bind, Reading.run_embed, value_scanModule, PatternBatchScanner.scanAndStore]
  cases PatternBatchScanner.scanModule memory module request with
  | error error => rfl
  | ok scanned =>
    cases cached with
    | false => rfl
    | true => rfl

/-- The program of single reads resolves as the definitions over ranges do. Where
no cache entry answers, it reads what the scan does. -/
theorem outcome_eq (memory : Memory) (cached : Bool) (module : ModuleInfo) (request : PatternRequest)
    (cache : PatternCache) :
    outcome memory cached module request cache =
      let resolved := (PatternBatchScanner.resolveOne cached memory module request).run PatternCache.handler cache
      (resolved.1, (resolved.2, if answers cached module request cache then []
        else Reading.footprint memory (scanModule module request))) := by
  cases cached with
  | false => exact run_scanAndStore memory false module request cache []
  | true =>
    let looked := (cache.invalidateFingerprint module.name module.fingerprint.value).find
      (PatternBatchScanner.cacheKey module request)
    have bytes : outcome memory true module request cache =
        (afterFind module request looked.1).run (Reading.handler memory PatternCache.handler) (looked.2, []) := rfl
    have ranges : (PatternBatchScanner.resolveOne true memory module request).run PatternCache.handler cache =
        (PatternBatchScanner.afterFind memory module request looked.1).run PatternCache.handler looked.2 := rfl
    have answered : answers true module request cache = match looked.1 with
      | none => false
      | some address => request.accepts address && address.inRange module.imageRange := rfl
    rw [bytes, ranges, answered]
    cases looked.1 with
    | none => exact run_scanAndStore memory true module request _ []
    | some address =>
      rw [afterFind, PatternBatchScanner.afterFind]
      by_cases usable : (request.accepts address && address.inRange module.imageRange) = true
      · rw [if_pos usable, if_pos usable, if_pos usable]
        rfl
      · rw [if_neg usable, if_neg usable, if_neg usable]
        exact run_scanAndStore memory true module request _ []

/-! ## Where the bytes lie -/

def Within (range : MemoryRange) (address : Address) : Prop :=
  ∃ index < range.size.toNat, address = range.first + UInt64.ofNat index

theorem all_compare {allowed : Address → Prop} {address : Address} (inside : allowed address)
    (token : Pattern.Token) : (compare address token).All allowed := ⟨inside, fun _ => trivial⟩

theorem all_accept {range : MemoryRange} {pattern : Pattern} {offset : Nat}
    (inside : offset + pattern.size ≤ range.size.toNat) : (accept range pattern offset).All (Within range) := by
  refine Program.all_bind (Reading.all_all fun a _ before => ?_) fun anchored => Program.all_bind ?_ fun _ => trivial
  · have within := pattern.anchor_inside (by omega : a < pattern.anchorLength)
    exact all_compare ⟨_, by omega, rfl⟩ _
  · cases anchored with
    | false => trivial
    | true =>
      apply Reading.all_all
      intro index _ before
      dsimp only
      split
      · trivial
      · exact all_compare ⟨_, by omega, rfl⟩ _

theorem all_scan (range : MemoryRange) (pattern : Pattern) (options : PatternScanner.Options) :
    (scan range pattern options).All (Within range) := by
  unfold scan
  split
  · trivial
  next valid =>
    simp only [Bool.or_eq_true, decide_eq_true_eq, not_or] at valid
    refine Program.all_bind (Reading.all_search (fun offset _ before => all_accept ?_) []) fun _ => trivial
    omega

theorem all_findFirst (range : MemoryRange) (pattern : Pattern) : (findFirst range pattern).All (Within range) :=
  Program.all_bind (all_scan range pattern _) fun _ => trivial

def displacementAddress (matched : Address) (request : PatternRequest) : Address :=
  (matched.add request.offset).add request.relativeDisplacementOffset

/-- Whether a displacement is read for a match: only a relative operand has one,
and it must lie in the instruction that the request describes. -/
def decodes (matched : Address) (request : PatternRequest) : Bool :=
  request.transform == .resolveRelative32 && (displacementAddress matched request).inRange
    ⟨matched.add request.offset, request.relativeInstructionSize⟩ 4

theorem footprint_applyTransform (memory : Memory) (matched : Address) (request : PatternRequest) :
    Reading.footprint memory (applyTransform matched request) =
      if decodes matched request then
        (List.range 4).map fun index => displacementAddress matched request + UInt64.ofNat index
      else [] := by
  unfold applyTransform decodes
  cases request.transform with
  | «match» => rfl
  | addOffset => rfl
  | resolveRelative32 =>
    dsimp only
    rw [Reading.footprint_map, resolveRelative32]
    dsimp only
    rw [← displacementAddress, beq_self_eq_true, Bool.true_and]
    cases (displacementAddress matched request).inRange
      ⟨matched.add request.offset, request.relativeInstructionSize⟩ 4 with
    | false => rfl
    | true =>
      simp only [Bool.not_true, Bool.false_eq_true, if_false, if_true]
      rw [Reading.footprint_map, Reading.footprint_block]

def Inside (module : ModuleInfo) (address : Address) : Prop :=
  module.base.toNat ≤ address.toNat ∧ address.toNat < module.base.toNat + module.size.toNat

/-- A match whose displacement is read, and does not lie in the module. -/
def Escapes (module : ModuleInfo) (request : PatternRequest) (matched : Address) : Prop :=
  decodes matched request = true ∧
    ¬(module.base.toNat ≤ (displacementAddress matched request).toNat ∧
      (displacementAddress matched request).toNat + 4 ≤ module.base.toNat + module.size.toNat)

def Rejected (memory : Memory) (request : PatternRequest) (matched : Address) : Prop :=
  ∃ address, PatternBatchScanner.applyTransform memory matched request = .ok address ∧
    request.accepts address = false

instance (module : ModuleInfo) (address : Address) : Decidable (Inside module address) :=
  inferInstanceAs (Decidable (_ ∧ _))

section Inside

variable {memory : Memory} {module : ModuleInfo} {request : PatternRequest} {pattern : Pattern}

theorem four_inside_iff (fits : module.base.toNat + module.size.toNat < 2 ^ 64) (cell : Address) :
    (∀ index < 4, Inside module (cell + UInt64.ofNat index)) ↔
      module.base.toNat ≤ cell.toNat ∧ cell.toNat + 4 ≤ module.base.toNat + module.size.toNat := by
  constructor
  · intro all
    have first : Inside module cell := by simpa using all 0 (by decide)
    refine ⟨first.1, ?_⟩
    by_contra beyond
    -- one of the four bytes is the first one past the module
    obtain ⟨index, last⟩ := Nat.exists_eq_add_of_lt first.2
    have past := all (index + 1) (by omega)
    rw [Inside, toNat_add_ofNat (by omega)] at past
    omega
  · rintro ⟨after, before⟩ index below
    rw [Inside, toNat_add_ofNat (by omega)]
    omega

theorem applyTransform_inside_iff (fits : module.base.toNat + module.size.toNat < 2 ^ 64) (matched : Address) :
    (∀ address ∈ Reading.footprint memory (applyTransform matched request), Inside module address) ↔
      ¬Escapes module request matched := by
  rw [footprint_applyTransform, Escapes, not_and, not_not, ← four_inside_iff fits]
  cases decodes matched request with
  | false => simp
  | true => simp

theorem footprint_scanRanges_cons (tokens : pattern.empty = false) (range : MemoryRange)
    (later : List MemoryRange) (aggregate : PatternScanStats) :
    let scanned := aggregate.add (PatternScanner.findFirst memory range pattern).2
    Reading.footprint memory (scanRanges module request pattern (range :: later) aggregate) =
      Reading.footprint memory (findFirst range pattern) ++
        match PatternScanner.firstOccurrence memory range pattern with
        | none => Reading.footprint memory (scanRanges module request pattern later scanned)
        | some first =>
            Reading.footprint memory (applyTransform first request) ++
              match PatternBatchScanner.applyTransform memory first request with
              | .error _ => []
              | .ok address =>
                  if request.accepts address then []
                  else Reading.footprint memory (scanRanges module request pattern later scanned) := by
  intro scanned
  rw [scanRanges, Reading.footprint_bind, value_findFirst, ← PatternScanner.findFirst_eq tokens]
  dsimp only
  cases (PatternScanner.findFirst memory range pattern).1 with
  | error error => rfl
  | ok first =>
    simp only [Reading.footprint_bind, value_applyTransform, Except.toOption, Option.map_some]
    cases PatternBatchScanner.applyTransform memory first.address request with
    | error error => rfl
    | ok address =>
      dsimp only
      split <;> rfl

/-- The search reads inside the module unless it reaches a match whose displacement does not lie there. -/
theorem scanRanges_inside_iff (tokens : pattern.empty = false)
    (fits : module.base.toNat + module.size.toNat < 2 ^ 64) {ranges : List MemoryRange}
    (bounded : ∀ range ∈ ranges, ∀ address, Within range address → Inside module address)
    (aggregate : PatternScanStats) :
    (∀ address ∈ Reading.footprint memory (scanRanges module request pattern ranges aggregate),
        Inside module address) ↔
      ¬Reached
        (fun range => ∀ first ∈ PatternScanner.firstOccurrence memory range pattern, Rejected memory request first)
        (fun range => ∃ first ∈ PatternScanner.firstOccurrence memory range pattern, Escapes module request first)
        ranges := by
  induction ranges generalizing aggregate with
  | nil => simp [scanRanges]
  | cons range later ih =>
    obtain ⟨here, others⟩ := List.forall_mem_cons.mp bounded
    have scanned : ∀ address ∈ Reading.footprint memory (findFirst range pattern), Inside module address :=
      fun address member => here address (Reading.forall_footprint (all_findFirst range pattern) address member)
    rw [footprint_scanRanges_cons tokens, List.forall_mem_append, reached_cons, not_or, not_and]
    simp only [iff_true_intro scanned, true_and]
    cases PatternScanner.firstOccurrence memory range pattern with
    | none => simp [ih others]
    | some first =>
      simp only [List.forall_mem_append, applyTransform_inside_iff fits, Option.mem_some_iff, exists_eq_left',
        forall_eq']
      apply and_congr_right
      intro _
      cases transformed : PatternBatchScanner.applyTransform memory first request with
      | error error => simp [Rejected, transformed]
      | ok address =>
        by_cases accepted : request.accepts address = true
        · simp [Rejected, transformed, accepted]
        · simp [Rejected, transformed, accepted, ih others]

theorem mem_selectRanges {ranges : List MemoryRange}
    (selected : PatternBatchScanner.selectRanges module request = .ok ranges) {range : MemoryRange}
    (member : range ∈ ranges) : ∃ section_ ∈ module.sections, section_.range = range := by
  unfold PatternBatchScanner.selectRanges at selected
  split at selected
  next sectionName _ =>
    unfold ModuleManager.findSection at selected
    cases found : module.sections.find? fun section_ => section_.name == sectionName with
    | none =>
      rw [found] at selected
      cases selected
    | some section_ =>
      rw [found] at selected
      cases selected
      exact ⟨section_, List.mem_of_find?_eq_some found, (List.mem_singleton.mp member).symm⟩
  next =>
    cases selected
    obtain ⟨section_, kept, same⟩ := List.mem_map.mp member
    exact ⟨section_, (List.mem_filter.mp kept).1, same⟩

theorem ranges_inside {imageMemory : Memory} {fileName : Text} {moduleBase : Address}
    (inspected : ModuleManager.inspect imageMemory fileName moduleBase = .ok module)
    (fits : module.base.toNat + module.size.toNat < 2 ^ 64) {ranges : List MemoryRange}
    (selected : PatternBatchScanner.selectRanges module request = .ok ranges) :
    ∀ range ∈ ranges, ∀ address, Within range address → Inside module address := by
  rintro range member address ⟨index, below, rfl⟩
  obtain ⟨section_, listed, rfl⟩ := mem_selectRanges selected member
  obtain ⟨virtualAddress, first, bound⟩ := ModuleManager.inspect_sections inspected listed
  have start : section_.range.first.toNat = module.base.toNat + virtualAddress.toNat := by
    rw [first, UInt64.toNat_add, Nat.mod_eq_of_lt (by omega)]
  rw [Inside, toNat_add_ofNat (by omega), start]
  omega

end Inside

/-- A search that reaches a match whose displacement does not lie in the module:
in every range before, there is no match or the first one is rejected. -/
def ReachesEscape (memory : Memory) (module : ModuleInfo) (request : PatternRequest) : Prop :=
  ∃ pattern ranges, Pattern.compile request.signature = .ok pattern ∧
    PatternBatchScanner.selectRanges module request = .ok ranges ∧
    Reached
      (fun range => ∀ first ∈ PatternScanner.firstOccurrence memory range pattern, Rejected memory request first)
      (fun range => ∃ first ∈ PatternScanner.firstOccurrence memory range pattern, Escapes module request first)
      ranges

theorem scanModule_inside_iff {imageMemory : Memory} {fileName : Text} {moduleBase : Address} {module : ModuleInfo}
    (inspected : ModuleManager.inspect imageMemory fileName moduleBase = .ok module)
    (fits : module.base.toNat + module.size.toNat < 2 ^ 64) (memory : Memory) (request : PatternRequest) :
    (∀ address ∈ Reading.footprint memory (scanModule module request), Inside module address) ↔
      ¬ReachesEscape memory module request := by
  unfold scanModule ReachesEscape
  cases compiled : Pattern.compile request.signature with
  | error error => simp
  | ok pattern =>
    cases selected : PatternBatchScanner.selectRanges module request with
    | error error => simp
    | ok ranges =>
      dsimp only
      rw [scanRanges_inside_iff (Pattern.compile_nonempty compiled) fits (ranges_inside inspected fits selected)]
      simp

/-- A resolution reads inside the module exactly when the cache answers, or the
search reaches no match whose displacement lies outside. -/
theorem reads_inside_iff {imageMemory : Memory} {fileName : Text} {moduleBase : Address} {module : ModuleInfo}
    (inspected : ModuleManager.inspect imageMemory fileName moduleBase = .ok module)
    (fits : module.base.toNat + module.size.toNat < 2 ^ 64) (memory : Memory) (cached : Bool)
    (request : PatternRequest) (cache : PatternCache) :
    (∀ address ∈ reads memory cached module request cache, Inside module address) ↔
      answers cached module request cache = true ∨ ¬ReachesEscape memory module request := by
  rw [reads, outcome_eq, ← scanModule_inside_iff inspected fits]
  dsimp only
  cases answers cached module request cache with
  | true => simp
  | false => simp

/-- A mapped image of 0x400 bytes at 0x10000, whose last 16 are code, with a call at an address. -/
def imageWithCall (call : Address) : Memory :=
  let headers := ((((Memory.write (fun _ => 0) 0x10000 [0x4D, 0x5A]).write 0x1003C [0x40]).write 0x10040
    [0x50, 0x45, 0, 0, 0x64, 0x86, 1]).write 0x10054 [0xF0, 0, 2, 0, 0x0B, 2]).write 0x10090 [0, 4]
  let section_ := (text ".text" ++ [0, 0, 0, 0x10, 0, 0, 0, 0xF0, 3, 0, 0, 0, 2])
  ((headers.write 0x10148 section_).write 0x1016C [0x20, 0, 0, 0x60]).write call [0xE8]

def inspectedModule : ModuleInfo where
  name := text "game.exe"
  base := 0x10000
  size := 0x400
  fingerprint := ⟨0, 0x400, 129318581323735044⟩
  sections := [⟨text ".text", ⟨0x103F0, 0x10⟩, 0x60000020⟩]

theorem whole_call_read_inside :
    answers false inspectedModule PatternBatchScanner.callTarget {} = true ∨
      ¬ReachesEscape (imageWithCall 0x103F8) inspectedModule PatternBatchScanner.callTarget := by
  have inspected : ModuleManager.inspect (imageWithCall 0x103F8) (text "game.exe") 0x10000 =
      .ok inspectedModule := by decide +kernel
  have inside : (reads (imageWithCall 0x103F8) false inspectedModule PatternBatchScanner.callTarget {}).all
      (fun address => decide (Inside inspectedModule address)) = true := by decide
  exact (reads_inside_iff inspected (by decide) (imageWithCall 0x103F8) false _ {}).mp fun address member =>
    of_decide_eq_true (List.all_eq_true.mp inside address member)

/-- An instruction that the module's end cuts off is read to its own end. -/
theorem cut_call_read_outside :
    ModuleManager.inspect (imageWithCall 0x103FF) (text "game.exe") 0x10000 = .ok inspectedModule ∧
      inspectedModule.base.toNat + inspectedModule.size.toNat < 2 ^ 64 ∧
      0x10400 ∈ reads (imageWithCall 0x103FF) false inspectedModule PatternBatchScanner.callTarget {} ∧
      ¬Inside inspectedModule 0x10400 := by
  decide +kernel

end PatternReads

end DevilzDen.Backend
