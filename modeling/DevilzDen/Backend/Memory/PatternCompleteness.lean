import DevilzDen.Backend.Memory.PatternBatchScanner

/-! Which occurrences of a signature a resolution considers.

The scan of a range stops at its first occurrence. So an occurrence that the
validator would accept is lost behind one that it rejects, and behind one in an
earlier range that cannot be transformed.
-/

set_option autoImplicit false

namespace DevilzDen.Backend

open Foundation

namespace PatternScanner

def occurrences (memory : Memory) (range : MemoryRange) (pattern : Pattern) : List Nat :=
  (List.range ((range.bytes memory).length + 1 - pattern.size)).filter fun offset =>
    candidateMatches ((range.bytes memory).drop offset) pattern

def firstOccurrence (memory : Memory) (range : MemoryRange) (pattern : Pattern) : Option Address :=
  (occurrences memory range pattern).head?.map fun offset => range.first + UInt64.ofNat offset

theorem length_bytes (memory : Memory) {range : MemoryRange} (present : range.empty = false) :
    (range.bytes memory).length = range.size.toNat := by
  simp [MemoryRange.bytes, present]

theorem getD_bytes {memory : Memory} {range : MemoryRange} {index : Nat} (present : range.empty = false)
    (inside : index < range.size.toNat) :
    (range.bytes memory).getD index 0 = memory (range.first + UInt64.ofNat index) := by
  simp [MemoryRange.bytes, present, Memory.read, List.getD_eq_getElem?_getD, inside]

theorem getD_drop_bytes {memory : Memory} {range : MemoryRange} {offset index : Nat}
    (present : range.empty = false) (inside : offset + index < range.size.toNat) :
    ((range.bytes memory).drop offset).getD index 0 = memory (range.first + UInt64.ofNat (offset + index)) := by
  have whole : (range.bytes memory).getD (offset + index) 0 = _ := getD_bytes present inside
  rw [← whole, List.getD_eq_getElem?_getD, List.getElem?_drop, List.getD_eq_getElem?_getD]

theorem occurrences_of_empty {memory : Memory} {range : MemoryRange} {pattern : Pattern}
    (tokens : pattern.empty = false) (none : range.empty = true ∨ range.size.toNat < pattern.size) :
    occurrences memory range pattern = [] := by
  have positive := Pattern.size_pos tokens
  have short : (range.bytes memory).length + 1 - pattern.size = 0 := by
    cases present : range.empty with
    | true =>
      have length : (range.bytes memory).length = 0 := by simp [MemoryRange.bytes, present]
      omega
    | false =>
      have small : range.size.toNat < pattern.size := none.resolve_left (by simp [present])
      rw [length_bytes memory present]
      omega
  rw [occurrences, short]
  rfl

theorem candidateMatches_iff {memory : Memory} {range : MemoryRange} {pattern : Pattern} {offset : Nat}
    (present : range.empty = false) (inside : offset + pattern.size ≤ range.size.toNat) :
    candidateMatches ((range.bytes memory).drop offset) pattern = true ↔
      ∀ index token, pattern.tokens[index]? = some token →
        token.wildcard = true ∨ memory (range.first + UInt64.ofNat (offset + index)) = token.value := by
  simp only [candidateMatches, List.all_eq_true, List.mem_range, Bool.or_eq_true, beq_iff_eq]
  have byte {index : Nat} (below : index < pattern.size) : ((range.bytes memory).drop offset).getD index 0 =
      memory (range.first + UInt64.ofNat (offset + index)) := getD_drop_bytes present (by omega)
  constructor
  · intro all index token found
    obtain ⟨below, rfl⟩ := List.getElem?_eq_some_iff.mp found
    have one := all index below
    rwa [byte below, List.getD_eq_getElem _ _ below] at one
  · intro all index below
    rw [byte below, List.getD_eq_getElem _ _ below]
    exact all index _ (List.getElem?_eq_getElem below)

theorem mem_occurrences {memory : Memory} {range : MemoryRange} {pattern : Pattern} {offset : Nat}
    (tokens : pattern.empty = false) : offset ∈ occurrences memory range pattern ↔
      range.empty = false ∧ offset + pattern.size ≤ range.size.toNat ∧
        ∀ index token, pattern.tokens[index]? = some token →
          token.wildcard = true ∨ memory (range.first + UInt64.ofNat (offset + index)) = token.value := by
  cases present : range.empty with
  | true => simp [occurrences_of_empty tokens (Or.inl present)]
  | false =>
    rw [occurrences, List.mem_filter, List.mem_range, length_bytes memory present]
    simp only [true_and]
    constructor
    · rintro ⟨below, verified⟩
      have inside : offset + pattern.size ≤ range.size.toNat := by omega
      exact ⟨inside, (candidateMatches_iff present inside).mp verified⟩
    · rintro ⟨inside, bytes⟩
      exact ⟨by omega, (candidateMatches_iff present inside).mpr bytes⟩

theorem filterMap_accept {memory : Memory} {range : MemoryRange} {pattern : Pattern}
    (present : range.empty = false) (fits : pattern.size ≤ range.size.toNat) :
    (List.range (range.size.toNat - pattern.size + 1)).filterMap (accept range (range.bytes memory) pattern) =
      (occurrences memory range pattern).map fun offset =>
        { address := range.first + UInt64.ofNat offset, offset := offset } := by
  have positions : range.size.toNat - pattern.size + 1 = (range.bytes memory).length + 1 - pattern.size := by
    rw [length_bytes memory present]
    omega
  rw [positions, occurrences, ← List.filterMap_eq_filter, List.map_filterMap]
  apply List.filterMap_congr
  intro offset _
  rw [accept_eq, Option.guard]
  split <;> rfl

theorem scan_refused {memory : Memory} {range : MemoryRange} {pattern : Pattern} {options : Options}
    (none : range.empty = true ∨ range.size.toNat < pattern.size) :
    scan memory range pattern options = (.error (Error.runtime "Invalid pattern scan range or pattern"), {}) := by
  have refused : (range.empty || pattern.empty || decide (pattern.size > range.size.toNat)) = true := by
    rcases none with empty | small
    · simp [empty]
    · simp [small]
  rw [scan, if_pos refused]

theorem findFirst_eq {memory : Memory} {range : MemoryRange} {pattern : Pattern} (tokens : pattern.empty = false) :
    (findFirst memory range pattern).1.toOption.map (·.address) = firstOccurrence memory range pattern := by
  by_cases fits : range.empty = false ∧ pattern.size ≤ range.size.toNat
  · have found : (scan memory range pattern { maxResults := 1 }).1 = _ := scan_eq_ok fits.1 tokens fits.2
    rw [filterMap_accept fits.1 fits.2] at found
    unfold findFirst firstOccurrence
    dsimp only
    rw [found]
    cases occurrences memory range pattern with
    | nil => rfl
    | cons first others => rfl
  · have none : range.empty = true ∨ range.size.toNat < pattern.size := by
      rw [not_and_or, Bool.not_eq_false, Nat.not_le] at fits
      exact fits
    rw [firstOccurrence, occurrences_of_empty tokens none, findFirst, scan_refused none]
    rfl

theorem firstOccurrence_eq_some {memory : Memory} {range : MemoryRange} {pattern : Pattern} {first : Address}
    (found : firstOccurrence memory range pattern = some first) :
    ∃ offset ∈ occurrences memory range pattern, range.first + UInt64.ofNat offset = first := by
  obtain ⟨offset, head, same⟩ := Option.map_eq_some_iff.mp found
  exact ⟨offset, List.mem_of_mem_head? head, same⟩

end PatternScanner

namespace PatternBatchScanner

open PatternScanner

def Transforms (memory : Memory) (request : PatternRequest) (occurrence : Address) : Prop :=
  ∃ address, applyTransform memory occurrence request = .ok address

/-- An occurrence that transforms to an address the validator accepts. -/
def Usable (memory : Memory) (request : PatternRequest) (occurrence : Address) : Prop :=
  ∃ address, applyTransform memory occurrence request = .ok address ∧ request.accepts address = true

section Ranges

variable {memory : Memory} {module : ModuleInfo} {request : PatternRequest} {pattern : Pattern}

theorem scanRanges_cons (tokens : pattern.empty = false) (range : MemoryRange) (later : List MemoryRange)
    (aggregate : PatternScanStats) :
    let scanned := aggregate.add (findFirst memory range pattern).2
    scanRanges memory module request pattern (range :: later) aggregate =
      match firstOccurrence memory range pattern with
      | none => scanRanges memory module request pattern later scanned
      | some first =>
          match applyTransform memory first request with
          | .error error => .error error
          | .ok address =>
              if request.accepts address then .ok (address, scanned)
              else scanRanges memory module request pattern later scanned := by
  intro scanned
  rw [scanRanges, ← findFirst_eq tokens]
  cases (findFirst memory range pattern).1 with
  | error error => rfl
  | ok first => rfl

theorem scanRanges_sound (tokens : pattern.empty = false) {ranges : List MemoryRange} {aggregate : PatternScanStats}
    {outcome : Address × PatternScanStats}
    (succeeded : scanRanges memory module request pattern ranges aggregate = .ok outcome) :
    ∃ range ∈ ranges, ∃ first ∈ firstOccurrence memory range pattern,
      applyTransform memory first request = .ok outcome.1 ∧ request.accepts outcome.1 = true := by
  induction ranges generalizing aggregate with
  | nil => cases succeeded
  | cons range later ih =>
    have further {scanned : PatternScanStats}
        (rest : scanRanges memory module request pattern later scanned = .ok outcome) :
        ∃ range' ∈ range :: later, ∃ first ∈ firstOccurrence memory range' pattern,
          applyTransform memory first request = .ok outcome.1 ∧ request.accepts outcome.1 = true := by
      obtain ⟨other, member, found⟩ := ih rest
      exact ⟨other, List.mem_cons_of_mem _ member, found⟩
    rw [scanRanges_cons tokens] at succeeded
    split at succeeded
    · exact further succeeded
    next first found =>
      split at succeeded
      · cases succeeded
      next address transformed =>
        split at succeeded
        next accepted =>
          cases succeeded
          exact ⟨range, List.mem_cons_self, first, found, transformed, accepted⟩
        · exact further succeeded

/-- The search succeeds at a range whose first occurrence is usable, past ranges
whose first occurrences can be transformed. -/
theorem scanRanges_succeeds_iff (tokens : pattern.empty = false) {ranges : List MemoryRange}
    {aggregate : PatternScanStats} :
    (∃ outcome, scanRanges memory module request pattern ranges aggregate = .ok outcome) ↔
      Reached (fun range => ∀ first ∈ firstOccurrence memory range pattern, Transforms memory request first)
        (fun range => ∃ first ∈ firstOccurrence memory range pattern, Usable memory request first) ranges := by
  induction ranges generalizing aggregate with
  | nil => simp [scanRanges]
  | cons range later ih =>
    rw [scanRanges_cons tokens, reached_cons]
    cases firstOccurrence memory range pattern with
    | none => simp [ih]
    | some first =>
      cases transformed : applyTransform memory first request with
      | error error => simp [Usable, Transforms, transformed]
      | ok address =>
        by_cases accepted : request.accepts address = true
        · simp [Usable, transformed, accepted]
        · simp [Usable, Transforms, transformed, accepted, ih]

end Ranges

/-- Where the compiled signature has a usable occurrence in a selected range,
the resolution succeeds with the address of one. -/
def Complete (memory : Memory) (module : ModuleInfo) (request : PatternRequest) : Prop :=
  ∀ pattern ranges, Pattern.compile request.signature = .ok pattern → selectRanges module request = .ok ranges →
    (∃ range ∈ ranges, ∃ offset ∈ occurrences memory range pattern,
      Usable memory request (range.first + UInt64.ofNat offset)) →
    ∃ resolution, resolveUncached memory module request = .ok resolution ∧
      ∃ range ∈ ranges, ∃ offset ∈ occurrences memory range pattern,
        applyTransform memory (range.first + UInt64.ofNat offset) request = .ok resolution.address ∧
          request.accepts resolution.address = true

/-- No occurrence is usable, or the first one of some range is, and the first
ones of the ranges before it can be transformed. -/
def FirstsDecide (memory : Memory) (module : ModuleInfo) (request : PatternRequest) : Prop :=
  ∀ pattern ranges, Pattern.compile request.signature = .ok pattern → selectRanges module request = .ok ranges →
    (∀ range ∈ ranges, ∀ offset ∈ occurrences memory range pattern,
      ¬Usable memory request (range.first + UInt64.ofNat offset)) ∨
    Reached (fun range => ∀ first ∈ firstOccurrence memory range pattern, Transforms memory request first)
      (fun range => ∃ first ∈ firstOccurrence memory range pattern, Usable memory request first) ranges

theorem resolveUncached_eq_scanRanges {memory : Memory} {module : ModuleInfo} {request : PatternRequest}
    {pattern : Pattern} {ranges : List MemoryRange} (compiled : Pattern.compile request.signature = .ok pattern)
    (selected : selectRanges module request = .ok ranges) :
    resolveUncached memory module request =
      (scanRanges memory module request pattern ranges {}).map fun scanned =>
        ⟨request.name, scanned.1, false, scanned.2⟩ := by
  rw [resolveUncached_eq, scanModule, compiled, selected]

theorem complete_iff_firstsDecide (memory : Memory) (module : ModuleInfo) (request : PatternRequest) :
    Complete memory module request ↔ FirstsDecide memory module request := by
  refine forall_congr' fun pattern => forall_congr' fun ranges => forall_congr' fun compiled =>
    forall_congr' fun selected => ?_
  have tokens := Pattern.compile_nonempty compiled
  rw [resolveUncached_eq_scanRanges compiled selected, ← scanRanges_succeeds_iff tokens]
  cases scanned : scanRanges memory module request pattern ranges {} with
  | error error =>
    -- the search has failed, so it must have had nothing to find
    simp only [Except.map, reduceCtorEq, false_and, exists_false, imp_false, or_false]
    push Not
    rfl
  | ok outcome =>
    obtain ⟨range, member, first, found, transformed, accepted⟩ := scanRanges_sound tokens scanned
    obtain ⟨offset, occurs, rfl⟩ := firstOccurrence_eq_some found
    refine iff_of_true (fun _ => ?_) (Or.inr ⟨outcome, rfl⟩)
    exact ⟨_, rfl, range, member, offset, occurs, transformed, accepted⟩

/-- Two calls, of the null address and of the next instruction, in one section each. -/
def twoCalls : Memory :=
  (Memory.write (fun _ => 0) 0x1000 [0xE8, 0xFB, 0xEF, 0xFF, 0xFF]).write 0x2000 [0xE8, 0, 0, 0, 0]

def twoSections : ModuleInfo where
  name := text "game.exe"
  base := 0x1000
  size := 0x2000
  fingerprint := ⟨1, 2, 3⟩
  sections := [⟨text ".text", ⟨0x1000, 5⟩, 0x60000000⟩, ⟨text ".code", ⟨0x2000, 5⟩, 0x60000000⟩]

def callTarget : PatternRequest :=
  { requestFor "E8" with
    transform := .resolveRelative32
    relativeDisplacementOffset := 1
    relativeInstructionSize := 5 }

def secondMatch : PatternRequest :=
  { requestFor "AA" with validator := some fun address => address == 0x1001 }

def oneByte (source : String) (byte : UInt8) : Pattern where
  source := text source
  tokens := [⟨byte, false⟩]
  anchorOffset := 0
  anchorLength := 1
  anchored position within := by
    have first : position = 0 := by omega
    rw [first]
    rfl

theorem usable_occurrences_missed :
    ¬Complete (fun _ => 0xAA) twoByteModule secondMatch ∧ ¬Complete twoCalls twoSections callTarget := by
  constructor
  -- the validator rejects the first match, and the range is left
  · intro complete
    have usable : Usable (fun _ => 0xAA) secondMatch 0x1001 := ⟨0x1001, rfl, rfl⟩
    obtain ⟨resolution, resolved, _⟩ := complete (oneByte "AA" 0xAA) [⟨0x1000, 2⟩] rfl rfl
      ⟨_, List.mem_cons_self, 1, by decide, usable⟩
    have failed : (resolveUncached (fun _ => 0xAA) twoByteModule secondMatch).toOption = none := by decide
    rw [resolved] at failed
    cases failed
  -- the first section's call leads to null, and the second section is never searched
  · intro complete
    have usable : Usable twoCalls callTarget 0x2000 := ⟨0x2005, by decide, rfl⟩
    obtain ⟨resolution, resolved, _⟩ := complete (oneByte "E8" 0xE8) [⟨0x1000, 5⟩, ⟨0x2000, 5⟩] rfl rfl
      ⟨_, List.mem_cons_of_mem _ List.mem_cons_self, 0, by decide, usable⟩
    have failed : (resolveUncached twoCalls twoSections callTarget).toOption = none := by decide
    rw [resolved] at failed
    cases failed

end PatternBatchScanner

end DevilzDen.Backend
