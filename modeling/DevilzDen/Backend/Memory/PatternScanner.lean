import DevilzDen.Backend.Memory.Pattern
import DevilzDen.Foundation.Search

/-! The in-process scanner: anchor prefilter, then full verification at each position.

Elapsed times are left out of the statistics.
-/

set_option autoImplicit false

namespace DevilzDen.Backend

open Foundation

structure PatternScanResult where
  address : Address
  offset : Nat
  deriving DecidableEq, Repr

structure PatternScanStats where
  bytesScanned : Nat := 0
  candidateCount : Nat := 0
  matchCount : Nat := 0
  deriving DecidableEq, Repr

namespace PatternScanner

structure Options where
  maxResults : UInt64 := 1
  deriving DecidableEq, Repr

/-- `Matches`: every exact token equals the byte at its position. -/
def candidateMatches (candidate : List UInt8) (pattern : Pattern) : Bool :=
  (List.range pattern.size).all fun index =>
    let token := pattern.tokens.getD index {}
    token.wildcard || candidate.getD index 0 == token.value

def anchorMatches (bytes : List UInt8) (pattern : Pattern) (offset : Nat) : Bool :=
  (List.range pattern.anchorLength).all fun position =>
    bytes.getD (offset + pattern.anchorOffset + position) 0 ==
      (pattern.tokens.getD (pattern.anchorOffset + position) {}).value

def accept (range : MemoryRange) (bytes : List UInt8) (pattern : Pattern) (offset : Nat) :
    Option PatternScanResult :=
  if anchorMatches bytes pattern offset && candidateMatches (bytes.drop offset) pattern then
    some { address := range.first + UInt64.ofNat offset, offset := offset }
  else none

/-- The scan and the statistics it leaves behind. -/
def scan (memory : Memory) (range : MemoryRange) (pattern : Pattern) (options : Options := {}) :
    Result (List PatternScanResult) × PatternScanStats :=
  if range.empty || pattern.empty || pattern.size > range.size.toNat then
    (.error (Error.runtime "Invalid pattern scan range or pattern"), {})
  else
    -- zero asks for every match
    let maxResults := if options.maxResults = 0 then UInt64.size - 1 else options.maxResults.toNat
    let bytes := range.bytes memory
    let limit := bytes.length - pattern.size + 1
    let outcome := search (accept range bytes pattern) maxResults limit 0 []
    (.ok outcome.1,
      { bytesScanned := range.size.toNat
        candidateCount := outcome.2
        matchCount := outcome.1.length })

def findFirst (memory : Memory) (range : MemoryRange) (pattern : Pattern) :
    Result PatternScanResult × PatternScanStats :=
  let outcome := scan memory range pattern { maxResults := 1 }
  match outcome.1 with
  | .error error => (.error error, outcome.2)
  | .ok [] =>
      (.error ((Error.runtime "Pattern was not found").withContext "Pattern" pattern.source), outcome.2)
  | .ok (first :: _) => (.ok first, outcome.2)

/-- Verification alone decides a position: the anchor lies over exact tokens. -/
theorem anchorMatches_of_candidateMatches {bytes : List UInt8} {pattern : Pattern} {offset : Nat}
    (verified : candidateMatches (bytes.drop offset) pattern = true) :
    anchorMatches bytes pattern offset = true := by
  simp only [anchorMatches, List.all_eq_true, List.mem_range, beq_iff_eq]
  intro position within
  have exact := pattern.anchored position within
  simp only [Pattern.exactAt, Option.any_eq_true] at exact
  obtain ⟨token, found, ordinary⟩ := exact
  obtain ⟨inside, rfl⟩ := List.getElem?_eq_some_iff.mp found
  simp only [candidateMatches, List.all_eq_true, List.mem_range] at verified
  -- the anchor lies over exact tokens, and those are all verified
  have byte := verified _ inside
  have named : pattern.tokens.getD (pattern.anchorOffset + position) {} =
      pattern.tokens[pattern.anchorOffset + position] := by
    simp [List.getD_eq_getElem?_getD, found]
  rw [named] at byte ⊢
  simp only [Bool.not_eq_true'] at ordinary
  simpa [ordinary, List.getD_eq_getElem?_getD, List.getElem?_drop, Nat.add_assoc] using byte

theorem accept_eq (range : MemoryRange) (bytes : List UInt8) (pattern : Pattern) (offset : Nat) :
    accept range bytes pattern offset =
      if candidateMatches (bytes.drop offset) pattern then
        some { address := range.first + UInt64.ofNat offset, offset := offset }
      else none := by
  by_cases verified : candidateMatches (bytes.drop offset) pattern = true
  · simp [accept, verified, anchorMatches_of_candidateMatches verified]
  · simp [accept, verified]

theorem scan_eq_ok {memory : Memory} {range : MemoryRange} {pattern : Pattern} {options : Options}
    (present : range.empty = false) (tokens : pattern.empty = false)
    (fits : pattern.size ≤ range.size.toNat) :
    (scan memory range pattern options).1 = .ok
      (((List.range (range.size.toNat - pattern.size + 1)).filterMap
        (accept range (range.bytes memory) pattern)).take
          (if options.maxResults = 0 then UInt64.size - 1 else options.maxResults.toNat)) := by
  have length : (range.bytes memory).length = range.size.toNat := by
    simp [MemoryRange.bytes, present]
  simp [scan, present, tokens, Nat.not_lt.mpr fits, search_zero_found, length]

end PatternScanner

end DevilzDen.Backend
