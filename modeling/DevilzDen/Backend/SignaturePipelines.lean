import DevilzDen.Backend.Memory.PatternScanner
import DevilzDen.Backend.Process.ProcessPattern
import Mathlib.Data.List.GetD

/-! The two signature pipelines agree.

Both tokenizers visit the words of the signature in order, one by index and
one by extraction, and treat each word alike. Both scans search the same
positions, since the anchor of the in-process scanner never rejects a match.
-/

set_option autoImplicit false

namespace DevilzDen.Backend.SignaturePipelines

open Foundation

def tokenPair (token : Pattern.Token) : UInt8 × Bool := (token.value, token.wildcard)

def bytePair (byte : ProcessPatternByte) : UInt8 × Bool := (byte.value, byte.wildcard)

def resultPair (result : PatternScanResult) : Address × Nat := (result.address, result.offset)

def matchPair (found : ProcessPatternMatch) : Address × Nat := (found.address, found.offset)

section Tokens

theorem word_agrees (signature word : Text) :
    (Pattern.compileToken signature word).toOption.map tokenPair =
      (ProcessPattern.parseByte word).map bytePair := by
  unfold Pattern.compileToken ProcessPattern.parseByte
  by_cases wildcard : word = text "?" ∨ word = text "??"
  · rw [if_pos wildcard, if_pos wildcard]
    rfl
  · rw [if_neg wildcard, if_neg wildcard]
    by_cases odd : word.length ≠ 2
    · rw [if_pos odd, if_pos odd]
      rfl
    · rw [if_neg odd, if_neg odd]
      cases Numeral.fromChars 16 (2 ^ 32) word with
      | error fault => rfl
      | ok read =>
        dsimp only
        by_cases invalid : read.2 ≠ [] ∨ read.1 > 0xFF
        · rw [if_pos invalid, if_pos invalid]
          rfl
        · rw [if_neg invalid, if_neg invalid]
          rfl

theorem words_agree (signature : Text) (words : List Text) :
    (words.mapM (Pattern.compileToken signature)).toOption.map (List.map tokenPair) =
      (words.mapM ProcessPattern.parseByte).map (List.map bytePair) := by
  induction words with
  | nil => rfl
  | cons word later ih =>
    have first := word_agrees signature word
    rw [List.mapM_cons, List.mapM_cons]
    cases compiled : Pattern.compileToken signature word <;>
      cases parsed : ProcessPattern.parseByte word <;> rw [compiled, parsed] at first
    case error.none => rfl
    case error.some => cases first
    case ok.none => cases first
    case ok.some token byte =>
      cases compiledLater : later.mapM (Pattern.compileToken signature) <;>
        cases parsedLater : later.mapM ProcessPattern.parseByte <;>
          rw [compiledLater, parsedLater] at ih
      case error.none => rfl
      case error.some => cases ih
      case ok.none => cases ih
      case ok.some tokens bytes =>
        exact congrArg some (congrArg₂ List.cons (Option.some.inj first) (Option.some.inj ih))

theorem compile_agrees_parse (signature : Text) :
    ((Pattern.compile signature).toOption.map fun pattern => pattern.tokens.map tokenPair) =
      (ProcessPattern.parse signature).map fun pattern => pattern.bytes.map bytePair := by
  have agree := words_agree signature (Lines.words isSpace signature)
  rw [Pattern.compile, ProcessPattern.parse, Pattern.tokenize_eq (by omega),
    ProcessPattern.parseFrom_eq (Nat.lt_succ_self _), List.drop_zero]
  cases compiled : (Lines.words isSpace signature).mapM (Pattern.compileToken signature) <;>
    cases parsed : (Lines.words isSpace signature).mapM ProcessPattern.parseByte <;>
      rw [compiled, parsed] at agree
  case error.none => rfl
  case error.some => cases agree
  case ok.none => cases agree
  case ok.some tokens bytes =>
    have same : tokens.map tokenPair = bytes.map bytePair := Option.some.inj agree
    have emptiness : tokens.isEmpty = bytes.isEmpty := by
      rw [← List.isEmpty_map, same, List.isEmpty_map]
    simp only [Except.map, Option.map_some, List.nil_append, emptiness]
    cases bytes.isEmpty with
    | true => rfl
    | false => exact agree

end Tokens

section Scans

variable {pattern : Pattern} {processPattern : ProcessPattern}

theorem pattern_empty : pattern.empty = decide (pattern.size = 0) := by
  cases tokens : pattern.tokens <;> simp [Pattern.empty, Pattern.size, tokens]

theorem processPattern_empty : processPattern.empty = decide (processPattern.size = 0) := by
  cases bytes : processPattern.bytes <;> simp [ProcessPattern.empty, ProcessPattern.size, bytes]

theorem size_agrees (same : pattern.tokens.map tokenPair = processPattern.bytes.map bytePair) :
    pattern.size = processPattern.size := by
  have lengths := congrArg List.length same
  rwa [List.length_map, List.length_map] at lengths

theorem matches_agree (same : pattern.tokens.map tokenPair = processPattern.bytes.map bytePair)
    (bytes : List UInt8) (offset : Nat) :
    PatternScanner.candidateMatches (bytes.drop offset) pattern =
      ProcessPatternScanner.matchesAt bytes processPattern offset := by
  have size := size_agrees same
  -- beyond the end both lists give the same default token
  have token : ∀ index, tokenPair (pattern.tokens.getD index {}) =
      bytePair (processPattern.bytes.getD index {}) := by
    intro index
    rw [← List.getD_map _ _ tokenPair, ← List.getD_map _ _ bytePair, same]
    rfl
  rw [PatternScanner.candidateMatches, ProcessPatternScanner.matchesAt, size]
  refine congrArg (List.all (List.range processPattern.size)) (funext fun index => ?_)
  obtain ⟨value, wildcard⟩ := Prod.mk.inj (token index)
  have byte : (bytes.drop offset).getD index 0 = bytes.getD (offset + index) 0 := by
    rw [List.getD_eq_getElem?_getD, List.getD_eq_getElem?_getD, List.getElem?_drop]
  dsimp only
  rw [value, wildcard, byte]

def imageRange (module : ProcessModuleInfo) : MemoryRange := ⟨module.baseAddress, module.imageSize.toUInt64⟩

theorem imageRange_present {module : ProcessModuleInfo} (valid : module.valid = true) :
    (imageRange module).empty = false := by
  simp only [ProcessModuleInfo.valid, Bool.and_eq_true, bne_iff_ne, ne_eq] at valid
  have size : module.imageSize.toUInt64 ≠ 0 := fun zero => valid.2 (UInt32.toUInt64_inj.mp zero)
  simp [imageRange, MemoryRange.empty, valid.1.2, size]

theorem accepts_agree (same : pattern.tokens.map tokenPair = processPattern.bytes.map bytePair)
    (module : ProcessModuleInfo) (bytes : List UInt8) (offset : Nat) :
    (PatternScanner.accept (imageRange module) bytes pattern offset).map resultPair =
      (ProcessPatternScanner.accept module bytes processPattern offset).map matchPair := by
  rw [PatternScanner.accept_eq, ProcessPatternScanner.accept, matches_agree same]
  cases ProcessPatternScanner.matchesAt bytes processPattern offset <;> rfl

theorem scans_agree {memory : Memory} {module : ProcessModuleInfo}
    {read : Address → Nat → Result (List UInt8)} {maximum : UInt64} (valid : module.valid = true)
    (successful : read module.baseAddress module.imageSize.toNat =
      .ok (memory.read module.baseAddress module.imageSize.toNat))
    (positive : maximum ≠ 0) (same : pattern.tokens.map tokenPair = processPattern.bytes.map bytePair) :
    (PatternScanner.scan memory (imageRange module) pattern { maxResults := maximum }).1.toOption.map
        (List.map resultPair) =
      (ProcessPatternScanner.scan read module processPattern maximum).toOption.map (List.map matchPair) := by
  have size := size_agrees same
  have present := imageRange_present valid
  have length : (imageRange module).size.toNat = module.imageSize.toNat := rfl
  have bytes : (imageRange module).bytes memory = memory.read module.baseAddress module.imageSize.toNat := by
    rw [MemoryRange.bytes, present]
    rfl
  by_cases refused : pattern.size = 0 ∨ module.imageSize.toNat < pattern.size
  -- both refuse an empty pattern and one longer than the image
  · have rejected : ((imageRange module).empty || pattern.empty ||
        pattern.size > (imageRange module).size.toNat) = true := by
      simpa [present, pattern_empty, length] using refused
    have processRejected : (!module.valid || processPattern.empty ||
        processPattern.size > module.imageSize.toNat || maximum == 0) = true := by
      simpa [valid, positive, processPattern_empty] using size ▸ refused
    rw [PatternScanner.scan, if_pos rejected, ProcessPatternScanner.scan, if_pos processRejected]
    rfl
  · rw [not_or, Nat.not_lt] at refused
    have tokens : pattern.empty = false := by simpa [pattern_empty] using refused.1
    have processTokens : processPattern.empty = false := by
      simpa [processPattern_empty] using size ▸ refused.1
    rw [PatternScanner.scan_eq_ok present tokens refused.2, if_neg positive,
      ProcessPatternScanner.scan_eq_ok valid processTokens (size ▸ refused.2) positive successful,
      bytes, length, Memory.length_read, size]
    apply congrArg some
    rw [List.map_take, List.map_take, List.map_filterMap, List.map_filterMap]
    simp only [accepts_agree same]

end Scans

/-- For every signature, image and maximum the pipelines accept the same
signatures, tokenize them alike, and find the same matches in the same order. -/
theorem pipelines_agree (memory : Memory) (module : ProcessModuleInfo)
    (read : Address → Nat → Result (List UInt8)) (signature : Text) (maximum : UInt64)
    (named : module.name ≠ []) (mapped : module.baseAddress ≠ 0) (nonempty : module.imageSize ≠ 0)
    (successful : read module.baseAddress module.imageSize.toNat =
      .ok (memory.read module.baseAddress module.imageSize.toNat))
    (positive : maximum ≠ 0) :
    ((Pattern.compile signature).toOption.isSome = (ProcessPattern.parse signature).isSome) ∧
      ∀ pattern processPattern, Pattern.compile signature = .ok pattern →
        ProcessPattern.parse signature = some processPattern →
        pattern.tokens.map tokenPair = processPattern.bytes.map bytePair ∧
          (PatternScanner.scan memory (imageRange module) pattern { maxResults := maximum }).1.toOption.map
              (List.map resultPair) =
            (ProcessPatternScanner.scan read module processPattern maximum).toOption.map (List.map matchPair) := by
  have agree := compile_agrees_parse signature
  refine ⟨?_, fun pattern processPattern compiled parsed => ?_⟩
  · have succeeds := congrArg Option.isSome agree
    rwa [Option.isSome_map, Option.isSome_map] at succeeds
  · rw [compiled, parsed] at agree
    have same : pattern.tokens.map tokenPair = processPattern.bytes.map bytePair := Option.some.inj agree
    have valid : module.valid = true := by simp [ProcessModuleInfo.valid, named, mapped, nonempty]
    exact ⟨same, scans_agree valid successful positive same⟩

/-- A signature with a wildcard over an image of three bytes. -/
theorem pipelines_agree_wildcard :
    let memory : Memory := fun address => address.toUInt8
    let module : ProcessModuleInfo := ⟨text "game.exe", 0x1000, 3⟩
    let read := fun address size => Except.ok (memory.read address size)
    ((Pattern.compile (text "?? 01")).toOption.isSome = (ProcessPattern.parse (text "?? 01")).isSome) ∧
      ∀ pattern processPattern, Pattern.compile (text "?? 01") = .ok pattern →
        ProcessPattern.parse (text "?? 01") = some processPattern →
        pattern.tokens.map tokenPair = processPattern.bytes.map bytePair ∧
          (PatternScanner.scan memory (imageRange module) pattern { maxResults := 1 }).1.toOption.map
              (List.map resultPair) =
            (ProcessPatternScanner.scan read module processPattern 1).toOption.map (List.map matchPair) :=
  pipelines_agree _ ⟨text "game.exe", 0x1000, 3⟩ _ _ _ (by decide) (by decide) (by decide) rfl (by decide)

end DevilzDen.Backend.SignaturePipelines
