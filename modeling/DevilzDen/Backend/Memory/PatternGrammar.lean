import DevilzDen.Backend.Memory.Pattern
import DevilzDen.Foundation.LongestRun
import Mathlib.Data.List.Basic

/-! The signature grammar: which texts compile, to which tokens and with which anchor. -/

set_option autoImplicit false

namespace DevilzDen.Backend.Pattern

open Foundation

/-- A hexadecimal digit of either case and its value. -/
inductive HexDigit : UInt8 → Nat → Prop where
  | decimal {digit : Nat} (small : digit < 10) : HexDigit (UInt8.ofNat (48 + digit)) digit
  | upper {digit : Nat} (small : digit < 6) : HexDigit (UInt8.ofNat (65 + digit)) (10 + digit)
  | lower {digit : Nat} (small : digit < 6) : HexDigit (UInt8.ofNat (97 + digit)) (10 + digit)

/-- What a word of a signature stands for. -/
inductive Denotes : Text → Token → Prop where
  | wildcard : Denotes (text "?") ⟨0, true⟩
  | wildcardPair : Denotes (text "??") ⟨0, true⟩
  | byte {first second : UInt8} {high low : Nat} (upper : HexDigit first high) (lower : HexDigit second low) :
      Denotes [first, second] ⟨UInt8.ofNat (16 * high + low), false⟩

def Grammatical (word : Text) : Prop := ∃ token, Denotes word token

theorem hexDigit_iff {char : UInt8} {value : Nat} :
    HexDigit char value ↔ Numeral.digitValue char = some value ∧ value < 16 := by
  constructor
  · intro digit
    cases digit with
    | decimal small =>
      have all : ∀ digit < 10, Numeral.digitValue (UInt8.ofNat (48 + digit)) = some digit := by decide
      exact ⟨all _ small, by omega⟩
    | upper small =>
      have all : ∀ digit < 6, Numeral.digitValue (UInt8.ofNat (65 + digit)) = some (10 + digit) := by decide
      exact ⟨all _ small, by omega⟩
    | lower small =>
      have all : ∀ digit < 6, Numeral.digitValue (UInt8.ofNat (97 + digit)) = some (10 + digit) := by decide
      exact ⟨all _ small, by omega⟩
  · intro digit
    obtain ⟨read, small⟩ := digit
    have spelled {start digit : Nat} (exact : char.toNat = start + digit) :
        char = UInt8.ofNat (start + digit) := by
      rw [← exact, UInt8.ofNat_toNat]
    unfold Numeral.digitValue at read
    simp only [UInt8.le_iff_toNat_le, UInt8.reduceToNat] at read
    split at read
    next figure =>
      cases Option.some.inj read
      obtain ⟨digit, exact⟩ := Nat.exists_eq_add_of_le figure.1
      have value : char.toNat - 48 = digit := by omega
      rw [value, spelled exact]
      exact .decimal (by omega)
    next =>
      split at read
      next capital =>
        cases Option.some.inj read
        obtain ⟨digit, exact⟩ := Nat.exists_eq_add_of_le capital.1
        have value : char.toNat - 55 = 10 + digit := by omega
        rw [value, spelled exact]
        exact .upper (by omega)
      next =>
        split at read
        next letter =>
          cases Option.some.inj read
          obtain ⟨digit, exact⟩ := Nat.exists_eq_add_of_le letter.1
          have value : char.toNat - 87 = 10 + digit := by omega
          rw [value, spelled exact]
          exact .lower (by omega)
        next => cases read

theorem digit_of_hexDigit {char : UInt8} {value : Nat} (digit : HexDigit char value) :
    Numeral.isDigit 16 char = true := by
  obtain ⟨read, small⟩ := hexDigit_iff.mp digit
  simp [Numeral.isDigit, read, small]

theorem hexDigit_of_digit {char : UInt8} (digit : Numeral.isDigit 16 char = true) : ∃ value, HexDigit char value := by
  rw [Numeral.isDigit, Option.any_eq_true] at digit
  obtain ⟨value, read, small⟩ := digit
  exact ⟨value, hexDigit_iff.mpr ⟨read, of_decide_eq_true small⟩⟩

theorem fromChars_pair {first second : UInt8} {high low : Nat} (upper : HexDigit first high)
    (lower : HexDigit second low) :
    Numeral.fromChars 16 (2 ^ 32) [first, second] = .ok (16 * high + low, []) := by
  have upperRead := hexDigit_iff.mp upper
  have lowerRead := hexDigit_iff.mp lower
  have value : Numeral.fromDigits 16 [first, second] = 16 * high + low := by
    simp [Numeral.fromDigits, upperRead.1, lowerRead.1]
    omega
  have digits : ∀ char ∈ [first, second], Numeral.isDigit 16 char = true := by
    simp [digit_of_hexDigit upper, digit_of_hexDigit lower]
  rw [Numeral.fromChars_eq_ok_iff, Numeral.leading_eq_self digits]
  exact ⟨⟨List.cons_ne_nil _ _, digits, value, by omega⟩, (List.dropWhile_eq_nil_iff.mpr digits).symm⟩

theorem compileToken_eq_ok_iff {signature word : Text} {token : Token} :
    compileToken signature word = .ok token ↔ Denotes word token := by
  constructor
  · intro compiled
    unfold compileToken at compiled
    split at compiled
    next wild =>
      cases compiled
      rcases wild with rfl | rfl
      · exact .wildcard
      · exact .wildcardPair
    next =>
      split at compiled
      · cases compiled
      next pair =>
        dsimp only at compiled
        split at compiled
        · cases compiled
        next value rest read =>
          split at compiled
          · cases compiled
          next whole =>
            have ended : rest = [] := by simpa using fun other => whole (.inl other)
            rw [ended] at read
            have digits := List.dropWhile_eq_nil_iff.mp (Numeral.fromChars_eq_ok_iff.mp read).2.symm
            obtain ⟨first, second, rfl⟩ := List.length_eq_two.mp (not_not.mp pair)
            obtain ⟨high, upper⟩ := hexDigit_of_digit (digits first (by simp))
            obtain ⟨low, lower⟩ := hexDigit_of_digit (digits second (by simp))
            rw [fromChars_pair upper lower] at read
            cases read
            cases compiled
            exact .byte upper lower
  · intro denoted
    cases denoted with
    | wildcard => rfl
    | wildcardPair => rfl
    | @byte first second high low upper lower =>
      have upperSmall := (hexDigit_iff.mp upper).2
      have lowerSmall := (hexDigit_iff.mp lower).2
      have query : ¬([first, second] = text "?" ∨ [first, second] = text "??") := by
        rintro (short | wild)
        · cases congrArg List.length short
        · have marks : first = 63 := (List.cons.inj wild).1
          have digit := digit_of_hexDigit upper
          rw [marks] at digit
          exact absurd digit (by decide)
      have inByte : ¬(([] : Text) ≠ [] ∨ 16 * high + low > 0xFF) := by
        rintro (rest | large)
        · exact rest rfl
        · omega
      simp only [compileToken, if_neg query, List.length_cons, List.length_nil, fromChars_pair upper lower,
        if_neg inByte]
      rfl

theorem tokenize_eq_ok_iff {signature : Text} {tokens : List Token} :
    tokenize signature (signature.length + 1) 0 [] = .ok tokens ↔
      List.Forall₂ Denotes (Lines.words isSpace signature) tokens := by
  have looped : tokenize signature (signature.length + 1) 0 [] = _ := tokenize_eq (by omega) []
  rw [looped, List.drop_zero]
  have compiled : (Lines.words isSpace signature).mapM (compileToken signature) = .ok tokens ↔ _ := mapM_eq_ok_iff
  simp only [compileToken_eq_ok_iff] at compiled
  rw [← compiled]
  cases (Lines.words isSpace signature).mapM (compileToken signature) with
  | error error => exact ⟨nofun, nofun⟩
  | ok values => exact Iff.rfl

theorem compile_eq_ok {signature : Text} {pattern : Pattern} (compiled : compile signature = .ok pattern) :
    List.Forall₂ Denotes (Lines.words isSpace signature) pattern.tokens ∧
      pattern.anchorOffset = (findAnchor pattern.tokens).anchorOffset ∧
      pattern.anchorLength = (findAnchor pattern.tokens).anchorLength := by
  unfold compile at compiled
  split at compiled
  · cases compiled
  next tokens listed =>
    split at compiled
    · cases compiled
    · cases compiled
      exact ⟨tokenize_eq_ok_iff.mp listed, rfl, rfl⟩

theorem compile_ok_iff {signature : Text} : (∃ pattern, compile signature = .ok pattern) ↔
    Lines.words isSpace signature ≠ [] ∧ ∀ word ∈ Lines.words isSpace signature, Grammatical word := by
  constructor
  · intro compiled
    obtain ⟨pattern, compiled⟩ := compiled
    have listed := (compile_eq_ok compiled).1
    have filled := compile_nonempty compiled
    constructor
    · intro none
      rw [none, List.forall₂_nil_left_iff] at listed
      simp [empty, listed] at filled
    · intro word member
      obtain ⟨index, inside, rfl⟩ := List.mem_iff_getElem.mp member
      exact ⟨_, listed.get inside (listed.length_eq ▸ inside)⟩
  · intro words
    obtain ⟨some, each⟩ := words
    obtain ⟨tokens, listed⟩ : ∃ tokens, List.Forall₂ Denotes (Lines.words isSpace signature) tokens := by
      clear some
      generalize Lines.words isSpace signature = words at each
      induction words with
      | nil => exact ⟨[], .nil⟩
      | cons word later ih =>
        obtain ⟨token, denoted⟩ := each word List.mem_cons_self
        obtain ⟨tokens, listed⟩ := ih fun other member => each other (List.mem_cons_of_mem _ member)
        exact ⟨token :: tokens, .cons denoted listed⟩
    have filled : tokens ≠ [] := by
      intro none
      rw [none, List.forall₂_nil_right_iff] at listed
      exact some listed
    simp only [compile, tokenize_eq_ok_iff.mpr listed, List.isEmpty_eq_false_iff.mpr filled]
    exact ⟨_, rfl⟩

namespace AnchorSearch

variable {tokens : List Token} {search : AnchorSearch} {index : Nat}

/-- The search keeps the longest run so far and the one that is still open. -/
theorem runSearch_visit (sound : search.Sound tokens index)
    (runs : RunSearch (exactAt tokens · = true) index search.anchorOffset search.anchorLength search.runLength) :
    RunSearch (exactAt tokens · = true) (index + 1) (search.visit tokens index).anchorOffset
      (search.visit tokens index).anchorLength (search.visit tokens index).runLength := by
  unfold AnchorSearch.visit
  split
  next here => exact runs.extend here
  next absent =>
    split
    next longer =>
      have started : search.runStart = index - search.runLength := by
        have adjacent := sound.adjacent (by omega)
        omega
      rw [started]
      exact runs.close_longer absent longer
    next shorter => exact runs.close_shorter absent (by omega)

end AnchorSearch

theorem findAnchor_runSearch (tokens : List Token) :
    RunSearch (exactAt tokens · = true) (tokens.length + 1) (findAnchor tokens).anchorOffset
      (findAnchor tokens).anchorLength (findAnchor tokens).runLength := by
  have searched : (findAnchor tokens).Sound tokens (tokens.length + 1) ∧
      RunSearch (exactAt tokens · = true) (tokens.length + 1) (findAnchor tokens).anchorOffset
        (findAnchor tokens).anchorLength (findAnchor tokens).runLength := by
    unfold findAnchor
    generalize tokens.length + 1 = count
    induction count with
    | zero => exact ⟨⟨by simp, by simp, by simp⟩, .initial⟩
    | succ count ih =>
      rw [List.range_succ, List.foldl_append]
      exact ⟨ih.1.visit, AnchorSearch.runSearch_visit ih.1 ih.2⟩
  exact searched.2

theorem not_exactAt {tokens : List Token} {index : Nat} (outside : tokens.length ≤ index) :
    ¬exactAt tokens index = true := by
  simp [exactAt, List.getElem?_eq_none outside]

/-- The index after the last token ends the last run. -/
theorem findAnchor_runLength (tokens : List Token) : (findAnchor tokens).runLength = 0 := by
  rw [findAnchor, List.range_succ, List.foldl_append, List.foldl_cons, List.foldl_nil, AnchorSearch.visit,
    if_neg (not_exactAt (Nat.le_refl _))]
  split <;> rfl

theorem longestRun_findAnchor (tokens : List Token) :
    LongestRun (exactAt tokens · = true) (findAnchor tokens).anchorOffset (findAnchor tokens).anchorLength := by
  have searched := findAnchor_runSearch tokens
  rw [findAnchor_runLength] at searched
  apply searched.finish
  intro position outside
  exact not_exactAt (by omega)

theorem longestRun_eq_zero_iff {tokens : List Token} {start length : Nat}
    (longest : LongestRun (exactAt tokens · = true) start length) :
    length = 0 ↔ ∀ token ∈ tokens, token.wildcard = true := by
  constructor
  · intro none token member
    obtain ⟨index, inside, rfl⟩ := List.mem_iff_getElem.mp member
    by_contra exact
    -- an exact token alone is a run of length one
    have single : RunAt (exactAt tokens · = true) index 1 := by
      intro position first
      have same : position = 0 := by omega
      simpa [same, exactAt, inside] using exact
    have size := longest.longest index 1 single
    omega
  · intro wild
    by_contra positive
    have here := longest.run 0 (by omega)
    rw [exactAt, Option.any_eq_true] at here
    obtain ⟨token, found, exact⟩ := here
    have marked := wild token (List.mem_of_getElem? found)
    simp [marked] at exact

/-- A signature compiles exactly when it is in the grammar. The tokens translate its
words in order, and the anchor is the leftmost of the longest runs of exact ones. -/
theorem compile_grammar (signature : Text) :
    ((∃ pattern, compile signature = .ok pattern) ↔
      Lines.words isSpace signature ≠ [] ∧ ∀ word ∈ Lines.words isSpace signature, Grammatical word) ∧
    ∀ pattern, compile signature = .ok pattern →
      List.Forall₂ Denotes (Lines.words isSpace signature) pattern.tokens ∧
      LongestRun (exactAt pattern.tokens · = true) pattern.anchorOffset pattern.anchorLength ∧
      (pattern.anchorLength = 0 ↔ ∀ token ∈ pattern.tokens, token.wildcard = true) := by
  refine ⟨compile_ok_iff, fun pattern compiled => ?_⟩
  obtain ⟨listed, offset, length⟩ := compile_eq_ok compiled
  have longest := longestRun_findAnchor pattern.tokens
  rw [← offset, ← length] at longest
  exact ⟨listed, longest, longestRun_eq_zero_iff longest⟩

def twoRuns : Pattern where
  source := text " 48 8B ? ?? 0f 1F\t"
  tokens := [⟨0x48, false⟩, ⟨0x8B, false⟩, ⟨0, true⟩, ⟨0, true⟩, ⟨0x0F, false⟩, ⟨0x1F, false⟩]
  anchorOffset := 0
  anchorLength := 2
  anchored := by decide

/-- Of two runs of the same length the first is the anchor. -/
theorem compile_grammar_twoRuns : LongestRun (exactAt twoRuns.tokens · = true) 0 2 :=
  ((compile_grammar twoRuns.source).2 twoRuns (by rfl)).2.1

end DevilzDen.Backend.Pattern
