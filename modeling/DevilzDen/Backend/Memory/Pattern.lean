import DevilzDen.Backend.Memory.Pointer
import DevilzDen.Foundation.Lines

/-! Byte signatures: text tokens, wildcards and the scan anchor.

`Pattern.compile` walks the signature by index, one token at a time. The
compiled pattern carries the fact that its anchor lies over exact bytes only.
-/

set_option autoImplicit false

namespace DevilzDen.Backend

open Foundation

namespace Pattern

structure Token where
  value : UInt8 := 0
  wildcard : Bool := false
  deriving DecidableEq, Repr

def exactAt (tokens : List Token) (index : Nat) : Bool :=
  tokens[index]?.any fun token => !token.wildcard

end Pattern

structure Pattern where
  source : Text := []
  tokens : List Pattern.Token := []
  anchorOffset : Nat := 0
  anchorLength : Nat := 0
  anchored : ∀ position < anchorLength, Pattern.exactAt tokens (anchorOffset + position) = true := by
    simp
  deriving DecidableEq

namespace Pattern

def size (pattern : Pattern) : Nat := pattern.tokens.length

def empty (pattern : Pattern) : Bool := pattern.tokens.isEmpty

def skip (condition : UInt8 → Bool) (signature : Text) (index : Nat) : Nat :=
  index + ((signature.drop index).takeWhile condition).length

def compileToken (signature word : Text) : Result Token :=
  if word = text "?" ∨ word = text "??" then .ok { value := 0, wildcard := true }
  else if word.length ≠ 2 then
    .error (((Error.runtime "Invalid pattern token").withContext "Token" word).withContext
      "Pattern" signature)
  else
    let invalid := ((Error.runtime "Invalid hexadecimal pattern byte").withContext
      "Token" word).withContext "Pattern" signature
    match Numeral.fromChars 16 (2 ^ 32) word with
    | .error _ => .error invalid
    | .ok (value, rest) =>
        if rest ≠ [] ∨ value > 0xFF then .error invalid
        else .ok { value := UInt8.ofNat value, wildcard := false }

/-- The token loop from an index on. Each turn consumes a character, so the
fuel of `compile` outlasts the signature. -/
def tokenize (signature : Text) : (fuel index : Nat) → List Token → Result (List Token)
  | 0, _, tokens => .ok tokens
  | fuel + 1, index, tokens =>
      if index < signature.length then
        let start := skip isSpace signature index
        if start = signature.length then .ok tokens
        else
          let stop := skip (fun char => !isSpace char) signature start
          match compileToken signature ((signature.drop start).take (stop - start)) with
          | .error error => .error error
          | .ok token => tokenize signature fuel stop (tokens ++ [token])
      else .ok tokens

theorem drop_skip (condition : UInt8 → Bool) (signature : Text) (index : Nat) :
    signature.drop (skip condition signature index) = (signature.drop index).dropWhile condition := by
  rw [skip, ← List.drop_drop, Lines.drop_length_takeWhile]

theorem tokenize_eq {signature : Text} {fuel index : Nat} (enough : signature.length - index < fuel)
    (tokens : List Token) :
    tokenize signature fuel index tokens =
      ((Lines.words isSpace (signature.drop index)).mapM (compileToken signature)).map
        fun compiled => tokens ++ compiled := by
  induction fuel generalizing index tokens with
  | zero => omega
  | succ fuel ih =>
    rw [tokenize]
    split
    next inside =>
      -- the blanks before the token; at most the rest of the signature
      have blanks := (List.takeWhile_sublist isSpace (l := signature.drop index)).length_le
      rw [List.length_drop] at blanks
      have started := drop_skip isSpace signature index
      dsimp only
      split
      next ended =>
        rw [ended, List.drop_length] at started
        rw [Lines.words_eq_nil isSpace started.symm]
        simp [Except.map, pure, Except.pure]
      next unfinished =>
        have remains : skip isSpace signature index < signature.length := by
          rw [skip] at unfinished ⊢
          omega
        have forward : index ≤ skip isSpace signature index := Nat.le_add_right _ _
        generalize skip isSpace signature index = start at started unfinished remains forward ⊢
        cases rest : signature.drop start with
        | nil => exact absurd (List.drop_eq_nil_iff.mp rest) (by omega)
        | cons char tail =>
          have ordinary : isSpace char = false := by
            have head := List.head_dropWhile_not isSpace (l := signature.drop index)
            simpa [← started, rest] using head
          have word : (char :: tail).take (skip (fun other => !isSpace other) signature start - start) =
              (char :: tail).takeWhile fun other => !isSpace other := by
            rw [← rest, skip, Nat.add_sub_cancel_left, Lines.take_length_takeWhile]
          -- a token has a character, so the fuel left still outlasts what follows it
          have advances : start < skip (fun other => !isSpace other) signature start := by
            rw [skip, rest, List.takeWhile_cons_of_pos (by simp [ordinary])]
            exact Nat.lt_add_of_pos_right (Nat.succ_pos _)
          have after : signature.drop (skip (fun other => !isSpace other) signature start) =
              (char :: tail).dropWhile fun other => !isSpace other := by
            rw [drop_skip, rest]
          have listed : Lines.words isSpace (signature.drop index) =
              ((char :: tail).takeWhile fun other => !isSpace other) ::
                Lines.words isSpace ((char :: tail).dropWhile fun other => !isSpace other) := by
            rw [← Lines.words_dropWhile, ← started, rest, Lines.words_of_ordinary isSpace ordinary]
          rw [word, listed, List.mapM_cons]
          cases compileToken signature ((char :: tail).takeWhile fun other => !isSpace other) with
          | error error => rfl
          | ok token =>
            dsimp only
            rw [ih (by omega), after]
            cases (Lines.words isSpace ((char :: tail).dropWhile fun other => !isSpace other)).mapM
                (compileToken signature) with
            | error error => rfl
            | ok compiled => simp [Except.map, bind, Except.bind, pure, Except.pure]
    next outside =>
      rw [List.drop_of_length_le (by omega), Lines.words_nil]
      simp [Except.map, pure, Except.pure]

structure AnchorSearch where
  runStart : Nat := 0
  runLength : Nat := 0
  anchorOffset : Nat := 0
  anchorLength : Nat := 0
  deriving DecidableEq, Repr

def AnchorSearch.visit (tokens : List Token) (search : AnchorSearch) (index : Nat) : AnchorSearch :=
  if exactAt tokens index then
    { search with
      runStart := if search.runLength = 0 then index else search.runStart
      runLength := search.runLength + 1 }
  else if search.runLength > search.anchorLength then
    { search with
      anchorOffset := search.runStart
      anchorLength := search.runLength
      runLength := 0 }
  else { search with runLength := 0 }

/-- The loop also visits the index after the last token, which ends every run. -/
def findAnchor (tokens : List Token) : AnchorSearch :=
  (List.range (tokens.length + 1)).foldl (AnchorSearch.visit tokens) {}

/-- What holds once every index below `index` is visited. -/
structure AnchorSearch.Sound (tokens : List Token) (search : AnchorSearch) (index : Nat) : Prop where
  anchor : ∀ position < search.anchorLength, exactAt tokens (search.anchorOffset + position) = true
  current : ∀ position < search.runLength, exactAt tokens (search.runStart + position) = true
  adjacent : 0 < search.runLength → search.runStart + search.runLength = index

theorem AnchorSearch.Sound.visit {tokens : List Token} {search : AnchorSearch} {index : Nat}
    (sound : search.Sound tokens index) : (search.visit tokens index).Sound tokens (index + 1) := by
  unfold AnchorSearch.visit
  split
  next exact =>
    refine ⟨sound.anchor, fun position within => ?_, fun _ => ?_⟩
    -- the run either starts at this index or is extended by it
    · by_cases fresh : search.runLength = 0
      · have first : position = 0 := by simp only at within; omega
        simpa [fresh, first] using exact
      · simp only [if_neg fresh]
        by_cases last : position = search.runLength
        · rw [last, sound.adjacent (by omega)]
          exact exact
        · exact sound.current position (by simp only at within; omega)
    · have adjacent := sound.adjacent
      simp only
      split <;> omega
  next =>
    split
    · exact ⟨sound.current, fun _ within => absurd within (Nat.not_lt_zero _),
        fun positive => absurd positive (Nat.lt_irrefl 0)⟩
    · exact ⟨sound.anchor, fun _ within => absurd within (Nat.not_lt_zero _),
        fun positive => absurd positive (Nat.lt_irrefl 0)⟩

theorem findAnchor_sound (tokens : List Token) :
    (findAnchor tokens).Sound tokens (tokens.length + 1) := by
  unfold findAnchor
  generalize tokens.length + 1 = count
  induction count with
  | zero => exact ⟨by simp, by simp, by simp⟩
  | succ count ih =>
    rw [List.range_succ, List.foldl_append]
    exact ih.visit

def compile (signature : Text) : Result Pattern :=
  match tokenize signature (signature.length + 1) 0 [] with
  | .error error => .error error
  | .ok tokens =>
      if tokens.isEmpty then .error (Error.runtime "Pattern cannot be empty")
      else
        .ok { source := signature
              tokens := tokens
              anchorOffset := (findAnchor tokens).anchorOffset
              anchorLength := (findAnchor tokens).anchorLength
              anchored := (findAnchor_sound tokens).anchor }

theorem anchor_inside (pattern : Pattern) {position : Nat} (within : position < pattern.anchorLength) :
    pattern.anchorOffset + position < pattern.size := by
  have exact := pattern.anchored position within
  rw [exactAt, Option.any_eq_true] at exact
  obtain ⟨token, found, _⟩ := exact
  exact (List.getElem?_eq_some_iff.mp found).1

theorem size_pos {pattern : Pattern} (tokens : pattern.empty = false) : 0 < pattern.size :=
  List.length_pos_of_ne_nil (by simpa [empty] using tokens)

theorem compile_nonempty {signature : Text} {pattern : Pattern} (compiled : compile signature = .ok pattern) :
    pattern.empty = false := by
  unfold compile at compiled
  split at compiled
  · cases compiled
  · split at compiled
    · cases compiled
    next tokens =>
      cases compiled
      simpa [empty] using tokens

example : (compile (text " 48 8B ? ?? 0f\t")).toOption.map (·.tokens) =
    some [⟨0x48, false⟩, ⟨0x8B, false⟩, ⟨0, true⟩, ⟨0, true⟩, ⟨0x0F, false⟩] := by decide

end Pattern

end DevilzDen.Backend
