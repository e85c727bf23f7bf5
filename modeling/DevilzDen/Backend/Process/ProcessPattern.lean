import DevilzDen.Backend.Memory.Pointer
import DevilzDen.Foundation.Lines
import DevilzDen.Foundation.Search

/-! The signature pipeline of a foreign process: stream extraction and a naive scan.

The scanner reads the whole module image through a reader first. It is handed
here as a function, so that any reader can be scanned with.
-/

set_option autoImplicit false

namespace DevilzDen.Backend

open Foundation

structure ProcessModuleInfo where
  name : Text
  baseAddress : Address
  imageSize : UInt32
  deriving DecidableEq, Repr

def ProcessModuleInfo.valid (module : ProcessModuleInfo) : Bool :=
  !module.name.isEmpty && module.baseAddress != 0 && module.imageSize != 0

structure ProcessPatternByte where
  value : UInt8 := 0
  wildcard : Bool := false
  deriving DecidableEq, Repr

structure ProcessPattern where
  bytes : List ProcessPatternByte := []
  deriving DecidableEq, Repr

namespace ProcessPattern

def size (pattern : ProcessPattern) : Nat := pattern.bytes.length

def empty (pattern : ProcessPattern) : Bool := pattern.bytes.isEmpty

/-- `stream >> token`: skip what `std::isspace` accepts, then take a word up to the next such character. -/
def extract (stream : Text) : Option (Text × Text) :=
  let rest := stream.dropWhile isSpace
  if rest = [] then none
  else some (rest.takeWhile fun char => !isSpace char, rest.dropWhile fun char => !isSpace char)

def parseByte (token : Text) : Option ProcessPatternByte :=
  if token = text "?" ∨ token = text "??" then some { value := 0, wildcard := true }
  else if token.length ≠ 2 then none
  else match Numeral.fromChars 16 (2 ^ 32) token with
    | .error _ => none
    | .ok (value, rest) =>
        if rest ≠ [] ∨ value > 0xFF then none
        else some { value := UInt8.ofNat value, wildcard := false }

/-- The extraction loop. Each turn consumes a character, so the fuel of `parse` outlasts the stream. -/
def parseFrom : (fuel : Nat) → (stream : Text) → List ProcessPatternByte → Option (List ProcessPatternByte)
  | 0, _, bytes => some bytes
  | fuel + 1, stream, bytes =>
      match extract stream with
      | none => some bytes
      | some (token, rest) =>
          match parseByte token with
          | none => none
          | some byte => parseFrom fuel rest (bytes ++ [byte])

def parse (signature : Text) : Option ProcessPattern :=
  match parseFrom (signature.length + 1) signature [] with
  | none => none
  | some bytes => if bytes.isEmpty then none else some { bytes }

theorem parseFrom_eq {fuel : Nat} {stream : Text} (enough : stream.length < fuel)
    (bytes : List ProcessPatternByte) :
    parseFrom fuel stream bytes =
      ((Lines.words isSpace stream).mapM parseByte).map fun parsed => bytes ++ parsed := by
  induction fuel generalizing stream bytes with
  | zero => omega
  | succ fuel ih =>
    rw [parseFrom, extract]
    cases rest : stream.dropWhile isSpace with
    | nil => simp [Lines.words_eq_nil isSpace rest]
    | cons char tail =>
      have ordinary : isSpace char = false := by
        have head := List.head_dropWhile_not isSpace (l := stream)
        simpa [rest] using head
      -- the extracted word is not empty, so the fuel left outlasts the rest
      have shorter : ((char :: tail).dropWhile fun other => !isSpace other).length < fuel := by
        have inner := (List.dropWhile_sublist (fun other => !isSpace other) (l := tail)).length_le
        have outer := (List.dropWhile_sublist isSpace (l := stream)).length_le
        rw [rest, List.length_cons] at outer
        rw [List.dropWhile_cons_of_pos (by simp [ordinary])]
        omega
      rw [← Lines.words_dropWhile isSpace stream, rest, Lines.words_of_ordinary isSpace ordinary]
      simp only [reduceCtorEq, if_false, List.mapM_cons]
      cases parseByte ((char :: tail).takeWhile fun other => !isSpace other) with
      | none => rfl
      | some byte =>
        dsimp only
        rw [ih shorter]
        cases (Lines.words isSpace ((char :: tail).dropWhile fun other => !isSpace other)).mapM parseByte with
        | none => rfl
        | some parsed => simp

end ProcessPattern

structure ProcessPatternMatch where
  address : Address
  offset : Nat
  deriving DecidableEq, Repr

namespace ProcessPatternScanner

def matchesAt (bytes : List UInt8) (pattern : ProcessPattern) (offset : Nat) : Bool :=
  (List.range pattern.size).all fun index =>
    let expected := pattern.bytes.getD index {}
    expected.wildcard || bytes.getD (offset + index) 0 == expected.value

def accept (module : ProcessModuleInfo) (bytes : List UInt8) (pattern : ProcessPattern) (offset : Nat) :
    Option ProcessPatternMatch :=
  if matchesAt bytes pattern offset then
    some { address := module.baseAddress + UInt64.ofNat offset, offset := offset }
  else none

def scan (read : Address → Nat → Result (List UInt8)) (module : ProcessModuleInfo) (pattern : ProcessPattern)
    (maxMatches : UInt64 := 16) : Result (List ProcessPatternMatch) :=
  if !module.valid || pattern.empty || pattern.size > module.imageSize.toNat || maxMatches == 0 then
    .error { code := .invalidArgument, category := .runtime, message := text "Invalid external pattern scan request" }
  else match read module.baseAddress module.imageSize.toNat with
    | .error error => .error error
    | .ok bytes =>
        let last := bytes.length - pattern.size
        .ok (search (accept module bytes pattern) maxMatches.toNat (last + 1) 0 []).1

theorem scan_eq_ok {read : Address → Nat → Result (List UInt8)} {module : ProcessModuleInfo}
    {pattern : ProcessPattern} {maxMatches : UInt64} {image : List UInt8} (valid : module.valid = true)
    (tokens : pattern.empty = false) (fits : pattern.size ≤ module.imageSize.toNat) (positive : maxMatches ≠ 0)
    (successful : read module.baseAddress module.imageSize.toNat = .ok image) :
    scan read module pattern maxMatches = .ok
      (((List.range (image.length - pattern.size + 1)).filterMap (accept module image pattern)).take
        maxMatches.toNat) := by
  simp [scan, valid, tokens, Nat.not_lt.mpr fits, positive, successful, search_zero_found]

end ProcessPatternScanner

end DevilzDen.Backend
