import DevilzDen.Foundation.Numeral
import Mathlib.Data.List.Forall2

/-! Structured errors and results of the backend.

Texts are byte strings, as `std::string` is. An error keeps its code, category,
message, Win32 code and context. What it carries besides is read by its
description alone, and is modelled there.
-/

set_option autoImplicit false

namespace DevilzDen.Backend

open Foundation

abbrev Text := List UInt8

def text (literal : String) : Text := literal.toList.map fun char => char.toNat.toUInt8

/-- `std::to_string` of an unsigned value. -/
def decimal (value : Nat) : Text := Numeral.render 10 value

/-- `std::from_chars` into 64 bits, where only the error code is tested: what
follows the digits is ignored. -/
def fromChars64 (base : Nat) (field : Text) : Option UInt64 :=
  match Numeral.fromChars base (2 ^ 64) field with
  | .error _ => none
  | .ok (value, _) => some (UInt64.ofNat value)

theorem fromChars64_render {base : Nat} (large : 2 ≤ base) (small : base ≤ 36) (value : UInt64) :
    fromChars64 base (Numeral.render base value.toNat) = some value := by
  have read : Numeral.fromChars base (2 ^ 64) (Numeral.render base value.toNat ++ []) =
      .ok (value.toNat, []) := Numeral.fromChars_render large small value.toNat_lt rfl
  rw [List.append_nil] at read
  rw [fromChars64, read]
  exact congrArg some UInt64.ofNat_toNat

theorem fromChars64_eq_some_iff {base : Nat} {field : Text} {value : UInt64} :
    fromChars64 base field = some value ↔
      Numeral.Spells base (2 ^ 64) (Numeral.leading base field) value.toNat := by
  unfold fromChars64
  cases read : Numeral.fromChars base (2 ^ 64) field with
  | error fault =>
    refine ⟨nofun, fun spells => ?_⟩
    rw [Numeral.fromChars_eq_ok_iff.mpr ⟨spells, rfl⟩] at read
    cases read
  | ok parts =>
    have spells := (Numeral.fromChars_eq_ok_iff.mp read).1
    have exact : (UInt64.ofNat parts.1).toNat = parts.1 := UInt64.toNat_ofNat_of_lt' spells.fits
    constructor
    · intro same
      rwa [← Option.some.inj same, exact]
    · intro other
      have same : parts.1 = value.toNat := spells.denotes.symm.trans other.denotes
      exact congrArg some ((congrArg UInt64.ofNat same).trans UInt64.ofNat_toNat)

def tab : UInt8 := 9

def newline : UInt8 := 10

/-- `std::isspace` in the C locale. -/
def isSpace (char : UInt8) : Bool := char == 32 || (9 ≤ char && char ≤ 13)

inductive ErrorCategory where
  | none
  | runtime
  | service
  | threading
  | platform
  | filesystem
  | graphics
  | network
  | configuration
  | scripting
  | unknown
  deriving DecidableEq, Repr

inductive ErrorCode where
  | none
  | runtimeFailure
  | invalidArgument
  | notFound
  | serviceInitializationFailed
  | serviceDependencyMissing
  | threadCreationFailed
  | taskExecutionFailed
  | executorStopped
  | windowFailure
  | directoryOpenFailed
  | directoryCreateFailed
  | fileOpenFailed
  | fileReadFailed
  | fileWriteFailed
  | d3d12Failure
  | d3d12DeviceCreationFailed
  | d3d12DeviceRemoved
  | networkFailure
  | unknown
  deriving DecidableEq, Repr

structure Error where
  code : ErrorCode
  category : ErrorCategory
  message : Text
  nativeCode : Option UInt32 := Option.none
  context : List (Text × Text) := []
  deriving DecidableEq, Repr

def Error.withContext (error : Error) (key : String) (value : Text) : Error :=
  { error with context := error.context ++ [(text key, value)] }

/-- `Error::FromWin32`, with the code that `GetLastError` returned. -/
def Error.fromWin32 (code : ErrorCode) (category : ErrorCategory) (nativeCode : UInt32)
    (message : String) : Error :=
  { code, category, message := text message, nativeCode := some nativeCode }

def Error.runtime (message : String) : Error :=
  { code := .runtimeFailure, category := .runtime, message := text message }

abbrev Result (α : Type) := Except Error α

theorem mapM_eq_ok_iff {α β : Type} {function : α → Result β} {inputs : List α} {outputs : List β} :
    inputs.mapM function = .ok outputs ↔
      List.Forall₂ (fun input output => function input = .ok output) inputs outputs := by
  induction inputs generalizing outputs with
  | nil =>
    rw [List.forall₂_nil_left_iff]
    constructor
    · intro succeeded
      cases succeeded
      rfl
    · intro none
      rw [none]
      rfl
  | cons input later ih =>
    rw [List.mapM_cons, List.forall₂_cons_left_iff]
    constructor
    · intro succeeded
      cases first : function input with
      | error error => rw [first] at succeeded; cases succeeded
      | ok value =>
        cases rest : later.mapM function with
        | error error => rw [first, rest] at succeeded; cases succeeded
        | ok values =>
          rw [first, rest] at succeeded
          cases succeeded
          exact ⟨value, values, rfl, ih.mp rest, rfl⟩
    · intro each
      obtain ⟨value, values, first, rest, rfl⟩ := each
      rw [first, ih.mpr rest]
      rfl

end DevilzDen.Backend
