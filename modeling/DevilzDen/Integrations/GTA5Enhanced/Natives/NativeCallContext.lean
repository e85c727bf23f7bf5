import DevilzDen.Backend.Error
import DevilzDen.Integrations.GTA5Enhanced.Natives.GTANativeCallContext

/-! The arguments and the results of a native call by hash or by index.

Slots are their eight bytes, and a value is its own. A read may be wider than a
slot, and goes on with the slots behind it; types that end behind the last slot,
and writes past the slots through the pointers that `ArgumentData` and
`ReturnData` give out, are left out.
-/

set_option autoImplicit false

namespace DevilzDen.Integrations.GTA5Enhanced

open Backend Foundation
open GTANativeCallFrame (zeroSlot copy)

namespace NativeCallContext

def maxArguments : Nat := 32

def maxReturnSlots : Nat := 4

end NativeCallContext

structure NativeCallContext where
  arguments : Vector GTANativeSlot NativeCallContext.maxArguments :=
    Vector.replicate NativeCallContext.maxArguments zeroSlot
  returns : Vector GTANativeSlot NativeCallContext.maxReturnSlots :=
    Vector.replicate NativeCallContext.maxReturnSlots zeroSlot
  argumentCount : Nat := 0
  returnCount : Nat := 0
  deriving DecidableEq

namespace NativeCallContext

def reset (_context : NativeCallContext) : NativeCallContext := {}

def push (context : NativeCallContext) (value : GTANativeValue) : Result Unit × NativeCallContext :=
  if free : context.argumentCount < maxArguments then
    (.ok (), { context with
      arguments := context.arguments.set context.argumentCount (copy zeroSlot value)
      argumentCount := context.argumentCount + 1 })
  else (.error (Error.runtime "Native call argument capacity exceeded"), context)

def bytesFrom {count : Nat} (slots : Vector GTANativeSlot count) (size index : Nat) : List UInt8 :=
  ((slots.toList.drop index).flatMap (·.toList)).take size

def getArgument (context : NativeCallContext) (size index : Nat) : List UInt8 :=
  if context.argumentCount ≤ index then List.replicate size 0 else bytesFrom context.arguments size index

def setReturn (context : NativeCallContext) (value : GTANativeValue) (index : Nat) : NativeCallContext :=
  if inside : index < maxReturnSlots then
    { context with
      returns := context.returns.set index (copy zeroSlot value)
      returnCount := if context.returnCount ≤ index then index + 1 else context.returnCount }
  else context

def getReturn (context : NativeCallContext) (size index : Nat) : List UInt8 :=
  if context.returnCount ≤ index then List.replicate size 0 else bytesFrom context.returns size index

/-- A call of a member, or a write through one of the two pointers. -/
inductive Move where
  | reset
  | push (value : GTANativeValue)
  | setReturn (value : GTANativeValue) (index : Nat)
  | argumentData (index : Fin maxArguments) (slot : GTANativeSlot)
  | returnData (index : Fin maxReturnSlots) (slot : GTANativeSlot)

def step (context : NativeCallContext) : Move → NativeCallContext
  | .reset => context.reset
  | .push value => (context.push value).2
  | .setReturn value index => context.setReturn value index
  | .argumentData index slot => { context with arguments := context.arguments.set index slot }
  | .returnData index slot => { context with returns := context.returns.set index slot }

/-! ## What the slots should hold -/

def Move.Resets : Move → Prop
  | .reset => True
  | .push _ | .setReturn .. | .argumentData .. | .returnData .. => False

instance decidableResets : DecidablePred Move.Resets
  | .reset => isTrue trivial
  | .push _ | .setReturn .. | .argumentData .. | .returnData .. => isFalse id

def sinceReset (moves : List Move) : List Move :=
  (moves.reverse.takeWhile fun move => !decide move.Resets).reverse

/-- The values that were pushed, whether there was a slot left or not. -/
def pushes (calls : List Move) : List GTANativeValue :=
  calls.filterMap fun
    | .push value => some value
    | _ => none

/-- What the moves write to the arguments: the n-th push writes to the n-th slot. -/
def argumentWrites (pushed : Nat) : List Move → List (Nat × GTANativeSlot)
  | [] => []
  | .push value :: rest => (pushed, copy zeroSlot value) :: argumentWrites (pushed + 1) rest
  | .argumentData index slot :: rest => (index.val, slot) :: argumentWrites pushed rest
  | .reset :: rest | .setReturn _ _ :: rest | .returnData _ _ :: rest => argumentWrites pushed rest

def returnWrites : List Move → List (Nat × GTANativeSlot)
  | [] => []
  | .setReturn value index :: rest => (index, copy zeroSlot value) :: returnWrites rest
  | .returnData index slot :: rest => (index.val, slot) :: returnWrites rest
  | .reset :: rest | .push _ :: rest | .argumentData _ _ :: rest => returnWrites rest

def latest (writes : List (Nat × GTANativeSlot)) (index : Nat) : GTANativeSlot :=
  (writes.reverse.findSome? fun write => if write.1 = index then some write.2 else none).getD zeroSlot

/-- Whether a result at this index, or behind it, was set. -/
def Shown (calls : List Move) (index : Nat) : Prop :=
  ∃ value last, Move.setReturn value last ∈ calls ∧ index ≤ last ∧ last < maxReturnSlots

def written (writes : List (Nat × GTANativeSlot)) (slots index : Nat) : List UInt8 :=
  (List.range' index (slots - index)).flatMap fun place => (latest writes place).toList

theorem sinceReset_append (moves : List Move) (move : Move) :
    sinceReset (moves ++ [move]) = if move.Resets then [] else sinceReset moves ++ [move] := by
  simp only [sinceReset, List.reverse_append, List.reverse_singleton, List.singleton_append, List.takeWhile_cons]
  by_cases resets : move.Resets <;> simp [resets]

theorem pushes_append (calls : List Move) (move : Move) :
    pushes (calls ++ [move]) = pushes calls ++ pushes [move] := List.filterMap_append

theorem argumentWrites_append (calls : List Move) (move : Move) (pushed : Nat) :
    argumentWrites pushed (calls ++ [move]) =
      argumentWrites pushed calls ++ argumentWrites (pushed + (pushes calls).length) [move] := by
  induction calls generalizing pushed with
  | nil => rfl
  | cons call rest ih => cases call <;> simp [argumentWrites, pushes, ih, Nat.add_assoc, Nat.add_comm]

theorem returnWrites_append (calls : List Move) (move : Move) :
    returnWrites (calls ++ [move]) = returnWrites calls ++ returnWrites [move] := by
  induction calls with
  | nil => rfl
  | cons call rest ih => cases call <;> simp [returnWrites, ih]

theorem latest_append (writes : List (Nat × GTANativeSlot)) (place index : Nat) (slot : GTANativeSlot) :
    latest (writes ++ [(place, slot)]) index = if place = index then slot else latest writes index := by
  simp only [latest, List.reverse_append, List.reverse_singleton, List.singleton_append, List.findSome?_cons]
  by_cases same : place = index <;> simp [same]

/-! ## What they hold -/

structure Holds (context : NativeCallContext) (calls : List Move) : Prop where
  arguments : ∀ index, (inside : index < maxArguments) →
    context.arguments[index] = latest (argumentWrites 0 calls) index
  returns : ∀ index, (inside : index < maxReturnSlots) → context.returns[index] = latest (returnWrites calls) index
  argumentCount : context.argumentCount = min maxArguments (pushes calls).length
  returnCount : ∀ index, index < context.returnCount ↔ Shown calls index

theorem holds_reset : Holds {} [] where
  arguments _ inside := Vector.getElem_replicate inside
  returns _ inside := Vector.getElem_replicate inside
  argumentCount := rfl
  returnCount index := iff_of_false (Nat.not_lt_zero index) fun ⟨_, _, member, _⟩ => nomatch member

theorem shown_append (calls : List Move) (move : Move) (index : Nat) :
    Shown (calls ++ [move]) index ↔ Shown calls index ∨
      ∃ value last, move = .setReturn value last ∧ index ≤ last ∧ last < maxReturnSlots := by
  constructor
  · rintro ⟨value, last, member, range⟩
    rcases List.mem_append.mp member with old | new
    · exact Or.inl ⟨value, last, old, range⟩
    · exact Or.inr ⟨value, last, (List.mem_singleton.mp new).symm, range⟩
  · rintro (⟨value, last, member, range⟩ | ⟨value, last, rfl, range⟩)
    · exact ⟨value, last, List.mem_append_left _ member, range⟩
    · exact ⟨value, last, List.mem_append_right _ List.mem_cons_self, range⟩

theorem shown_append_of_silent (calls : List Move) {move : Move}
    (silent : ∀ value last, move ≠ .setReturn value last) (index : Nat) :
    Shown (calls ++ [move]) index ↔ Shown calls index := by
  rw [shown_append]
  constructor
  · rintro (old | ⟨value, last, same, _⟩)
    · exact old
    · exact absurd same (silent value last)
  · exact Or.inl

variable {context : NativeCallContext} {calls : List Move}

theorem Holds.push (holds : Holds context calls) (value : GTANativeValue) :
    Holds (context.push value).2 (calls ++ [.push value]) := by
  have count := holds.argumentCount
  have arguments := argumentWrites_append calls (.push value) 0
  have returns := returnWrites_append calls (.push value)
  rw [Nat.zero_add, argumentWrites, argumentWrites] at arguments
  rw [returnWrites, returnWrites, List.append_nil] at returns
  have counted : (pushes (calls ++ [Move.push value])).length = (pushes calls).length + 1 := by
    rw [pushes_append, List.length_append]
    rfl
  have shown (index : Nat) : index < context.returnCount ↔ Shown (calls ++ [Move.push value]) index := by
    rw [shown_append_of_silent calls (fun _ _ => Move.noConfusion), holds.returnCount]
  have results (index : Nat) (inside : index < maxReturnSlots) :
      context.returns[index] = latest (returnWrites (calls ++ [Move.push value])) index := by
    rw [returns]
    exact holds.returns index inside
  unfold NativeCallContext.push
  split
  next free =>
    have place : context.argumentCount = (pushes calls).length := by omega
    refine ⟨fun index inside => ?_, results, ?_, shown⟩
    · rw [arguments, latest_append, ← holds.arguments index inside, ← place]
      exact Vector.getElem_set free inside
    · simp only [counted]
      omega
  next full =>
    -- the slot of this push is behind the last
    refine ⟨fun index inside => ?_, results, ?_, shown⟩
    · rw [arguments, latest_append, if_neg (by omega)]
      exact holds.arguments index inside
    · simp only [counted]
      omega

theorem Holds.setReturn (holds : Holds context calls) (value : GTANativeValue) (last : Nat) :
    Holds (context.setReturn value last) (calls ++ [.setReturn value last]) := by
  have arguments := argumentWrites_append calls (.setReturn value last) 0
  have returns := returnWrites_append calls (.setReturn value last)
  rw [argumentWrites, argumentWrites, List.append_nil] at arguments
  rw [returnWrites, returnWrites] at returns
  have count : context.argumentCount = min maxArguments (pushes (calls ++ [Move.setReturn value last])).length := by
    rw [pushes_append, List.length_append]
    exact holds.argumentCount
  have given (index : Nat) (inside : index < maxArguments) :
      context.arguments[index] = latest (argumentWrites 0 (calls ++ [Move.setReturn value last])) index := by
    rw [arguments]
    exact holds.arguments index inside
  have shown (index : Nat) : Shown (calls ++ [Move.setReturn value last]) index ↔
      index < context.returnCount ∨ index ≤ last ∧ last < maxReturnSlots := by
    rw [shown_append, ← holds.returnCount]
    constructor
    · rintro (old | ⟨_, _, same, range⟩)
      · exact Or.inl old
      · cases same
        exact Or.inr range
    · rintro (old | range)
      · exact Or.inl old
      · exact Or.inr ⟨value, last, rfl, range⟩
  unfold NativeCallContext.setReturn
  split
  next inside =>
    refine ⟨given, fun index within => ?_, count, fun index => ?_⟩
    · rw [returns, latest_append, ← holds.returns index within]
      exact Vector.getElem_set inside within
    · rw [shown]
      dsimp only
      split <;> omega
  next outside =>
    refine ⟨given, fun index within => ?_, count, fun index => ?_⟩
    · rw [returns, latest_append, if_neg (by omega)]
      exact holds.returns index within
    · rw [shown]
      omega

theorem Holds.argumentData (holds : Holds context calls) (place : Fin maxArguments) (slot : GTANativeSlot) :
    Holds (step context (.argumentData place slot)) (calls ++ [.argumentData place slot]) := by
  have arguments := argumentWrites_append calls (.argumentData place slot) 0
  have returns := returnWrites_append calls (.argumentData place slot)
  rw [argumentWrites, argumentWrites] at arguments
  rw [returnWrites, returnWrites, List.append_nil] at returns
  refine ⟨fun index inside => ?_, fun index inside => ?_, ?_, fun index => ?_⟩
  · rw [arguments, latest_append, ← holds.arguments index inside]
    exact Vector.getElem_set place.isLt inside
  · rw [returns]
    exact holds.returns index inside
  · rw [pushes_append, List.length_append]
    exact holds.argumentCount
  · rw [shown_append_of_silent calls (fun _ _ => Move.noConfusion)]
    exact holds.returnCount index

theorem Holds.returnData (holds : Holds context calls) (place : Fin maxReturnSlots) (slot : GTANativeSlot) :
    Holds (step context (.returnData place slot)) (calls ++ [.returnData place slot]) := by
  have arguments := argumentWrites_append calls (.returnData place slot) 0
  have returns := returnWrites_append calls (.returnData place slot)
  rw [argumentWrites, argumentWrites, List.append_nil] at arguments
  rw [returnWrites, returnWrites] at returns
  refine ⟨fun index inside => ?_, fun index inside => ?_, ?_, fun index => ?_⟩
  · rw [arguments]
    exact holds.arguments index inside
  · rw [returns, latest_append, ← holds.returns index inside]
    exact Vector.getElem_set place.isLt inside
  · rw [pushes_append, List.length_append]
    exact holds.argumentCount
  · rw [shown_append_of_silent calls (fun _ _ => Move.noConfusion)]
    exact holds.returnCount index

theorem Holds.preserved (holds : Holds context calls) (move : Move) :
    Holds (step context move) (if move.Resets then [] else calls ++ [move]) := by
  cases move with
  | reset => exact holds_reset
  | push value => exact holds.push value
  | setReturn value last => exact holds.setReturn value last
  | argumentData place slot => exact holds.argumentData place slot
  | returnData place slot => exact holds.returnData place slot

theorem bytesFrom_eq {count : Nat} {slots : Vector GTANativeSlot count} {writes : List (Nat × GTANativeSlot)}
    (same : ∀ index, (inside : index < count) → slots[index] = latest writes index) (size index : Nat) :
    bytesFrom slots size index = (written writes count index).take size := by
  have listed : slots.toList = (List.range count).map (latest writes) := by
    apply List.ext_getElem
    · simp
    · intro place inside _
      simpa using same place (by simpa using inside)
  have rest : (List.range count).drop index = List.range' index (count - index) := by
    rw [List.range_eq_range', List.drop_range']
    simp
  rw [bytesFrom, written, listed, ← List.map_drop, rest, List.flatMap_map]

theorem holds_run (moves : List Move) : Holds (run step {} moves) (sinceReset moves) := by
  induction moves using List.reverseRecOn with
  | nil => exact holds_reset
  | append_singleton earlier move ih =>
    rw [run_append, sinceReset_append]
    exact ih.preserved move

/-- What the getters return tells the calls, for sizes that end within the slots: after any
moves, an argument is read as the bytes that were last written to its slot since the last
reset, if so many were pushed, of which there are 32 at most; a result is, if it or one
behind it was set since then; and all else is read as zero. -/
theorem reads_tell_calls (moves : List Move) (size index : Nat) :
    (run step {} moves).getArgument size index =
        (if index < min maxArguments (pushes (sinceReset moves)).length then
          (written (argumentWrites 0 (sinceReset moves)) maxArguments index).take size
        else List.replicate size 0) ∧
      (Shown (sinceReset moves) index → (run step {} moves).getReturn size index =
        (written (returnWrites (sinceReset moves)) maxReturnSlots index).take size) ∧
      (¬Shown (sinceReset moves) index → (run step {} moves).getReturn size index = List.replicate size 0) := by
  have holds := holds_run moves
  refine ⟨?_, fun shown => ?_, fun hidden => ?_⟩
  · rw [getArgument, holds.argumentCount, bytesFrom_eq holds.arguments]
    by_cases present : index < min maxArguments (pushes (sinceReset moves)).length
    · rw [if_pos present, if_neg (Nat.not_le_of_lt present)]
    · rw [if_neg present, if_pos (Nat.le_of_not_lt present)]
  · rw [getReturn, if_neg (Nat.not_le_of_lt ((holds.returnCount index).mpr shown)), bytesFrom_eq holds.returns]
  · rw [getReturn, if_pos (Nat.le_of_not_lt fun present => hidden ((holds.returnCount index).mp present))]

theorem latest_pushed {calls : List Move} (untouched : ∀ place slot, Move.argumentData place slot ∉ calls)
    {index : Nat} {value : GTANativeValue} (pushed : (pushes calls)[index]? = some value) :
    latest (argumentWrites 0 calls) index = copy zeroSlot value := by
  induction calls using List.reverseRecOn with
  | nil => exact nomatch pushed
  | append_singleton earlier move ih =>
    have before : ∀ place slot, Move.argumentData place slot ∉ earlier := fun place slot member =>
      untouched place slot (List.mem_append_left _ member)
    rw [argumentWrites_append, Nat.zero_add]
    rw [pushes_append] at pushed
    cases move with
    | push last =>
      rw [argumentWrites, argumentWrites, latest_append]
      have one : pushes [Move.push last] = [last] := rfl
      rw [one] at pushed
      split
      next place =>
        rw [← place, List.getElem?_concat_length] at pushed
        rw [Option.some.inj pushed]
      next elsewhere =>
        apply ih before
        rwa [List.getElem?_append_left] at pushed
        have inside := (List.getElem?_eq_some_iff.mp pushed).1
        rw [List.length_append, List.length_singleton] at inside
        omega
    | argumentData place slot => exact absurd List.mem_concat_self (untouched place slot)
    | reset | setReturn | returnData =>
      rw [argumentWrites, argumentWrites, List.append_nil]
      rw [show pushes [_] = [] from rfl, List.append_nil] at pushed
      exact ih before pushed

/-- An argument that is read as a value of the size it was pushed with is that value. -/
theorem argument_comes_back {moves : List Move}
    (untouched : ∀ place slot, Move.argumentData place slot ∉ sinceReset moves) {index : Nat}
    (inside : index < maxArguments) {value : GTANativeValue}
    (pushed : (pushes (sinceReset moves))[index]? = some value) :
    (run step {} moves).getArgument value.bytes.length index = value.bytes := by
  have holds := holds_run moves
  have present := (List.getElem?_eq_some_iff.mp pushed).1
  have counted := holds.argumentCount
  have later : List.range' index (maxArguments - index) =
      index :: List.range' (index + 1) (maxArguments - index - 1) := by
    rw [← List.range'_succ]
    congr
    omega
  rw [getArgument, if_neg (by omega), bytesFrom_eq holds.arguments, written, later, List.flatMap_cons,
    latest_pushed untouched pushed, GTANativeCallFrame.toList_copy_zeroSlot, List.append_assoc, List.take_left]

end NativeCallContext

end DevilzDen.Integrations.GTA5Enhanced
