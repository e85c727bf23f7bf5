import DevilzDen.Backend.Memory.Pointer
import DevilzDen.Foundation.Run

/-! The frame of a native call: context, argument slots and return slots.

Slots are their eight bytes and floats are their bits. The context's pointers to
the two arrays, which always point into the frame, are left out.
-/

set_option autoImplicit false

namespace DevilzDen.Integrations.GTA5Enhanced

open Backend Foundation

structure GTANativeVector3 where
  x : UInt32 := 0
  y : UInt32 := 0
  z : UInt32 := 0
  deriving DecidableEq, Repr

structure GTANativeCallContext where
  argumentCount : UInt32 := 0
  vectorReferenceCount : Int32 := 0
  vectorReferenceTargets : Vector Address 4 := Vector.replicate 4 0
  vectorReferenceSources : Vector GTANativeVector3 4 := Vector.replicate 4 {}
  deriving DecidableEq

/-- A trivially copyable value that fits a slot, as its bytes. -/
structure GTANativeValue where
  bytes : List UInt8
  fits : bytes.length ≤ 8

abbrev GTANativeSlot := Vector UInt8 8

namespace GTANativeCallFrame

def maxArguments : Nat := 40

def returnSlots : Nat := 10

def maxVectorReferences : Nat := 4

def zeroSlot : GTANativeSlot := Vector.replicate 8 0

end GTANativeCallFrame

structure GTANativeCallFrame where
  context : GTANativeCallContext := {}
  returns : Vector GTANativeSlot GTANativeCallFrame.returnSlots :=
    Vector.replicate GTANativeCallFrame.returnSlots GTANativeCallFrame.zeroSlot
  arguments : Vector GTANativeSlot GTANativeCallFrame.maxArguments :=
    Vector.replicate GTANativeCallFrame.maxArguments GTANativeCallFrame.zeroSlot
  deriving DecidableEq

namespace GTANativeCallFrame

/-- `Reset`, which the constructor ends with. -/
def reset (_frame : GTANativeCallFrame) : GTANativeCallFrame := {}

/-- Copy the bytes of a value into a slot; the bytes after them stay. -/
def copy (slot : GTANativeSlot) (value : GTANativeValue) : GTANativeSlot :=
  Vector.ofFn fun index => value.bytes.getD index slot[index]

/-- `Push`, and whether there was a slot left. -/
def push (frame : GTANativeCallFrame) (value : GTANativeValue) : Bool × GTANativeCallFrame :=
  if free : frame.context.argumentCount.toNat < maxArguments then
    let slot := frame.arguments[frame.context.argumentCount.toNat]
    (true, { frame with
      arguments := frame.arguments.set frame.context.argumentCount.toNat (copy slot value)
      context := { frame.context with argumentCount := frame.context.argumentCount + 1 } })
  else (false, frame)

/-- `Return`, for a type of the given size. -/
def returned (frame : GTANativeCallFrame) (size : Nat) : List UInt8 :=
  (frame.returns.get ⟨0, by decide⟩).toList.take size

def floatBytes (bits : UInt32) : List UInt8 := littleEndianBytes 4 bits.toNat

/-- Assign x, y and z of a script vector, which are eight bytes apart. -/
def assign (memory : Memory) (target : Address) (source : GTANativeVector3) : Memory :=
  ((memory.write target (floatBytes source.x)).write (target + 8) (floatBytes source.y)).write
    (target + 16) (floatBytes source.z)

/-- The loop of `FixVectors` over the first references. -/
def assignReferences (context : GTANativeCallContext) (count : Nat) (memory : Memory) : Memory :=
  (List.range count).foldl (fun memory index =>
    let target := context.vectorReferenceTargets.toList.getD index 0
    if target = 0 then memory
    else assign memory target (context.vectorReferenceSources.toList.getD index {})) memory

def fixVectors (frame : GTANativeCallFrame) (memory : Memory) : GTANativeCallFrame × Memory :=
  let count := if frame.context.vectorReferenceCount < 0 then 0 else frame.context.vectorReferenceCount
  let count := if count > 4 then 4 else count
  ({ frame with context := { frame.context with vectorReferenceCount := 0 } },
    assignReferences frame.context count.toInt.toNat memory)

/-! ## Packing -/

def holding (arguments : List GTANativeValue) : GTANativeCallFrame where
  context := { argumentCount := UInt32.ofNat arguments.length }
  arguments := Vector.ofFn fun index => (arguments[index.val]?).elim zeroSlot (copy zeroSlot)

theorem toList_copy_zeroSlot (value : GTANativeValue) :
    (copy zeroSlot value).toList = value.bytes ++ List.replicate (8 - value.bytes.length) 0 := by
  have fits := value.fits
  apply List.ext_getElem
  · simp
    omega
  · intro index inside _
    simp only [copy, zeroSlot, Vector.getElem_toList, Vector.getElem_ofFn, Vector.getElem_replicate,
      Fin.getElem_fin, List.getElem_append, List.getElem_replicate]
    split
    next covered => exact List.getD_eq_getElem _ _ covered
    next beyond => exact List.getD_eq_default _ _ (Nat.le_of_not_lt beyond)

theorem holding_nil : holding [] = {} := by
  have unused : (holding []).arguments = Vector.replicate maxArguments zeroSlot := by
    ext index inside
    simp [holding]
  exact congrArg (fun slots => ({ arguments := slots } : GTANativeCallFrame)) unused

theorem argumentCount_holding {arguments : List GTANativeValue} (few : arguments.length ≤ maxArguments) :
    (holding arguments).context.argumentCount.toNat = arguments.length := by
  have small : arguments.length < 2 ^ 32 := Nat.lt_of_le_of_lt few (by decide)
  exact UInt32.toNat_ofNat_of_lt' small

theorem push_holding {arguments : List GTANativeValue} (few : arguments.length ≤ maxArguments)
    (value : GTANativeValue) :
    push (holding arguments) value =
      if arguments.length < maxArguments then (true, holding (arguments ++ [value]))
      else (false, holding arguments) := by
  have count := argumentCount_holding few
  unfold push
  simp only [count]
  split
  next free =>
    have slots : (holding arguments).arguments.set arguments.length
        (copy ((holding arguments).arguments[arguments.length]) value) =
          (holding (arguments ++ [value])).arguments := by
      ext index inside
      by_cases last : arguments.length = index
      · subst last
        simp [holding]
      · have elsewhere : (arguments ++ [value])[index]? = arguments[index]? := by
          rcases Nat.lt_or_gt_of_ne last with above | below
          · rw [List.getElem?_eq_none (by simp; omega), List.getElem?_eq_none (by omega)]
          · rw [List.getElem?_append_left below]
        simp [holding, last, elsewhere]
    have counted : (holding arguments).context.argumentCount + 1 =
        (holding (arguments ++ [value])).context.argumentCount := by
      simp [holding, UInt32.ofNat_add]
    rw [slots, counted]
    rfl
  next => rfl

theorem returned_eq (frame : GTANativeCallFrame) (size : Nat) :
    frame.returned size = (frame.returns.toList.getD 0 zeroSlot).toList.take size := by
  have filled : 0 < frame.returns.toList.length := by
    rw [Vector.length_toList]
    decide
  rw [returned, List.getD_eq_getElem _ _ filled]
  rfl

/-! ## Vector references -/

/-- The byte of an assigned vector at an offset from its target, if it covers it. -/
def vectorByte (source : GTANativeVector3) (offset : Address) : Option UInt8 :=
  (littleEndianBytes 4 source.z.toNat)[(offset - 16).toNat]?.or
    ((littleEndianBytes 4 source.y.toNat)[(offset - 8).toNat]?.or
      (littleEndianBytes 4 source.x.toNat)[offset.toNat]?)

/-- The references that are assigned, with a count that may be any number. -/
def activeReferences (context : GTANativeCallContext) : List Nat :=
  (List.range (min (max context.vectorReferenceCount.toInt 0) maxVectorReferences).toNat).filter
    fun index => context.vectorReferenceTargets.toList.getD index 0 ≠ 0

def referenceByte (context : GTANativeCallContext) (address : Address) (index : Nat) : Option UInt8 :=
  vectorByte (context.vectorReferenceSources.toList.getD index {})
    (address - context.vectorReferenceTargets.toList.getD index 0)

theorem assign_eq (memory : Memory) (target address : Address) (source : GTANativeVector3) :
    assign memory target source address = (vectorByte source (address - target)).getD (memory address) := by
  have offset (distance : Address) : address - (target + distance) = address - target - distance := by
    grind
  simp only [assign, floatBytes, Memory.write, vectorByte, offset, List.getD_eq_getElem?_getD]
  cases (littleEndianBytes 4 source.z.toNat)[(address - target - 16).toNat]? with
  | some byte => rfl
  | none =>
    cases (littleEndianBytes 4 source.y.toNat)[(address - target - 8).toNat]? with
    | some byte => rfl
    | none => rfl

theorem clamped_count (count : Int32) :
    (let clamped := if count < 0 then 0 else count
     (if clamped > 4 then 4 else clamped).toInt.toNat) =
      (min (max count.toInt 0) maxVectorReferences).toNat := by
  have zero : (0 : Int32).toInt = 0 := rfl
  have four : (4 : Int32).toInt = 4 := rfl
  simp only [maxVectorReferences, Int32.lt_iff_toInt_lt, GT.gt]
  by_cases negative : count.toInt < 0
  · simp only [zero, four, negative, if_true, Int.reduceLT, if_false]
    omega
  · by_cases large : 4 < count.toInt
    · simp only [zero, four, negative, large, if_true, if_false]
      omega
    · simp only [zero, four, negative, large, if_false]
      omega

/-- Write x, y and z of the source of a reference at its target and eight and
sixteen bytes behind it. -/
def writeReference (context : GTANativeCallContext) (memory : Memory) (index : Nat) : Memory :=
  let target := context.vectorReferenceTargets.toList.getD index 0
  let source := context.vectorReferenceSources.toList.getD index {}
  ((memory.write target (littleEndianBytes 4 source.x.toNat)).write (target + 8)
    (littleEndianBytes 4 source.y.toNat)).write (target + 16) (littleEndianBytes 4 source.z.toNat)

theorem fixVectors_writes (frame : GTANativeCallFrame) (memory : Memory) :
    (frame.fixVectors memory).2 =
      run (writeReference frame.context) memory (activeReferences frame.context) := by
  have count := clamped_count frame.context.vectorReferenceCount
  simp only [fixVectors] at count ⊢
  rw [count, activeReferences, run, List.foldl_filter, assignReferences]
  congr 1
  funext memory index
  by_cases null : frame.context.vectorReferenceTargets.toList.getD index 0 = 0
  · simp only [null, if_true, ne_eq, not_true_eq_false, decide_false, Bool.false_eq_true, if_false]
  · simp only [null, if_false, ne_eq, not_false_eq_true, decide_true, if_true]
    rfl

theorem writeReference_byte (context : GTANativeCallContext) (memory : Memory) (index : Nat)
    (address : Address) :
    writeReference context memory index address =
      (referenceByte context address index).getD (memory address) :=
  assign_eq _ _ _ _

/-- After the fix-up each byte is that of the last active reference that covers
it, or what it was. -/
theorem fixVectors_byte (frame : GTANativeCallFrame) (memory : Memory) (address : Address) :
    (frame.fixVectors memory).2 address =
      ((activeReferences frame.context).reverse.findSome? (referenceByte frame.context address)).getD
        (memory address) := by
  have writes : writeReference frame.context =
      fun memory index address => (referenceByte frame.context address index).getD (memory address) := by
    funext memory index address
    exact writeReference_byte _ _ _ _
  rw [fixVectors_writes, writes]
  exact run_overlay (fun index address => referenceByte frame.context address index) memory _ address

end GTANativeCallFrame

end DevilzDen.Integrations.GTA5Enhanced
