import DevilzDen.Integrations.GTA5Enhanced.Natives.GTANativeCallContext
import DevilzDen.Integrations.GTA5Enhanced.Natives.GTANativeManager

/-! Calls of the natives that the manager has cached.

A handler is foreign code: it may leave anything in the frame and in memory. The
frame is not part of that memory: the vectors that a handler refers to lie elsewhere.
-/

set_option autoImplicit false

namespace DevilzDen.Integrations.GTA5Enhanced

open Backend Foundation

/-- What a handler makes of the frame it is handed and of the memory. -/
abbrev GTANativeHandler := GTANativeCallFrame → Memory → GTANativeCallFrame × Memory

structure GTANativeInvocation where
  called : List (Address × GTANativeCallFrame) := []
  result : Option (List UInt8) := none
  memory : Memory

namespace GTANativeManager

open GTANativeCallFrame

def pack (frame : GTANativeCallFrame) : List GTANativeValue → Bool × GTANativeCallFrame
  | [] => (true, frame)
  | value :: later =>
      match frame.push value with
      | (false, full) => (false, full)
      | (true, pushed) => pack pushed later

/-- `Invoke`, for a result of the given size. A void native has none of its
bytes, and succeeds where there is a result. -/
def invoke (manager : GTANativeManager) (code : Address → GTANativeHandler) (memory : Memory)
    (id : GTANativeId) (size : Nat) (arguments : List GTANativeValue) : GTANativeInvocation :=
  let handler := manager.findNamed id
  if !manager.ready ∨ handler = 0 then { memory }
  else
    let packed := pack ({} : GTANativeCallFrame).reset arguments
    if !packed.1 then { memory }
    else
      let left := code handler packed.2 memory
      let fixed := left.1.fixVectors left.2
      { called := [(handler, packed.2)]
        result := some (fixed.1.returned size)
        memory := fixed.2 }

theorem pack_holding {done : List GTANativeValue} (few : done.length ≤ maxArguments)
    (later : List GTANativeValue) :
    (pack (holding done) later).1 = decide (done.length + later.length ≤ maxArguments) ∧
      (done.length + later.length ≤ maxArguments →
        (pack (holding done) later).2 = holding (done ++ later)) := by
  induction later generalizing done with
  | nil => simp [pack, few]
  | cons value later ih =>
    rw [pack, push_holding few]
    by_cases free : done.length < maxArguments
    · have pushed : (done ++ [value]).length ≤ maxArguments := by
        rw [List.length_append]
        exact free
      obtain ⟨fits, packed⟩ := ih pushed
      rw [if_pos free]
      simp only [List.length_append, List.length_cons, List.length_nil, List.append_assoc,
        List.cons_append, List.nil_append] at fits packed ⊢
      rw [Nat.add_right_comm, Nat.add_assoc, Nat.zero_add] at fits packed
      exact ⟨fits, packed⟩
    · have full : ¬done.length + (later.length + 1) ≤ maxArguments := by omega
      rw [if_neg free]
      simp [full]

structure Callable (manager : GTANativeManager) (id : GTANativeId) (arguments : List GTANativeValue) :
    Prop where
  ready : manager.ready = true
  cached : ∃ definition handler, GTANativeRegistry.find manager.fingerprint id = some definition ∧
    manager.handlers.lookup definition.enhancedHash = some handler ∧ handler ≠ 0
  few : arguments.length ≤ maxArguments

theorem findNamed_ne_zero {manager : GTANativeManager} {id : GTANativeId} :
    manager.findNamed id ≠ 0 ↔
      ∃ definition handler, GTANativeRegistry.find manager.fingerprint id = some definition ∧
        manager.handlers.lookup definition.enhancedHash = some handler ∧ handler ≠ 0 := by
  unfold findNamed
  cases GTANativeRegistry.find manager.fingerprint id with
  | none => simp
  | some definition =>
    simp only [find, Option.some.injEq]
    cases found : manager.handlers.lookup definition.enhancedHash with
    | none => simp [found]
    | some handler => simp [found]

structure Prepared (arguments : List GTANativeValue) (frame : GTANativeCallFrame) : Prop where
  count : frame.context.argumentCount.toNat = arguments.length
  slots : ∀ index value, arguments[index]? = some value →
    (frame.arguments.toList.getD index zeroSlot).toList =
      value.bytes ++ List.replicate (8 - value.bytes.length) 0
  returns : ∀ slot ∈ frame.returns.toList, slot = zeroSlot
  references : frame.context.vectorReferenceCount = 0

theorem prepared_holding {arguments : List GTANativeValue} (few : arguments.length ≤ maxArguments) :
    Prepared arguments (holding arguments) where
  count := argumentCount_holding few
  slots index value found := by
    have inside : index < maxArguments :=
      Nat.lt_of_lt_of_le (List.getElem?_eq_some_iff.mp found).1 few
    simp [holding, inside, found, toList_copy_zeroSlot]
  returns slot member := by
    simp only [holding, Vector.toList_replicate] at member
    exact List.eq_of_mem_replicate member
  references := rfl

theorem pack_reset (arguments : List GTANativeValue) :
    (pack ({} : GTANativeCallFrame).reset arguments).1 = decide (arguments.length ≤ maxArguments) ∧
      (arguments.length ≤ maxArguments →
        (pack ({} : GTANativeCallFrame).reset arguments).2 = holding arguments) := by
  have packed := pack_holding (List.length_nil.trans_le (Nat.zero_le maxArguments)) arguments
  rw [holding_nil, List.length_nil, Nat.zero_add] at packed
  exact packed

/-- The contract of a native call, for any manager, arguments and handler. -/
theorem invoke_contract (manager : GTANativeManager) (code : Address → GTANativeHandler) (memory : Memory)
    (id : GTANativeId) (size : Nat) (arguments : List GTANativeValue) :
    let invocation := manager.invoke code memory id size arguments
    (manager.Callable id arguments → ∃ frame, Prepared arguments frame ∧
      invocation.called = [(manager.findNamed id, frame)] ∧
      let left := code (manager.findNamed id) frame memory
      invocation.memory = run (writeReference left.1.context) left.2 (activeReferences left.1.context) ∧
      (∀ address, invocation.memory address =
        ((activeReferences left.1.context).reverse.findSome? (referenceByte left.1.context address)).getD
          (left.2 address)) ∧
      invocation.result = some ((left.1.returns.toList.getD 0 zeroSlot).toList.take size)) ∧
    (¬manager.Callable id arguments →
      invocation.called = [] ∧ invocation.result = none ∧ invocation.memory = memory) := by
  intro invocation
  obtain ⟨packs, packed⟩ := pack_reset arguments
  constructor
  · intro callable
    have serves : ¬(!manager.ready ∨ manager.findNamed id = 0) := by
      simp [callable.ready, findNamed_ne_zero.mpr callable.cached]
    have made : invocation =
        let left := code (manager.findNamed id) (holding arguments) memory
        { called := [(manager.findNamed id, holding arguments)]
          result := some ((left.1.fixVectors left.2).1.returned size)
          memory := (left.1.fixVectors left.2).2 } := by
      simp only [invocation, invoke, if_neg serves, packs, packed callable.few, callable.few, decide_true,
        Bool.not_true, Bool.false_eq_true, if_false]
    refine ⟨holding arguments, prepared_holding callable.few, ?_⟩
    rw [made]
    exact ⟨rfl, fixVectors_writes _ _, fun address => fixVectors_byte _ _ address,
      congrArg some (returned_eq _ size)⟩
  · intro uncallable
    have unmade : invocation = { memory } := by
      simp only [invocation, invoke]
      split
      · rfl
      next serves =>
        rw [if_pos]
        -- the manager serves the id, so it is the arguments that are too many
        rw [packs, Bool.not_eq_true', decide_eq_false_iff_not]
        intro few
        simp only [Bool.not_eq_true', not_or, Bool.not_eq_false] at serves
        exact uncallable ⟨serves.1, findNamed_ne_zero.mp serves.2, few⟩
    rw [unmade]
    exact ⟨rfl, rfl, rfl⟩

end GTANativeManager

end DevilzDen.Integrations.GTA5Enhanced
