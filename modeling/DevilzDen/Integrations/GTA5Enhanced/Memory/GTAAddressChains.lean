import DevilzDen.Integrations.GTA5Enhanced.Memory.GTATargetUniqueness

/-! Address chains over unbounded integers.

The resolver adds in wrapping words and tests only the sign of a sum. The exact
evaluation keeps every address in the half of the address space that signed
words reach.
-/

set_option autoImplicit false

namespace DevilzDen.Integrations.GTA5Enhanced.GTAAddressResolver

open Backend Foundation

/-- The addresses that are positive as signed words. -/
def UserAddress (value : Int) : Prop := 1 ≤ value ∧ value ≤ 2 ^ 63 - 1

instance (value : Int) : Decidable (UserAddress value) := inferInstanceAs (Decidable (_ ∧ _))

def signExtend32 (field : Nat) : Int := if field < 2 ^ 31 then field else field - 2 ^ 32

/-- The target of a relative operand, with the integers for words. -/
def relativeTarget (host : HostProcess) (pid : UInt32) (address offset : Int) : Option Int :=
  let displacementAddress := address + offset
  if UserAddress displacementAddress then
    match ProcessMemoryReader.read host pid (UInt64.ofNat displacementAddress.toNat) 4 with
    | .error _ => none
    | .ok bytes =>
        let resolved := displacementAddress + 4 + signExtend32 (littleEndian bytes)
        if UserAddress resolved then some resolved else none
  else none

/-- A chain with the integers for words. -/
def evaluate (host : HostProcess) (pid : UInt32) : Int → GTAAddressResolveChain → Option Int
  | address, [] => some address
  | address, .add offset :: chain =>
      if UserAddress (address + offset.toInt) then evaluate host pid (address + offset.toInt) chain else none
  | address, .ripRelative32 offset :: chain =>
      (relativeTarget host pid address offset.toInt).bind fun resolved => evaluate host pid resolved chain

section Words

theorem bmod_le_zero_iff {value : Int} (lower : -2 ^ 63 ≤ value) (upper : value < 2 ^ 64) :
    value.bmod (2 ^ 64) ≤ 0 ↔ ¬UserAddress value := by
  rw [Int.bmod_def, UserAddress]
  split <;> omega

theorem bmod_eq_of_user {value : Int} (user : UserAddress value) : value.bmod (2 ^ 64) = value := by
  obtain ⟨lower, upper⟩ := user
  apply Int.bmod_eq_of_le <;> omega

theorem toInt_toInt64 {address : Address} {value : Int} (same : address.toNat = value) (user : UserAddress value) :
    address.toInt64.toInt = value := by
  rw [UserAddress] at user
  rw [toInt_toInt64_eq, if_pos (by omega), same]

theorem toNat_toUInt64 {word : Int64} {value : Int} (wrapped : word.toInt = value.bmod (2 ^ 64))
    (user : UserAddress value) : word.toUInt64.toNat = value := by
  rw [bmod_eq_of_user user] at wrapped
  have bits := toInt_eq word
  have below := word.toUInt64.toNat_lt
  rw [UserAddress] at user
  split at bits <;> omega

theorem le_zero_iff {word : Int64} {value : Int} (wrapped : word.toInt = value.bmod (2 ^ 64))
    (lower : -2 ^ 63 ≤ value) (upper : value < 2 ^ 64) : word ≤ 0 ↔ ¬UserAddress value := by
  rw [Int64.le_iff_toInt_le, wrapped, ← bmod_le_zero_iff lower upper]
  rfl

theorem toInt_displacement {field : Nat} (small : field < 2 ^ 32) :
    (UInt32.ofNat field).toInt32.toInt64.toInt = signExtend32 field := by
  rw [Int32.toInt_toInt64]
  have bits : (UInt32.ofNat field).toInt32.toInt = if 2 * (UInt32.ofNat field).toNat < 2 ^ 32
      then ((UInt32.ofNat field).toNat : Int) else (UInt32.ofNat field).toNat - (2 ^ 32 : Nat) :=
    BitVec.toInt_eq_toNat_cond _
  rw [bits, UInt32.toNat_ofNat_of_lt' small, signExtend32]
  split <;> split <;> omega

end Words

section Steps

variable {host : HostProcess} {pid : UInt32} {address : Address} {value : Int}

theorem add_wrapped (same : address.toNat = value) (user : UserAddress value) (offset : Int64) :
    (address.toInt64 + offset).toInt = (value + offset.toInt).bmod (2 ^ 64) ∧
      -2 ^ 63 ≤ value + offset.toInt ∧ value + offset.toInt < 2 ^ 64 := by
  have lower := offset.le_toInt
  have upper := offset.toInt_lt
  rw [Int64.toInt_add, toInt_toInt64 same user]
  rw [UserAddress] at user
  exact ⟨rfl, by omega, by omega⟩

/-- The three terms of a relative operand wrap as their exact sum. -/
theorem rip_wrapped {word : Int64} {bytes : List UInt8} (wrapped : word.toInt = value.bmod (2 ^ 64))
    (user : UserAddress value) (four : bytes.length = 4) :
    let displacement : Int32 := (UInt32.ofNat (littleEndian bytes)).toInt32
    let exact := value + 4 + signExtend32 (littleEndian bytes)
    (word + 4 + displacement.toInt64).toInt = exact.bmod (2 ^ 64) ∧ -2 ^ 63 ≤ exact ∧ exact < 2 ^ 64 := by
  intro displacement exact
  have small : littleEndian bytes < 2 ^ 32 := by
    have bound := littleEndian_lt bytes
    rw [four] at bound
    exact bound
  have width : -2 ^ 31 ≤ signExtend32 (littleEndian bytes) ∧ signExtend32 (littleEndian bytes) < 2 ^ 31 := by
    rw [signExtend32]
    split <;> omega
  have size : (4 : Int64).toInt = 4 := rfl
  rw [Int64.toInt_add, Int64.toInt_add, Int.bmod_add_bmod, toInt_displacement small, wrapped, size,
    bmod_eq_of_user user]
  rw [UserAddress] at user
  exact ⟨rfl, by omega, by omega⟩

theorem toUInt64_eq {word : Int64} (wrapped : word.toInt = value.bmod (2 ^ 64)) (user : UserAddress value) :
    word.toUInt64 = UInt64.ofNat value.toNat := by
  have exact := toNat_toUInt64 wrapped user
  rw [← exact, Int.toNat_natCast, UInt64.ofNat_toNat]

theorem resolveRipRelative32_eq (same : address.toNat = value) (user : UserAddress value) (offset : Int64) :
    (resolveRipRelative32 host pid address offset).toOption =
      (relativeTarget host pid value offset.toInt).map fun resolved => UInt64.ofNat resolved.toNat := by
  obtain ⟨wrapped, lower, upper⟩ := add_wrapped same user offset
  unfold resolveRipRelative32 relativeTarget
  dsimp only
  by_cases displaced : UserAddress (value + offset.toInt)
  · have positive := (le_zero_iff wrapped lower upper).not_left.mpr displaced
    rw [if_neg positive, if_pos displaced, toUInt64_eq wrapped displaced]
    cases read : ProcessMemoryReader.read host pid (UInt64.ofNat (value + offset.toInt).toNat) 4 with
    | error error => rfl
    | ok bytes =>
      obtain ⟨ended, below, above⟩ := rip_wrapped wrapped displaced (ProcessMemoryReader.length_of_read read)
      dsimp only
      by_cases resolved : UserAddress (value + offset.toInt + 4 + signExtend32 (littleEndian bytes))
      · have last := (le_zero_iff ended below above).not_left.mpr resolved
        rw [if_neg last, if_pos resolved, toUInt64_eq ended resolved]
        rfl
      · rw [if_pos ((le_zero_iff ended below above).mpr resolved), if_neg resolved]
        rfl
  · rw [if_pos ((le_zero_iff wrapped lower upper).mpr displaced), if_neg displaced]
    rfl

theorem user_of_relativeTarget {offset resolved : Int} (found : relativeTarget host pid value offset = some resolved) :
    UserAddress resolved := by
  unfold relativeTarget at found
  dsimp only at found
  split at found
  · split at found
    · cases found
    · split at found
      next user =>
        cases found
        exact user
      next => cases found
  · cases found

theorem toNat_ofNat_toNat (user : UserAddress value) : ((UInt64.ofNat value.toNat).toNat : Int) = value := by
  rw [UserAddress] at user
  have small : value.toNat < 2 ^ 64 := by omega
  rw [UInt64.toNat_ofNat_of_lt' small, Int.toNat_of_nonneg (by omega)]

theorem resolveChain_eq (same : address.toNat = value) (user : UserAddress value) (chain : GTAAddressResolveChain) :
    (resolveChain host pid address chain).toOption =
      (evaluate host pid value chain).map fun result => UInt64.ofNat result.toNat := by
  induction chain generalizing address value with
  | nil =>
    have word : UInt64.ofNat value.toNat = address := by
      rw [← same, Int.toNat_natCast, UInt64.ofNat_toNat]
    rw [resolveChain, evaluate, Option.map_some, word]
    rfl
  | cons op chain ih =>
    cases op with
    | add offset =>
      obtain ⟨wrapped, lower, upper⟩ := add_wrapped same user offset
      rw [resolveChain, evaluate]
      by_cases sum : UserAddress (value + offset.toInt)
      · have positive := (le_zero_iff wrapped lower upper).not_left.mpr sum
        rw [if_neg positive, if_pos sum]
        exact ih (toNat_toUInt64 wrapped sum) sum
      · rw [if_pos ((le_zero_iff wrapped lower upper).mpr sum), if_neg sum]
        rfl
    | ripRelative32 offset =>
      have step : (resolveRipRelative32 host pid address offset).toOption = _ :=
        resolveRipRelative32_eq same user offset
      rw [resolveChain, evaluate]
      cases target : relativeTarget host pid value offset.toInt with
      | none =>
        rw [target] at step
        cases failed : resolveRipRelative32 host pid address offset with
        | error error => rfl
        | ok resolved =>
          rw [failed] at step
          cases step
      | some exact =>
        rw [target] at step
        have inside := user_of_relativeTarget target
        cases found : resolveRipRelative32 host pid address offset with
        | error error =>
          rw [found] at step
          cases step
        | ok resolved =>
          rw [found] at step
          cases step
          exact ih (toNat_ofNat_toNat inside) inside

theorem user_of_evaluate {chain : GTAAddressResolveChain} {result : Int} (user : UserAddress value)
    (evaluated : evaluate host pid value chain = some result) : UserAddress result := by
  induction chain generalizing value with
  | nil =>
    cases evaluated
    exact user
  | cons op chain ih =>
    cases op with
    | add offset =>
      rw [evaluate] at evaluated
      split at evaluated
      next sum => exact ih sum evaluated
      next => cases evaluated
    | ripRelative32 offset =>
      rw [evaluate, Option.bind_eq_some_iff] at evaluated
      obtain ⟨resolved, target, later⟩ := evaluated
      exact ih (user_of_relativeTarget target) later

end Steps

/-- A chain resolves exactly when every sum of it, in unbounded integers, is a user address
and every read succeeds. Its address is then the exact one. -/
theorem resolve_exact (host : HostProcess) (pid : UInt32) (matchAddress : Address) (chain : GTAAddressResolveChain)
    (user : UserAddress matchAddress.toNat) :
    ((∃ resolved, resolve host pid matchAddress chain = .ok resolved) ↔
      (evaluate host pid matchAddress.toNat chain).isSome = true) ∧
    ∀ resolved, resolve host pid matchAddress chain = .ok resolved →
      evaluate host pid matchAddress.toNat chain = some (resolved.toNat : Int) := by
  have present : matchAddress ≠ 0 := by
    intro null
    rw [null, UserAddress] at user
    exact absurd user.1 (by decide)
  have words : (resolveChain host pid matchAddress chain).toOption = _ := resolveChain_eq rfl user chain
  rw [resolve, if_neg present]
  cases evaluated : evaluate host pid matchAddress.toNat chain with
  | none =>
    rw [evaluated] at words
    cases failed : resolveChain host pid matchAddress chain with
    | error error => simp
    | ok resolved =>
      rw [failed] at words
      cases words
  | some result =>
    rw [evaluated] at words
    have exact := toNat_ofNat_toNat (user_of_evaluate user evaluated)
    cases found : resolveChain host pid matchAddress chain with
    | error error =>
      rw [found] at words
      cases words
    | ok resolved =>
      rw [found] at words
      cases words
      refine ⟨by simp, fun other same => ?_⟩
      cases same
      rw [exact]

theorem resolve_exact_reference :
    evaluate (GTATargetResolver.gameWith GTATargetResolver.oneReference) 2 0x1000 [.ripRelative32 1] = some 0x2000 :=
  (resolve_exact (GTATargetResolver.gameWith GTATargetResolver.oneReference) 2 0x1000 [.ripRelative32 1]
    (by decide)).2 0x2000 (by decide)

end DevilzDen.Integrations.GTA5Enhanced.GTAAddressResolver
