import DevilzDen.Foundation.Table

/-! Two tables over the same values, each keyed by its own part of the value.

`TwoWay` says that the tables are inverse indexes of one set of values: each
value is found under either of its keys. Insertion keeps it when neither key
leads to a value with another counterpart, and erasure when both tables drop
the same values.
-/

set_option autoImplicit false

namespace Foundation

variable {κ κ' ν : Type} [DecidableEq κ] [DecidableEq κ']

structure TwoWay (leftKey : ν → κ) (rightKey : ν → κ') (left : Table κ ν) (right : Table κ' ν) :
    Prop where
  leftKeyed : ∀ key value, left.lookup key = some value → key = leftKey value
  rightKeyed : ∀ key value, right.lookup key = some value → key = rightKey value
  same : ∀ value, left.lookup (leftKey value) = some value ↔ right.lookup (rightKey value) = some value

namespace TwoWay

variable {leftKey : ν → κ} {rightKey : ν → κ'} {left : Table κ ν} {right : Table κ' ν}

theorem symm (inverse : TwoWay leftKey rightKey left right) : TwoWay rightKey leftKey right left :=
  ⟨inverse.rightKeyed, inverse.leftKeyed, fun value => (inverse.same value).symm⟩

theorem empty : TwoWay leftKey rightKey ∅ ∅ where
  leftKeyed := nofun
  rightKeyed := nofun
  same _ := ⟨nofun, nofun⟩

/-- Where the value's keys are free or already paired, inserting it under both keeps the tables inverse. -/
theorem insert (inverse : TwoWay leftKey rightKey left right) {value : ν}
    (leftFree : ∀ old, left.lookup (leftKey value) = some old → rightKey old = rightKey value)
    (rightFree : ∀ old, right.lookup (rightKey value) = some old → leftKey old = leftKey value) :
    TwoWay leftKey rightKey (left.insert (leftKey value) value) (right.insert (rightKey value) value) where
  leftKeyed key other found := by
    rw [Table.lookup_insert_eq] at found
    split at found
    · next atKey => rw [← Option.some.inj found, atKey]
    · exact inverse.leftKeyed key other found
  rightKeyed key other found := by
    rw [Table.lookup_insert_eq] at found
    split at found
    · next atKey => rw [← Option.some.inj found, atKey]
    · exact inverse.rightKeyed key other found
  same other := by
    rw [Table.lookup_insert_eq, Table.lookup_insert_eq]
    by_cases atLeft : leftKey other = leftKey value <;> by_cases atRight : rightKey other = rightKey value
    · rw [if_pos atLeft, if_pos atRight]
    · rw [if_pos atLeft, if_neg atRight]
      -- the right table cannot hold the other value: the left one would map this key elsewhere
      refine ⟨fun found => ?_, fun found => ?_⟩
      · exact absurd (congrArg rightKey (Option.some.inj found)).symm atRight
      · have before := (inverse.same other).mpr found
        exact absurd (leftFree other (atLeft ▸ before)) atRight
    · rw [if_neg atLeft, if_pos atRight]
      refine ⟨fun found => ?_, fun found => ?_⟩
      · have before := (inverse.same other).mp found
        exact absurd (rightFree other (atRight ▸ before)) atLeft
      · exact absurd (congrArg leftKey (Option.some.inj found)).symm atLeft
    · rw [if_neg atLeft, if_neg atRight]
      exact inverse.same other

theorem eraseIf (inverse : TwoWay leftKey rightKey left right) (leftSelected : κ → Bool)
    (rightSelected : κ' → Bool)
    (agree : ∀ value, leftSelected (leftKey value) = rightSelected (rightKey value)) :
    TwoWay leftKey rightKey (left.eraseIf fun key _ => leftSelected key)
      (right.eraseIf fun key _ => rightSelected key) where
  leftKeyed key value found := by
    rw [Table.lookup_eraseIf, Option.filter_eq_some_iff] at found
    exact inverse.leftKeyed key value found.1
  rightKeyed key value found := by
    rw [Table.lookup_eraseIf, Option.filter_eq_some_iff] at found
    exact inverse.rightKeyed key value found.1
  same value := by
    rw [Table.lookup_eraseIf, Table.lookup_eraseIf, Option.filter_eq_some_iff,
      Option.filter_eq_some_iff, inverse.same, agree]

theorem values_perm (inverse : TwoWay leftKey rightKey left right) : left.values.Perm right.values :=
  left.values_perm right leftKey rightKey inverse.leftKeyed inverse.rightKeyed inverse.same

theorem leftKeys_nodup (inverse : TwoWay leftKey rightKey left right) {order : List ν}
    (shown : left.Enumerates order) : (order.map leftKey).Nodup :=
  shown.keys_nodup leftKey inverse.leftKeyed

theorem rightKeys_nodup (inverse : TwoWay leftKey rightKey left right) {order : List ν}
    (shown : left.Enumerates order) : (order.map rightKey).Nodup :=
  inverse.symm.leftKeys_nodup (shown.trans inverse.values_perm)

end TwoWay

end Foundation
