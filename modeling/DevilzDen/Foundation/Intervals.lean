import Mathlib.Data.List.Sort
import Mathlib.Order.CompletePartialOrder
import Mathlib.Order.Interval.Set.Disjoint

/-! Lists of non-empty half-open intervals of a linear order.

Once the intervals are sorted by their lower ends, each one needs to be
compared with its successor only. Such an order is the only one of its list.
-/

set_option autoImplicit false

namespace Foundation.Intervals

variable {ι α : Type} [LinearOrder α] (lower upper : ι → α)

def Before (first second : ι) : Prop := upper first ≤ lower second ∧ lower second < upper second

variable {lower upper}

theorem Before.trans {first second third : ι} (one : Before lower upper first second)
    (two : Before lower upper second third) : Before lower upper first third :=
  ⟨one.1.trans (one.2.le.trans two.1), two.2⟩

theorem Before.disjoint {first second : ι} (before : Before lower upper first second) :
    Disjoint (Set.Ico (lower first) (upper first)) (Set.Ico (lower second) (upper second)) :=
  Set.disjoint_left.mpr fun _ inFirst inSecond => absurd (before.1.trans inSecond.1) inFirst.2.not_ge

theorem before_of_disjoint {first second : ι} (secondNonempty : lower second < upper second)
    (order : lower first ≤ lower second)
    (apart : Disjoint (Set.Ico (lower first) (upper first)) (Set.Ico (lower second) (upper second))) :
    Before lower upper first second := by
  refine ⟨not_lt.mp fun reaches => ?_, secondNonempty⟩
  exact Set.disjoint_left.mp apart ⟨order, reaches⟩ ⟨le_rfl, secondNonempty⟩

variable {items : List ι}

theorem isChain_iff_pairwise : items.IsChain (Before lower upper) ↔ items.Pairwise (Before lower upper) := by
  have : Trans (Before lower upper) (Before lower upper) (Before lower upper) := ⟨Before.trans⟩
  exact List.isChain_iff_pairwise

theorem pairwise_before_iff (nonempty : ∀ item ∈ items, lower item < upper item)
    (sorted : items.Pairwise fun first second => lower first ≤ lower second) :
    items.Pairwise (Before lower upper) ↔
      items.Pairwise fun first second =>
        Disjoint (Set.Ico (lower first) (upper first)) (Set.Ico (lower second) (upper second)) := by
  constructor
  · exact List.Pairwise.imp Before.disjoint
  · intro apart
    apply (sorted.and apart).imp_of_mem
    intro first second _ member both
    exact before_of_disjoint (nonempty second member) both.1 both.2

/-- A list has one order in which each interval ends before the next. -/
theorem eq_of_perm {other : List ι} (one : items.Pairwise (Before lower upper))
    (two : other.Pairwise (Before lower upper)) (same : items.Perm other) : items = other := by
  refine same.eq_of_pairwise ?_ one two
  intro first second _ _ there back
  have around : lower first < lower first :=
    calc lower first < upper first := back.2
      _ ≤ lower second := there.1
      _ < upper second := there.2
      _ ≤ lower first := back.1
  exact absurd around (lt_irrefl _)

theorem find?_eq_some_iff {point : α} {covers : ι → Bool}
    (decides : ∀ item, covers item = true ↔ point ∈ Set.Ico (lower item) (upper item))
    (apart : items.Pairwise (Before lower upper)) {item : ι} :
    items.find? covers = some item ↔ item ∈ items ∧ point ∈ Set.Ico (lower item) (upper item) := by
  constructor
  · intro found
    exact ⟨List.mem_of_find?_eq_some found, (decides item).mp (List.find?_some found)⟩
  · rintro ⟨member, inside⟩
    induction items with
    | nil => cases member
    | cons first rest ih =>
      obtain ⟨before, others⟩ := List.pairwise_cons.mp apart
      rcases List.mem_cons.mp member with rfl | later
      · exact List.find?_cons_of_pos ((decides item).mpr inside)
      · have outside : ¬covers first = true := fun holds =>
          Set.disjoint_left.mp (before item later).disjoint ((decides first).mp holds) inside
        rw [List.find?_cons_of_neg outside]
        exact ih others later

end Foundation.Intervals
