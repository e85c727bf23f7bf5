import Mathlib.Data.List.Infix

/-! Texts split at a separator of several elements, from the left.

A split text is its fields joined with the separator. The fields of a joined
text are the ones that were joined exactly when the separator occurs nowhere
before the place where it was put.
-/

set_option autoImplicit false

namespace Foundation.Splitting

variable {α : Type} [DecidableEq α] (separator : List α)

def cutAt : List α → Option (List α × List α)
  | [] => if separator = [] then some ([], []) else none
  | char :: rest =>
      if separator <+: char :: rest then some ([], (char :: rest).drop separator.length)
      else (cutAt rest).map fun parts => (char :: parts.1, parts.2)

def splitTurns : Nat → List α → List (List α)
  | 0, _ => []
  | turns + 1, text =>
      match cutAt separator text with
      | none => [text]
      | some (field, rest) => field :: splitTurns turns rest

def splitOn (text : List α) : List (List α) := splitTurns separator (text.length + 1) text

omit [DecidableEq α] in
/-- The separator stands behind the field, and at no earlier place. -/
def First (text field rest : List α) : Prop :=
  text = field ++ (separator ++ rest) ∧
    ∀ earlier tail, text = earlier ++ (separator ++ tail) → field.length ≤ earlier.length

theorem cutAt_first {text field rest : List α} (found : cutAt separator text = some (field, rest)) :
    First separator text field rest := by
  induction text generalizing field with
  | nil =>
    rw [cutAt] at found
    split at found
    next empty =>
      cases found
      exact ⟨by rw [empty]; rfl, fun _ _ _ => Nat.zero_le _⟩
    next => cases found
  | cons char later ih =>
    rw [cutAt] at found
    split at found
    next ahead =>
      cases found
      exact ⟨(List.prefix_iff_eq_append.mp ahead).symm, fun _ _ _ => Nat.zero_le _⟩
    next behind =>
      obtain ⟨parts, cut, same⟩ := Option.map_eq_some_iff.mp found
      cases same
      obtain ⟨whole, first⟩ := ih cut
      refine ⟨congrArg (char :: ·) whole, fun earlier tail other => ?_⟩
      cases earlier with
      | nil => exact absurd ⟨tail, other.symm⟩ behind
      | cons head earlier =>
        have shorter := first earlier tail (List.cons.inj other).2
        exact Nat.succ_le_succ shorter

theorem cutAt_eq_none_iff {text : List α} : cutAt separator text = none ↔ ¬separator <:+: text := by
  induction text with
  | nil =>
    rw [cutAt, List.infix_nil]
    split
    next empty => simp [empty]
    next present => simp [present]
  | cons char later ih =>
    rw [cutAt, List.infix_cons_iff, not_or]
    split
    next ahead => simp [ahead]
    next behind => simp [behind, ih]

theorem cutAt_eq_some_iff {text field rest : List α} :
    cutAt separator text = some (field, rest) ↔ First separator text field rest := by
  refine ⟨cutAt_first separator, fun first => ?_⟩
  cases cut : cutAt separator text with
  | none =>
    have occurs : separator <:+: text := ⟨field, rest, by rw [first.1, List.append_assoc]⟩
    exact absurd occurs ((cutAt_eq_none_iff separator).mp cut)
  | some parts =>
    obtain ⟨whole, least⟩ := cutAt_first separator cut
    have lengths : parts.1.length = field.length :=
      Nat.le_antisymm (least _ _ first.1) (first.2 _ _ whole)
    obtain ⟨fields, rests⟩ := List.append_inj (whole.symm.trans first.1) lengths
    rw [← fields, ← List.append_cancel_left rests]

variable {separator} (present : separator ≠ [])

include present

theorem length_rest_lt {text field rest : List α} (found : cutAt separator text = some (field, rest)) :
    rest.length < text.length := by
  have positive := List.length_pos_iff.mpr present
  rw [(cutAt_first separator found).1, List.length_append, List.length_append]
  omega

theorem splitTurns_eq {turns others : Nat} {text : List α} (enough : text.length < turns)
    (enough' : text.length < others) : splitTurns separator turns text = splitTurns separator others text := by
  induction turns generalizing others text with
  | zero => exact absurd enough (Nat.not_lt_zero _)
  | succ turns ih =>
    cases others with
    | zero => exact absurd enough' (Nat.not_lt_zero _)
    | succ others =>
      rw [splitTurns, splitTurns]
      split
      · rfl
      next field rest found =>
        have shorter := length_rest_lt present found
        exact congrArg (field :: ·) (ih (by omega) (by omega))

theorem splitOn_of_cut {text field rest : List α} (found : cutAt separator text = some (field, rest)) :
    splitOn separator text = field :: splitOn separator rest := by
  have shorter := length_rest_lt present found
  rw [splitOn, splitTurns, found]
  exact congrArg (field :: ·) (splitTurns_eq present shorter (Nat.lt_succ_self _))

omit present in
theorem splitOn_of_none {text : List α} (whole : cutAt separator text = none) :
    splitOn separator text = [text] := by
  rw [splitOn, splitTurns, whole]

omit present in
theorem splitOn_ne_nil (text : List α) : splitOn separator text ≠ [] := by
  rw [splitOn, splitTurns]
  split <;> exact List.cons_ne_nil _ _

/-- Splitting loses nothing. -/
theorem intercalate_splitOn (text : List α) : List.intercalate separator (splitOn separator text) = text := by
  induction size : text.length using Nat.strongRecOn generalizing text with
  | ind size ih =>
    cases cut : cutAt separator text with
    | none => rw [splitOn_of_none cut, List.intercalate_singleton]
    | some parts =>
      obtain ⟨field, rest⟩ := parts
      have later := ih _ (size ▸ length_rest_lt present cut) rest rfl
      rw [splitOn_of_cut present cut]
      cases split : splitOn separator rest with
      | nil => exact absurd split (splitOn_ne_nil rest)
      | cons next others =>
        rw [split] at later
        rw [List.intercalate_cons_cons, later, (cutAt_first separator cut).1, List.append_assoc]

omit present

/-- A separator behind the field is the first one. -/
def Clear (separator field : List α) : Prop :=
  ∀ earlier tail, field ++ separator = earlier ++ (separator ++ tail) → tail = []

omit [DecidableEq α] in
theorem clear_iff_first {field : List α} (rest : List α) :
    Clear separator field ↔ First separator (field ++ (separator ++ rest)) field rest := by
  constructor
  · intro clear
    refine ⟨rfl, fun earlier tail same => ?_⟩
    by_contra before
    -- an earlier occurrence ends within the field and its separator
    have inside : earlier ++ separator <+: field ++ separator := by
      apply List.prefix_of_prefix_length_le ⟨tail, _⟩ (List.prefix_append _ rest)
      · simp only [List.length_append]
        omega
      · rw [List.append_assoc, List.append_assoc, ← same]
    obtain ⟨more, split⟩ := inside
    rw [List.append_assoc] at split
    have none := clear earlier more split.symm
    have lengths := congrArg List.length split
    rw [none] at lengths
    simp only [List.length_append, List.length_nil] at lengths
    omega
  · intro first earlier tail same
    have whole : field ++ (separator ++ rest) = earlier ++ (separator ++ (tail ++ rest)) := by
      rw [← List.append_assoc, same, List.append_assoc, List.append_assoc]
    have shorter := first.2 earlier _ whole
    have lengths := congrArg List.length same
    simp only [List.length_append] at lengths
    exact List.eq_nil_of_length_eq_zero (by omega)

/-- Fields between which only the separators that join them are found. -/
def Separable (separator : List α) : List (List α) → Prop
  | [] => False
  | [last] => ¬separator <:+: last
  | field :: next :: others => Clear separator field ∧ Separable separator (next :: others)

include present

/-- Joined fields are split into themselves exactly when they can be told apart. -/
theorem splitOn_intercalate_iff (fields : List (List α)) :
    splitOn separator (List.intercalate separator fields) = fields ↔ Separable separator fields := by
  induction fields with
  | nil => exact ⟨fun split => splitOn_ne_nil _ split, False.elim⟩
  | cons field later ih =>
    cases later with
    | nil =>
      rw [List.intercalate_singleton, Separable, ← cutAt_eq_none_iff]
      refine ⟨fun split => ?_, splitOn_of_none⟩
      cases cut : cutAt separator field with
      | none => rfl
      | some parts =>
        rw [splitOn_of_cut present cut] at split
        exact absurd (List.cons.inj split).2 (splitOn_ne_nil _)
    | cons next others =>
      rw [List.intercalate_cons_cons, List.append_assoc, Separable, ← ih,
        clear_iff_first (List.intercalate separator (next :: others)), ← cutAt_eq_some_iff]
      constructor
      · intro split
        cases cut : cutAt separator (field ++ (separator ++ List.intercalate separator (next :: others))) with
        | none =>
          have occurs : separator <:+: field ++ (separator ++ List.intercalate separator (next :: others)) :=
            ⟨field, _, List.append_assoc _ _ _⟩
          exact absurd occurs ((cutAt_eq_none_iff separator).mp cut)
        | some parts =>
          obtain ⟨front, rest⟩ := parts
          rw [splitOn_of_cut present cut] at split
          obtain ⟨rfl, rests⟩ := List.cons.inj split
          have same := List.append_cancel_left (List.append_cancel_left (cutAt_first separator cut).1)
          rw [same]
          exact ⟨rfl, rests⟩
      · intro parts
        rw [splitOn_of_cut present parts.1, parts.2]

end Foundation.Splitting
