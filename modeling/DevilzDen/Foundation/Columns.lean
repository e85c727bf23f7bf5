import DevilzDen.Foundation.Numeral
import Mathlib.Data.Nat.Digits.Lemmas

/-! Columns of a fixed width, and a stream that writes fields into them.

A field that is shorter than its column is filled up on the other side; a longer
one is written whole. A stream keeps its side and its filling from one field to
the next, and its width for one field only.
-/

set_option autoImplicit false

namespace Foundation.Columns

/-- The side of its column that a field stands on. -/
inductive Side where
  | left
  | right
  deriving DecidableEq, Repr

section Padding

variable {α : Type}

def pad (side : Side) (width : Nat) (fill : α) (field : List α) : List α :=
  match side with
  | .left => field.rightpad width fill
  | .right => field.leftpad width fill

@[simp] theorem pad_zero (side : Side) (fill : α) (field : List α) : pad side 0 fill field = field := by
  cases side <;> simp [pad, List.leftpad, List.rightpad]

theorem length_pad (side : Side) (width : Nat) (fill : α) (field : List α) :
    (pad side width fill field).length = max width field.length := by
  cases side with
  | left => exact List.length_rightpad
  | right => exact List.length_leftpad

theorem mem_pad {side : Side} {width : Nat} {fill char : α} {field : List α}
    (member : char ∈ pad side width fill field) : char = fill ∨ char ∈ field := by
  cases side with
  | left =>
    rcases List.mem_append.mp member with inside | filled
    · exact Or.inr inside
    · exact Or.inl (List.eq_of_mem_replicate filled)
  | right =>
    rcases List.mem_append.mp member with filled | inside
    · exact Or.inl (List.eq_of_mem_replicate filled)
    · exact Or.inr inside

theorem notMem_pad {side : Side} {width : Nat} {fill char : α} {field : List α} (other : char ≠ fill)
    (whole : char ∉ field) : char ∉ pad side width fill field := fun member =>
  (mem_pad member).elim other whole

theorem pad_left_inj {width : Nat} {fill : α} {field other : List α}
    (ends : ∀ last ∈ field.getLast?, last ≠ fill) (otherEnds : ∀ last ∈ other.getLast?, last ≠ fill) :
    pad .left width fill field = pad .left width fill other ↔ field = other := by
  refine ⟨fun same => ?_, congrArg _⟩
  -- the shorter one would continue with the filling
  have shorter : ∀ {field other : List α}, (∀ last ∈ other.getLast?, last ≠ fill) →
      field.length ≤ other.length → pad .left width fill field = pad .left width fill other → field = other := by
    intro field other ends short same
    have ahead : field <+: pad .left width fill other := by
      rw [← same]
      exact List.prefix_append field _
    obtain ⟨more, rfl⟩ := List.prefix_of_prefix_length_le ahead (List.prefix_append other _) short
    cases more using List.reverseRecOn with
    | nil => exact (List.append_nil field).symm
    | append_singleton start last =>
      have inside : last ∈ List.replicate (width - field.length) fill := by
        have cut := same
        simp only [pad, List.rightpad, List.append_assoc, List.append_cancel_left_eq] at cut
        rw [cut]
        simp
      refine absurd (List.eq_of_mem_replicate inside) (ends last ?_)
      simp [← List.append_assoc]
  rcases Nat.le_total field.length other.length with short | short
  · exact shorter otherEnds short same
  · exact (shorter ends short same.symm).symm

end Padding

/-! ## Numerals that are filled up with zeros -/

section Numerals

open Numeral

variable {base : Nat}

def column (side : Side) (base width value : Nat) : List UInt8 :=
  pad side width (digitChar 0) (render base value)

theorem isDigit_of_mem_column {side : Side} {width value : Nat} (large : 2 ≤ base) (small : base ≤ 36)
    {char : UInt8} (member : char ∈ column side base width value) : isDigit base char = true := by
  rcases mem_pad member with rfl | inside
  · exact isDigit_digitChar small (by omega)
  · exact isDigit_of_mem_render large small inside

theorem fromDigits_leading_zeros (zeros : Nat) (digits : List UInt8) :
    fromDigits base (List.replicate zeros (digitChar 0) ++ digits) = fromDigits base digits := by
  induction zeros with
  | zero => rfl
  | succ zeros ih =>
    rw [List.replicate_succ, List.cons_append, fromDigits, List.foldl_cons, Nat.zero_mul]
    exact ih

theorem fromDigits_trailing_zeros (digits : List UInt8) (zeros : Nat) :
    fromDigits base (digits ++ List.replicate zeros (digitChar 0)) = fromDigits base digits * base ^ zeros := by
  induction zeros with
  | zero => simp
  | succ zeros ih =>
    have zero : (digitValue (digitChar 0)).getD 0 = 0 := rfl
    rw [fromDigits] at ih
    rw [List.replicate_succ', ← List.append_assoc, fromDigits, List.foldl_append, ih, List.foldl_cons,
      List.foldl_nil, zero, Nat.add_zero, Nat.pow_succ, Nat.mul_assoc]

theorem render_mul_pow (large : 2 ≤ base) {value : Nat} (positive : 0 < value) (zeros : Nat) :
    render base (value * base ^ zeros) = render base value ++ List.replicate zeros (digitChar 0) := by
  have nonzero : value * base ^ zeros ≠ 0 := Nat.ne_of_gt (Nat.mul_pos positive (Nat.pow_pos (by omega)))
  rw [render, if_neg nonzero, render, if_neg (Nat.ne_of_gt positive), Nat.mul_comm,
    Nat.digits_base_pow_mul (by omega) positive]
  simp

theorem length_render_le_iff (large : 2 ≤ base) {value width : Nat} (positive : 0 < value) :
    (render base value).length ≤ width ↔ value < base ^ width := by
  rw [render, if_neg (Nat.ne_of_gt positive), List.length_reverse, List.length_map]
  exact Nat.digits_length_le_iff (by omega) value

/-- Two numbers that look the same in a column. Where the zeros stand behind
them, numbers that fit do so when one is the other times a power of the base. -/
def Alike (side : Side) (base width first second : Nat) : Prop :=
  match side with
  | .right => first = second
  | .left => first = second ∨ first < base ^ width ∧ second < base ^ width ∧
      ∃ zeros, first = second * base ^ zeros ∨ second = first * base ^ zeros

/-- Zeros behind a numeral fill its column as well as they multiply its value. -/
theorem column_left_mul_pow (large : 2 ≤ base) {width value : Nat} (positive : 0 < value) {zeros : Nat}
    (fits : value * base ^ zeros < base ^ width) :
    column .left base width (value * base ^ zeros) = column .left base width value := by
  have widest := (length_render_le_iff large (Nat.mul_pos positive (Nat.pow_pos (by omega)))).mpr fits
  have written := render_mul_pow large positive zeros
  rw [written, List.length_append, List.length_replicate] at widest
  rw [column, column, written, pad, pad, List.rightpad, List.rightpad, List.append_assoc,
    List.replicate_append_replicate, List.length_append, List.length_replicate]
  congr 2
  omega

theorem alike_of_le (large : 2 ≤ base) (small : base ≤ 36) {width first second : Nat}
    (same : column .left base width first = column .left base width second)
    (short : (render base first).length ≤ (render base second).length) :
    Alike .left base width first second := by
  have values := congrArg (fromDigits base) same
  simp only [column, pad, List.rightpad, fromDigits_trailing_zeros, fromDigits_render large small] at values
  have lengths := congrArg List.length same
  rw [column, column, length_pad, length_pad] at lengths
  by_cases fits : (render base second).length ≤ width
  · -- the shorter one has more zeros behind it
    have split : width - (render base first).length =
        ((render base second).length - (render base first).length) +
          (width - (render base second).length) := by omega
    rw [split, Nat.pow_add, ← Nat.mul_assoc] at values
    have multiple := Nat.eq_of_mul_eq_mul_right (Nat.pow_pos (by omega)) values
    have bounded : ∀ {value : Nat}, (render base value).length ≤ width → value < base ^ width := by
      intro value inside
      rcases Nat.eq_zero_or_pos value with rfl | positive
      · exact Nat.pow_pos (by omega)
      · exact (length_render_le_iff large positive).mp inside
    exact Or.inr ⟨bounded (short.trans fits), bounded fits, _, Or.inr multiple.symm⟩
  · have none : width - (render base first).length = 0 ∧ width - (render base second).length = 0 := by omega
    rw [none.1, none.2, Nat.pow_zero, Nat.mul_one, Nat.mul_one] at values
    exact Or.inl values

theorem Alike.symm {side : Side} {width first second : Nat} (alike : Alike side base width first second) :
    Alike side base width second first := by
  cases side with
  | right => exact Eq.symm alike
  | left =>
    rcases alike with same | ⟨fits, others, zeros, multiple⟩
    · exact Or.inl same.symm
    · exact Or.inr ⟨others, fits, zeros, multiple.symm⟩

theorem column_eq_iff (large : 2 ≤ base) (small : base ≤ 36) {side : Side} {width first second : Nat} :
    column side base width first = column side base width second ↔ Alike side base width first second := by
  cases side with
  | right =>
    refine ⟨fun same => ?_, congrArg _⟩
    have values := congrArg (fromDigits base) same
    simp only [column, pad, List.leftpad, fromDigits_leading_zeros, fromDigits_render large small] at values
    exact values
  | left =>
    constructor
    · intro same
      rcases Nat.le_total (render base first).length (render base second).length with short | short
      · exact alike_of_le large small same short
      · exact (alike_of_le large small same.symm short).symm
    · have multiplied : ∀ {value zeros : Nat}, value * base ^ zeros < base ^ width →
          column .left base width (value * base ^ zeros) = column .left base width value := by
        intro value zeros fits
        rcases Nat.eq_zero_or_pos value with rfl | positive
        · rw [Nat.zero_mul]
        · exact column_left_mul_pow large positive fits
      intro alike
      rcases alike with rfl | ⟨fits, others, zeros, rfl | rfl⟩
      · rfl
      · exact multiplied fits
      · exact (multiplied others).symm

end Numerals

/-! ## A stream that keeps its format -/

section Streams

structure Stream (α : Type) where
  good : Bool
  side : Side
  fill : α
  width : Nat
  buffer : List α
  deriving DecidableEq, Repr

namespace Stream

variable {α : Type}

def setw (stream : Stream α) (width : Nat) : Stream α := { stream with width }

def setfill (stream : Stream α) (fill : α) : Stream α := { stream with fill }

def left (stream : Stream α) : Stream α := { stream with side := .left }

/-- Inserting a field uses the width up. -/
def insert (stream : Stream α) (field : List α) : Stream α :=
  if stream.good then
    { stream with width := 0, buffer := stream.buffer ++ pad stream.side stream.width stream.fill field }
  else stream

/-- The buffer goes out whole, or only its first bytes do and the stream fails. -/
def flush (stream : Stream α) (accepted : Option Nat) : Stream α × List α :=
  if !stream.good then (stream, [])
  else match accepted with
    | none => ({ stream with buffer := [] }, stream.buffer)
    | some count => ({ stream with good := false, buffer := [] }, stream.buffer.take count)

end Stream

end Streams

end Foundation.Columns
