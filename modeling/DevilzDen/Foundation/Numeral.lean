import Mathlib.Data.List.TakeWhile
import Mathlib.Data.Nat.Digits.Defs

/-! Unsigned numerals in a base up to 36, written and read one byte a digit.

`render` writes upper-case digits without leading zeros. `fromChars` reads the
longest run of digits at the front of a text, in either case, and refuses a
value that does not fit below the bound. It has no sign and skips no blanks.
-/

set_option autoImplicit false

namespace Foundation.Numeral

def digitValue (char : UInt8) : Option Nat :=
  if 48 ≤ char ∧ char ≤ 57 then some (char.toNat - 48)
  else if 65 ≤ char ∧ char ≤ 90 then some (char.toNat - 55)
  else if 97 ≤ char ∧ char ≤ 122 then some (char.toNat - 87)
  else none

def isDigit (base : Nat) (char : UInt8) : Bool := (digitValue char).any fun value => value < base

def digitChar (digit : Nat) : UInt8 :=
  if digit < 10 then UInt8.ofNat (48 + digit) else UInt8.ofNat (55 + digit)

def render (base value : Nat) : List UInt8 :=
  if value = 0 then [digitChar 0] else ((Nat.digits base value).map digitChar).reverse

def fromDigits (base : Nat) (digits : List UInt8) : Nat :=
  digits.foldl (fun value char => value * base + (digitValue char).getD 0) 0

inductive Fault where
  | invalidArgument
  | resultOutOfRange
  deriving DecidableEq, Repr

/-- The value of the leading digits and the text after them. -/
def fromChars (base bound : Nat) (text : List UInt8) : Except Fault (Nat × List UInt8) :=
  let digits := text.takeWhile (isDigit base)
  if digits.isEmpty then .error .invalidArgument
  else if fromDigits base digits < bound then
    .ok (fromDigits base digits, text.dropWhile (isDigit base))
  else .error .resultOutOfRange

def leading (base : Nat) (text : List UInt8) : List UInt8 := text.takeWhile (isDigit base)

/-- A text that is a numeral and nothing else. -/
structure Spells (base bound : Nat) (text : List UInt8) (value : Nat) : Prop where
  present : text ≠ []
  digits : ∀ char ∈ text, isDigit base char = true
  denotes : fromDigits base text = value
  fits : value < bound

theorem leading_eq_self {base : Nat} {text : List UInt8} (digits : ∀ char ∈ text, isDigit base char = true) :
    leading base text = text := List.takeWhile_eq_self_iff.mpr digits

/-- A reading succeeds when the text starts with a numeral that fits, and leaves what stands behind it. -/
theorem fromChars_eq_ok_iff {base bound value : Nat} {text rest : List UInt8} :
    fromChars base bound text = .ok (value, rest) ↔
      Spells base bound (leading base text) value ∧ rest = text.dropWhile (isDigit base) := by
  have digits : ∀ char ∈ leading base text, isDigit base char = true :=
    fun char member => List.mem_takeWhile_imp member
  unfold fromChars
  dsimp only
  rw [← leading]
  by_cases present : leading base text = []
  · rw [if_pos (List.isEmpty_iff.mpr present)]
    exact ⟨nofun, fun read => absurd present read.1.present⟩
  · rw [if_neg fun none => present (List.isEmpty_iff.mp none)]
    by_cases fits : fromDigits base (leading base text) < bound
    · rw [if_pos fits]
      constructor
      · intro read
        cases read
        exact ⟨⟨present, digits, rfl, fits⟩, rfl⟩
      · intro read
        rw [read.1.denotes, read.2]
    · rw [if_neg fits]
      exact ⟨nofun, fun read => absurd (read.1.denotes ▸ read.1.fits) fits⟩

theorem spells_iff {base bound value : Nat} {text : List UInt8} :
    Spells base bound text value ↔
      Spells base bound (leading base text) value ∧ ∀ char ∈ text, isDigit base char = true := by
  constructor
  · intro spells
    rw [leading_eq_self spells.digits]
    exact ⟨spells, spells.digits⟩
  · intro led
    have spells := led.1
    rwa [leading_eq_self led.2] at spells

section Fields

/-- Fields and the values that their digits in front denote. -/
def LeadingNumerals (base bound : Nat) (fields : List (List UInt8 × Nat)) : Prop :=
  ∀ field ∈ fields, Spells base bound (leading base field.1) field.2

def WholeNumerals (base bound : Nat) (fields : List (List UInt8 × Nat)) : Prop :=
  ∀ field ∈ fields, Spells base bound field.1 field.2

def OnlyDigits (base : Nat) (fields : List (List UInt8 × Nat)) : Prop :=
  ∀ field ∈ fields, ∀ char ∈ field.1, isDigit base char = true

theorem wholeNumerals_iff {base bound : Nat} {fields : List (List UInt8 × Nat)} :
    WholeNumerals base bound fields ↔ LeadingNumerals base bound fields ∧ OnlyDigits base fields := by
  constructor
  · intro whole
    exact ⟨fun field member => (spells_iff.mp (whole field member)).1,
      fun field member => (spells_iff.mp (whole field member)).2⟩
  · intro led field member
    exact spells_iff.mpr ⟨led.1 field member, led.2 field member⟩

/-- A reading that looks at the digits in front of its fields accepts only whole
numerals exactly when what it accepts has nothing behind them. -/
theorem leading_iff_whole {ε : Type} {base bound : Nat} {row : ε → List (List UInt8 × Nat) → Prop}
    (unique : ∀ entry fields others, row entry fields → row entry others → fields = others) :
    (∀ entry, (∃ fields, row entry fields ∧ LeadingNumerals base bound fields) ↔
        ∃ fields, row entry fields ∧ WholeNumerals base bound fields) ↔
      ∀ entry fields, row entry fields → LeadingNumerals base bound fields → OnlyDigits base fields := by
  constructor
  · intro same entry fields drawn led
    obtain ⟨others, drawnToo, whole⟩ := (same entry).mp ⟨fields, drawn, led⟩
    rw [unique entry fields others drawn drawnToo]
    exact (wholeNumerals_iff.mp whole).2
  · intro clean entry
    apply exists_congr
    intro fields
    apply and_congr_right
    intro drawn
    rw [wholeNumerals_iff]
    exact ⟨fun led => ⟨led, clean entry fields drawn led⟩, And.left⟩

end Fields

theorem digitValue_digitChar {digit : Nat} (small : digit < 36) :
    digitValue (digitChar digit) = some digit := by
  have all : ∀ digit < 36, digitValue (digitChar digit) = some digit := by decide
  exact all digit small

theorem isDigit_digitChar {base digit : Nat} (small : base ≤ 36) (within : digit < base) :
    isDigit base (digitChar digit) = true := by
  simp [isDigit, digitValue_digitChar (Nat.lt_of_lt_of_le within small), within]

theorem render_ne_nil (base value : Nat) : render base value ≠ [] := by
  unfold render
  split
  · exact List.cons_ne_nil _ _
  · next positive => simpa using Nat.digits_ne_nil_iff_ne_zero.mpr positive

theorem isDigit_of_mem_render {base value : Nat} (large : 2 ≤ base) (small : base ≤ 36)
    {char : UInt8} (member : char ∈ render base value) : isDigit base char = true := by
  unfold render at member
  split at member
  · rw [List.mem_singleton.mp member]
    exact isDigit_digitChar small (by omega)
  · simp only [List.mem_reverse, List.mem_map] at member
    obtain ⟨digit, drawn, rfl⟩ := member
    exact isDigit_digitChar small (Nat.digits_lt_base (by omega) drawn)

theorem notMem_render {base : Nat} (large : 2 ≤ base) (small : base ≤ 36) {char : UInt8}
    (other : isDigit base char = false) (value : Nat) : char ∉ render base value := fun member =>
  Bool.false_ne_true (other.symm.trans (isDigit_of_mem_render large small member))

theorem fromDigits_render {base : Nat} (large : 2 ≤ base) (small : base ≤ 36) (value : Nat) :
    fromDigits base (render base value) = value := by
  unfold render
  split
  next zero => simp [fromDigits, zero, digitValue_digitChar]
  next positive =>
    -- the digits come lowest first, so the left fold over the text is a right fold over them
    have weighed : ∀ digits : List Nat, (∀ digit ∈ digits, digit < base) →
        (digits.map digitChar).foldr (fun char total => total * base + (digitValue char).getD 0) 0 =
          Nat.ofDigits base digits := by
      intro digits bounded
      induction digits with
      | nil => rfl
      | cons digit rest ih =>
        have within : digit < 36 := Nat.lt_of_lt_of_le (bounded digit (by simp)) small
        have tail := ih fun other member => bounded other (by simp [member])
        simp only [List.map_cons, List.foldr_cons, tail, Nat.ofDigits_cons,
          digitValue_digitChar within, Option.getD_some]
        rw [Nat.mul_comm, Nat.add_comm]
    rw [fromDigits, List.foldl_reverse,
      weighed _ fun digit drawn => Nat.digits_lt_base (by omega) drawn, Nat.ofDigits_digits]

/-- Reading inverts writing wherever the text after the numeral does not continue it. -/
theorem fromChars_render {base bound value : Nat} (large : 2 ≤ base) (small : base ≤ 36)
    (fits : value < bound) {rest : List UInt8}
    (ends : rest.head?.all (fun char => !isDigit base char) = true) :
    fromChars base bound (render base value ++ rest) = .ok (value, rest) := by
  have all : ∀ char ∈ render base value, isDigit base char = true :=
    fun char member => isDigit_of_mem_render large small member
  -- the run of digits ends exactly where the rendered numeral does
  have stop : rest.takeWhile (isDigit base) = [] ∧ rest.dropWhile (isDigit base) = rest := by
    cases rest with
    | nil => exact ⟨rfl, rfl⟩
    | cons char tail =>
      have other : isDigit base char = false := by simpa using ends
      simp [other]
  have digits : (render base value ++ rest).takeWhile (isDigit base) = render base value := by
    rw [List.takeWhile_append_of_pos all, stop.1, List.append_nil]
  have after : (render base value ++ rest).dropWhile (isDigit base) = rest := by
    rw [List.dropWhile_append_of_pos all, stop.2]
  simp [fromChars, digits, after, render_ne_nil, fromDigits_render large small, fits]

example : fromChars 16 (2 ^ 64) (render 16 0x9CD27B0045628463) = .ok (0x9CD27B0045628463, []) := by
  decide

end Foundation.Numeral
