import CardShell.Text.Numeral
import Mathlib

/-!
# The values of numerals

A numeral stands for the sum of its digits, each of them times its power of ten, with
the sign in front.  Reading gives this integer whatever the length of the numeral, and
nothing for any other text.  The written form of a natural number is a numeral of it
without a sign and without needless zeros.
-/

namespace CardShell.Text

/-- One or more digits. -/
def Digits (text : List Char) : Prop :=
  text ≠ [] ∧ ∀ character ∈ text, '0' ≤ character ∧ character ≤ '9'

/-- The value of digits, the last of which counts ones. -/
def placeValue (digits : List Char) : Nat :=
  Nat.ofDigits 10 (digits.map fun digit => digit.toNat - '0'.toNat).reverse

/-- The numerals with their values: digits behind at most one sign. -/
inductive Numeral : List Char → Int → Prop
  | unsigned {digits : List Char} : Digits digits → Numeral digits (placeValue digits)
  | positive {digits : List Char} : Digits digits → Numeral ('+' :: digits) (placeValue digits)
  | negative {digits : List Char} : Digits digits → Numeral ('-' :: digits) (-placeValue digits)

theorem digits_iff {text : List Char} :
    Digits text ↔ text ≠ [] ∧ text.all Char.isDigit = true := by
  simp only [Digits, List.all_eq_true, Char.isDigit, Bool.and_eq_true, decide_eq_true_eq]
  rfl

theorem ofDigitChars_eq_placeValue (digits : List Char) :
    Nat.ofDigitChars 10 digits 0 = placeValue digits := by
  induction digits with
  | nil => rfl
  | cons digit digits later =>
      rw [Nat.ofDigitChars_cons, Nat.ofDigitChars_eq_ofDigitChars_zero, later, placeValue,
        placeValue, List.map_cons, List.reverse_cons, Nat.ofDigits_append,
        Nat.ofDigits_singleton, List.length_reverse, List.length_map, Nat.mul_zero, Nat.zero_add,
        Nat.add_comm]

theorem natural?_eq_some_iff {digits : List Char} {value : Nat} :
    natural? digits = some value ↔ Digits digits ∧ placeValue digits = value := by
  rw [natural?, digits_iff, ← ofDigitChars_eq_placeValue]
  cases empty : digits.isEmpty <;> cases all : digits.all Char.isDigit <;>
    simp_all [List.isEmpty_iff]

/-- A sign is no digit. -/
theorem Digits.not_cons {sign : Char} {digits : List Char} (notDigit : sign.isDigit = false) :
    ¬Digits (sign :: digits) := by
  rw [digits_iff, List.all_cons, notDigit]
  simp

/-- A text is read as an integer exactly when it is a numeral of it. -/
theorem integer?_eq_some_iff {text : List Char} {value : Int} :
    integer? text = some value ↔ Numeral text value := by
  unfold integer?
  split
  · simp only [Option.map_eq_some_iff, natural?_eq_some_iff]
    constructor
    · rintro ⟨count, ⟨digits, rfl⟩, rfl⟩
      exact .positive digits
    · intro numeral
      cases numeral with
      | unsigned digits => exact absurd digits (Digits.not_cons (by decide))
      | positive digits => exact ⟨_, ⟨digits, rfl⟩, rfl⟩
  · simp only [Option.map_eq_some_iff, natural?_eq_some_iff]
    constructor
    · rintro ⟨count, ⟨digits, rfl⟩, rfl⟩
      exact .negative digits
    · intro numeral
      cases numeral with
      | unsigned digits => exact absurd digits (Digits.not_cons (by decide))
      | negative digits => exact ⟨_, ⟨digits, rfl⟩, rfl⟩
  · rename_i notPlus notMinus
    simp only [Option.map_eq_some_iff, natural?_eq_some_iff]
    constructor
    · rintro ⟨count, ⟨digits, rfl⟩, rfl⟩
      exact .unsigned digits
    · intro numeral
      cases numeral with
      | unsigned digits => exact ⟨_, ⟨digits, rfl⟩, rfl⟩
      | positive _ => exact absurd rfl (notPlus _)
      | negative _ => exact absurd rfl (notMinus _)

/-- A numeral has one value only. -/
theorem Numeral.unique {text : List Char} {value other : Int} (numeral : Numeral text value)
    (another : Numeral text other) : value = other :=
  Option.some.inj
    ((integer?_eq_some_iff.mpr numeral).symm.trans (integer?_eq_some_iff.mpr another))

/-! ## Signed 64-bit words -/

theorem fitsInt64_iff {value : Int} :
    fitsInt64 value = true ↔ minInt64 ≤ value ∧ value ≤ maxInt64 := by
  rw [fitsInt64, Bool.and_eq_true, decide_eq_true_eq, decide_eq_true_eq]

/-- A text is read as a 64-bit numeral exactly when it is a numeral of a value that fits. -/
theorem int64?_eq_some_iff {text : List Char} {value : Int} :
    int64? text = some value ↔ Numeral text value ∧ minInt64 ≤ value ∧ value ≤ maxInt64 := by
  rw [int64?, Option.filter_eq_some_iff, integer?_eq_some_iff, fitsInt64_iff]

theorem int64?_eq_none_iff {text : List Char} :
    int64? text = none ↔
      ∀ value, Numeral text value → ¬(minInt64 ≤ value ∧ value ≤ maxInt64) := by
  rw [Option.eq_none_iff_forall_ne_some]
  simp only [ne_eq, int64?_eq_some_iff, not_and]

/-! ## Written numbers -/

theorem digits_digits (value : Nat) : Digits (digits value) :=
  (natural?_eq_some_iff.mp (natural?_digits value)).1

theorem newline_not_mem_digits (value : Nat) : '\n' ∉ digits value :=
  fun member => absurd ((digits_digits value).2 _ member) (by decide)

theorem placeValue_digits (value : Nat) : placeValue (digits value) = value :=
  (natural?_eq_some_iff.mp (natural?_digits value)).2

theorem numeral_digits (value : Nat) : Numeral (digits value) value := by
  have numeral := Numeral.unsigned (digits_digits value)
  rwa [placeValue_digits] at numeral

/-- The digits of a number start with a zero only when it is zero. -/
theorem eq_zero_of_head?_digits {value : Nat} (zero : (digits value).head? = some '0') :
    value = 0 := by
  induction value using Nat.strongRecOn with
  | ind value smaller =>
      rw [digits] at zero
      by_cases small : value < 10
      · rw [Nat.toDigits_of_lt_base small] at zero
        interval_cases value <;> first | rfl | contradiction
      · have large : 10 ≤ value := Nat.le_of_not_lt small
        rw [Nat.toDigits_of_base_le (by decide) large,
          List.head?_append_of_ne_nil _ Nat.toDigits_ne_nil] at zero
        have quotient := smaller (value / 10) (by omega) zero
        omega

end CardShell.Text
