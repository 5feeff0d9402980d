/-!
# Decimal numerals

A signed numeral is one optional sign followed by one or more ASCII digits; it
has an integer value, however long it is.  A 64-bit numeral is one whose value
fits in a signed 64-bit word.  The written form of a natural number has neither
sign nor leading zero.
-/

namespace CardShell.Text

/-- The least signed 64-bit value. -/
def minInt64 : Int :=
  -9223372036854775808

/-- The greatest signed 64-bit value. -/
def maxInt64 : Int :=
  9223372036854775807

/-- Whether an integer fits in a signed 64-bit word. -/
def fitsInt64 (value : Int) : Bool :=
  minInt64 ≤ value && value ≤ maxInt64

/-- The value of a non-empty run of ASCII digits. -/
def natural? (digits : List Char) : Option Nat :=
  if digits.isEmpty || !digits.all Char.isDigit then none
  else some (Nat.ofDigitChars 10 digits 0)

/-- The value of a numeral with at most one sign in front of its digits. -/
def integer? : List Char → Option Int
  | '+' :: digits => (natural? digits).map Int.ofNat
  | '-' :: digits => (natural? digits).map fun value => -(Int.ofNat value)
  | digits => (natural? digits).map Int.ofNat

/-- The value of a numeral, if it fits in a signed 64-bit word. -/
def int64? (text : List Char) : Option Int :=
  (integer? text).filter fitsInt64

/-- The digits of a natural number, the most significant first. -/
def digits (value : Nat) : List Char :=
  Nat.toDigits 10 value

/-- The decimal text of a natural number. -/
def ofNat (value : Nat) : String :=
  String.ofList (digits value)

/-- The decimal text of an integer, with a sign only when it is negative. -/
def ofInt : Int → String
  | .ofNat value => ofNat value
  | .negSucc value => String.ofList ('-' :: digits (value + 1))

/-- The digits of a number read back as that number. -/
theorem natural?_digits (value : Nat) : natural? (digits value) = some value := by
  have allDigits : (Nat.toDigits 10 value).all Char.isDigit = true :=
    List.all_eq_true.mpr fun _ member =>
      Nat.isDigit_of_mem_toDigits (by decide) (by decide) member
  have notEmpty : (Nat.toDigits 10 value).isEmpty = false := by
    simp [Nat.toDigits_ne_nil]
  simp [natural?, digits, allDigits, notEmpty, Nat.ofDigitChars_ten_toDigits]

end CardShell.Text
