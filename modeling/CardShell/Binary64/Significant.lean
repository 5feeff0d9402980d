import CardShell.Binary64
import CardShell.Text.Numeral

/-!
# Decimal text with fifteen significant digits

The text under which the storage engine compares a number with texts: fifteen
significant digits without trailing zeros but with at least one digit behind the
point, and an exponent of at least two digits for numbers below `10 ^ -4` and
from `10 ^ 15` on.
-/

namespace CardShell.Binary64

/-- The number of significant digits. -/
def significantDigits : Nat :=
  15

/-- The quotient over `10 ^ exponent`, rounded. -/
def roundTo (numerator denominator : Nat) : Int → Nat
  | .ofNat power => roundQuotient numerator (denominator * tenTo power)
  | .negSucc power => roundQuotient (numerator * tenTo (power + 1)) denominator

/-- The significant digits of a positive quotient and the power of ten of the
last one: the least power that leaves no more digits than there are significant
ones. -/
def significant (numerator denominator : Nat) : Nat × Int :=
  ((List.range 640).findSome? fun index : Nat =>
    let exponent := Int.ofNat index - 340
    let digits := roundTo numerator denominator exponent
    if digits < tenTo significantDigits then some (digits, exponent) else none).getD (0, 0)

/-- Digits without the zeros at the end, except for the first digit. -/
def dropZeros : List Char → List Char
  | [] => []
  | first :: rest => first :: (rest.reverse.dropWhile (· == '0')).reverse

/-- A fraction has at least one digit. -/
def atLeastOne (fraction : List Char) : List Char :=
  if fraction.isEmpty then ['0'] else fraction

/-- An exponent mark with a sign and at least two digits. -/
def exponentText (exponent : Int) : List Char :=
  let digits := Text.digits exponent.natAbs
  'e' :: (if exponent < 0 then '-' else '+') :: List.replicate (2 - digits.length) '0' ++ digits

/-- The text of a positive quotient. -/
def magnitudeText (numerator denominator : Nat) : List Char :=
  let (value, last) := significant numerator denominator
  let digits := Text.digits value
  let leading := last + digits.length - 1
  let digits := dropZeros digits
  if leading < -4 || 14 < leading then
    digits.take 1 ++ '.' :: atLeastOne (digits.drop 1) ++ exponentText leading
  else if leading < 0 then
    ['0', '.'] ++ List.replicate (leading.natAbs - 1) '0' ++ digits
  else
    let whole := leading.toNat + 1
    let padded := digits ++ List.replicate (whole - digits.length) '0'
    padded.take whole ++ '.' :: atLeastOne (padded.drop whole)

/-- The text of a number, or nothing for a NaN. -/
def significantText? (number : Binary64) : Option String :=
  match number.decode with
  | .nan => none
  | .infinite negative => some (if negative then "-Inf" else "Inf")
  | .finite _ 0 _ => some "0.0"
  | .finite negative magnitude exponent =>
      let (numerator, denominator) := toFraction false magnitude exponent
      let text := magnitudeText numerator.toNat denominator
      some (String.ofList (if negative then '-' :: text else text))

end CardShell.Binary64
