/-!
# Binary64 numbers

A binary64 number is its 64-bit word, so that two zeros and two kinds of NaN
stay apart.  It decodes into a sign with a dyadic magnitude `significand · 2 ^
exponent`, an infinity or a NaN.  Numbers are compared with integers and with
each other by exact value, and `ofRatio` rounds a quotient to the nearest
number, a tie going to the even significand.
-/

namespace CardShell

/-- A 64-bit word read as a binary64 number. -/
structure Binary64 where
  bits : UInt64
deriving DecidableEq, Repr, Inhabited

namespace Binary64

/-- A power of two. -/
def twoTo (power : Nat) : Nat :=
  Nat.pow 2 power

/-- A power of ten. -/
def tenTo (power : Nat) : Nat :=
  Nat.pow 10 power

/-- What a word stands for.  A finite number has the magnitude
`significand · 2 ^ exponent`. -/
inductive Decoded where
  | nan
  | infinite (negative : Bool)
  | finite (negative : Bool) (significand : Nat) (exponent : Int)
deriving DecidableEq, Repr

/-- The top bit. -/
def negative (number : Binary64) : Bool :=
  twoTo 63 ≤ number.bits.toNat

/-- The eleven exponent bits. -/
def exponentField (number : Binary64) : Nat :=
  number.bits.toNat / twoTo 52 % twoTo 11

/-- The fifty-two fraction bits. -/
def fractionField (number : Binary64) : Nat :=
  number.bits.toNat % twoTo 52

/-- Read the three fields.  A zero exponent field marks the subnormal numbers,
which have no hidden bit; a full one marks infinities and NaNs. -/
def decode (number : Binary64) : Decoded :=
  if number.exponentField = 2047 then
    if number.fractionField = 0 then .infinite number.negative else .nan
  else if number.exponentField = 0 then
    .finite number.negative number.fractionField (-1074)
  else
    .finite number.negative (twoTo 52 + number.fractionField)
      ((number.exponentField : Int) - 1075)

/-- Whether the word stands for no number. -/
def isNaN (number : Binary64) : Bool :=
  number.decode = .nan

/-- Assemble a word from its three fields. -/
def ofFields (negative : Bool) (exponent fraction : Nat) : Binary64 :=
  ⟨UInt64.ofNat ((if negative then twoTo 63 else 0) + exponent * twoTo 52 + fraction)⟩

/-- The quotient rounded to the nearest integer, a tie to the even one. -/
def roundQuotient (numerator denominator : Nat) : Nat :=
  let quotient := numerator / denominator
  let twice := 2 * (numerator % denominator)
  if denominator < twice || (denominator == twice && quotient % 2 == 1) then quotient + 1
  else quotient

/-- A fraction `numerator / (denominator · 2 ^ exponent)` without negative
powers. -/
def scaleDown (numerator denominator : Nat) : Int → Nat × Nat
  | .ofNat power => (numerator, denominator * twoTo power)
  | .negSucc power => (numerator * twoTo (power + 1), denominator)

/-- The greatest exponent that leaves the quotient a 53-bit integer part, and
not below that of the subnormal numbers. -/
def exponentOf (numerator denominator : Nat) : Int :=
  let guess : Int := (Nat.log2 numerator : Int) - (Nat.log2 denominator : Int) - 52
  let scaled := scaleDown numerator denominator guess
  max (if scaled.1 < twoTo 52 * scaled.2 then guess - 1 else guess) (-1074)

/-- The number nearest to a quotient of natural numbers, infinite when it is too
great. -/
def ofRatio (negative : Bool) (numerator denominator : Nat) : Binary64 :=
  if numerator = 0 || denominator = 0 then ofFields negative 0 0
  else
    let exponent := exponentOf numerator denominator
    let scaled := scaleDown numerator denominator exponent
    let significand := roundQuotient scaled.1 scaled.2
    let carried := significand = twoTo 53
    let significand := if carried then twoTo 52 else significand
    let exponent := if carried then exponent + 1 else exponent
    if 971 < exponent then ofFields negative 2047 0
    else if significand < twoTo 52 then ofFields negative 0 significand
    else ofFields negative (exponent + 1075).toNat (significand - twoTo 52)

/-- The number nearest to `digits · 10 ^ exponent`.  Decimals far outside the
range of the exponents round without their power being computed. -/
def ofDecimal (negative : Bool) (digits : Nat) (exponent : Int) : Binary64 :=
  if digits = 0 || exponent + (Nat.log2 digits + 1) < -400 then ofFields negative 0 0
  else if 400 < exponent then ofFields negative 2047 0
  else
    match exponent with
    | .ofNat power => ofRatio negative (digits * tenTo power) 1
    | .negSucc power => ofRatio negative digits (tenTo (power + 1))

/-- A signed dyadic number as a fraction with a positive denominator. -/
def toFraction (negative : Bool) (significand : Nat) : Int → Int × Nat
  | .ofNat power =>
      let magnitude : Int := (significand : Int) * twoTo power
      (if negative then -magnitude else magnitude, 1)
  | .negSucc power =>
      (if negative then -(significand : Int) else significand, twoTo (power + 1))

/-- Place on the line of all comparable numbers: NaN below everything, then
negative infinity, the finite numbers and positive infinity. -/
inductive Place where
  | bottom
  | least
  | finite (numerator : Int) (denominator : Nat)
  | greatest
deriving DecidableEq, Repr

/-- The place of a number. -/
def place (number : Binary64) : Place :=
  match number.decode with
  | .nan => .bottom
  | .infinite true => .least
  | .infinite false => .greatest
  | .finite negative significand exponent =>
      let fraction := toFraction negative significand exponent
      .finite fraction.1 fraction.2

/-- The place of an integer. -/
def Place.ofInt (value : Int) : Place :=
  .finite value 1

/-- The order of the four kinds of place. -/
def Place.rank : Place → Nat
  | .bottom => 0
  | .least => 1
  | .finite _ _ => 2
  | .greatest => 3

/-- Compare two places by exact value; fractions are cross-multiplied. -/
def Place.compare : Place → Place → Ordering
  | .finite numerator denominator, .finite numerator' denominator' =>
      Ord.compare (numerator * denominator') (numerator' * denominator)
  | left, right => Ord.compare left.rank right.rank

/-- The integer that a finite number equals, if it is one. -/
def toInt? (number : Binary64) : Option Int :=
  match number.place with
  | .finite numerator denominator =>
      if numerator % denominator = 0 then some (numerator / denominator) else none
  | _ => none

end Binary64

end CardShell
