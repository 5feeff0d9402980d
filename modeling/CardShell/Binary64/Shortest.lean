import CardShell.Binary64
import CardShell.Text.Numeral

/-!
# Shortest decimal text

A finite number is written with the fewest digits that no other number is
nearest to: among the powers of ten, from the greatest down, the first one of
which a multiple lies in the interval that rounds to the number.  Of the
multiples on that grid the nearest is taken, and a tie goes up.  The text is
positional throughout, without an exponent and without a point in front of an
empty fraction.
-/

namespace CardShell.Binary64

/-- The interval of reals that round to a positive number: the number and the
ends of the interval over one denominator.  The ends belong to it when the
significand is even. -/
structure Rounding where
  value : Nat
  low : Nat
  high : Nat
  denominator : Nat
  closed : Bool
deriving Repr

/-- The interval of `significand · 2 ^ exponent`.  The gap below a power of two
is half of the gap above it, except at the end of the subnormal numbers. -/
def Rounding.of (significand : Nat) (exponent : Int) : Rounding :=
  let gapBelow := if significand = twoTo 52 && -1074 < exponent then 1 else 2
  let closed := significand % 2 == 0
  match exponent - 2 with
  | .ofNat power =>
      { value := 4 * significand * twoTo power
        low := (4 * significand - gapBelow) * twoTo power
        high := (4 * significand + 2) * twoTo power
        denominator := 1
        closed := closed }
  | .negSucc power =>
      { value := 4 * significand
        low := 4 * significand - gapBelow
        high := 4 * significand + 2
        denominator := twoTo (power + 1)
        closed := closed }

/-- A decimal `digits · 10 ^ exponent`. -/
structure Decimal where
  digits : Nat
  exponent : Int
deriving DecidableEq, Repr

namespace Rounding

/-- The interval on the scale on which `10 ^ exponent` is one step: value, low,
high, and the length of a step. -/
def onGrid (rounding : Rounding) : Int → Nat × Nat × Nat × Nat
  | .ofNat power =>
      (rounding.value, rounding.low, rounding.high, rounding.denominator * tenTo power)
  | .negSucc power =>
      (rounding.value * tenTo (power + 1), rounding.low * tenTo (power + 1),
        rounding.high * tenTo (power + 1), rounding.denominator)

/-- The multiple of `10 ^ exponent` in the interval that is nearest to the
number, if there is a multiple in the interval. -/
def nearest? (rounding : Rounding) (exponent : Int) : Option Nat :=
  let (value, low, high, step) := rounding.onGrid exponent
  let below := value / step
  let above := below + 1
  let inside (multiple : Nat) : Bool :=
    if rounding.closed then low ≤ multiple * step && multiple * step ≤ high
    else low < multiple * step && multiple * step < high
  match inside below, inside above with
  | true, true => some (if value - below * step < above * step - value then below else above)
  | true, false => some below
  | false, true => some above
  | false, false => none

/-- The grids on which a number can first show up, the coarsest first: from
`10 ^ 309`, above every number, down to `10 ^ -324`, below every gap. -/
def grids : List Int :=
  (List.range 634).map fun index : Nat => 309 - Int.ofNat index

/-- The shortest decimal in the interval. -/
def shortest (rounding : Rounding) : Decimal :=
  (grids.findSome? fun exponent =>
    (rounding.nearest? exponent).map fun multiple => ⟨multiple, exponent⟩).getD ⟨0, 0⟩

end Rounding

/-- Positional text of a decimal: no point when there is no fraction, and one
zero in front of the point when there is no integer part. -/
def Decimal.text (decimal : Decimal) : List Char :=
  match decimal.exponent with
  | .ofNat power => Text.digits decimal.digits ++ List.replicate power '0'
  | .negSucc power =>
      let places := power + 1
      let digits := Text.digits decimal.digits
      let padded := List.replicate (places + 1 - digits.length) '0' ++ digits
      padded.take (padded.length - places) ++ '.' :: padded.drop (padded.length - places)

/-- The text of a number.  A zero keeps its sign; a NaN has none. -/
def text (number : Binary64) : String :=
  match number.decode with
  | .nan => "NaN"
  | .infinite negative => if negative then "-inf" else "inf"
  | .finite negative significand exponent =>
      let magnitude :=
        if significand = 0 then ['0'] else ((Rounding.of significand exponent).shortest).text
      String.ofList (if negative then '-' :: magnitude else magnitude)

end CardShell.Binary64
