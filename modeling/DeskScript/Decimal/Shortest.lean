/-
This file finds the fewest decimal digits that read back as a given double.
-/

import DeskScript.Decimal.Dyadic

namespace DeskScript.Decimal

/--
The reals that round to one double form an interval around it. All three numerators stand over
the same denominator, and the ends belong to the interval when it is closed.
-/
structure Rounding where
  low : Nat
  value : Nat
  high : Nat
  denominator : Nat
  closed : Bool

/-- Below a power of two the next double is only half as far away. -/
def Rounding.ofDyadic (number : Dyadic) : Rounding :=
  let halfGap := if number.significand = 2 ^ 52 ∧ leastExponent < number.exponent then 1 else 2
  let factor := 2 ^ number.exponent.toNat
  { low := (4 * number.significand - halfGap) * factor
    value := 4 * number.significand * factor
    high := (4 * number.significand + 2) * factor
    denominator := 4 * 2 ^ (-number.exponent).toNat
    closed := number.significand % 2 = 0 }

/-- This test asks whether a numerator lies in the interval after both are scaled alike. -/
def Rounding.holds (interval : Rounding) (scale numerator : Nat) : Bool :=
  if interval.closed then
    interval.low * scale ≤ numerator && numerator ≤ interval.high * scale
  else interval.low * scale < numerator && numerator < interval.high * scale

/--
On the grid of multiples of `10 ^ power`, this is the multiple in the interval that is nearest to
the value. Of two at the same distance the even one is taken.
-/
def Rounding.gridDigits? (interval : Rounding) (power : Int) : Option Nat :=
  let unit := interval.denominator * 10 ^ power.toNat
  let scale := 10 ^ (-power).toNat
  let value := interval.value * scale
  let below := value / unit
  let above := below + 1
  match interval.holds scale (below * unit), interval.holds scale (above * unit) with
  | true, true =>
      let down := value - below * unit
      let up := above * unit - value
      some (if down < up then below else if up < down then above else below + below % 2)
  | true, false => some below
  | false, true => some above
  | false, false => none

/-- This function walks to ever finer grids until one has a multiple in the interval. -/
def Rounding.digitsFrom (interval : Rounding) : Nat → Int → Nat × Int
  | 0, power => (interval.value * 10 ^ (-power).toNat / interval.denominator, power)
  | steps + 1, power =>
      match interval.gridDigits? power with
      | some digits => (digits, power)
      | none => interval.digitsFrom steps (power - 1)

/-- This power of ten lies above a positive double. -/
def decimalCeiling (number : Dyadic) : Int :=
  (Int.ofNat number.significand.log2 + number.exponent + 1) * 1233 / 4096 + 2

/--
These are the digits of a positive double and the power of ten of the last one. Seventeen digits
always suffice, so the walk ends before its bound.
-/
def shortestDigits (number : Dyadic) : Nat × Int :=
  (Rounding.ofDyadic number).digitsFrom 24 (decimalCeiling number)

end DeskScript.Decimal
