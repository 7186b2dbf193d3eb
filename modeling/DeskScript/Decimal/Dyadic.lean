/-
This file takes a double apart and puts the nearest double of a fraction together.
-/

namespace DeskScript.Decimal

-- A power of whole numbers is the one of the core library, also where further powers are known.
attribute [instance (high), default_instance (high + 1)] instPowNat

/-- A finite double is its sign times `significand * 2 ^ exponent`. -/
structure Dyadic where
  negative : Bool
  significand : Nat
  exponent : Int
  deriving DecidableEq

/-- This is the exponent of the smallest double above zero. -/
def leastExponent : Int := -1074

/-- Infinities and values that are not numbers have no dyadic form. -/
def Dyadic.ofFloat? (value : Float) : Option Dyadic :=
  let bits := value.toBits.toNat
  let negative := decide (2 ^ 63 ≤ bits)
  let field := bits / 2 ^ 52 % 2048
  let fraction := bits % 2 ^ 52
  if field = 2047 then none
  else if field = 0 then some ⟨negative, fraction, leastExponent⟩
  else some ⟨negative, fraction + 2 ^ 52, Int.ofNat field - 1075⟩

/-- A number is rounded to the nearest whole number, and a half is rounded away from zero. -/
def Dyadic.nearestWhole (number : Dyadic) : Int :=
  let numerator := number.significand * 2 ^ number.exponent.toNat
  let denominator := 2 ^ (-number.exponent).toNat
  let magnitude : Nat := (2 * numerator + denominator) / (2 * denominator)
  if number.negative then -magnitude else magnitude

/-- This function divides and rounds to the nearest number, an exact half to the even one. -/
def roundDiv (numerator denominator : Nat) : Nat :=
  let quotient := numerator / denominator
  let twice := 2 * (numerator % denominator)
  if twice < denominator then quotient
  else if denominator < twice then quotient + 1
  else quotient + quotient % 2

/-- These are the numerator and the denominator of `numerator / denominator * 2 ^ -exponent`. -/
def scaleBy (numerator denominator : Nat) (exponent : Int) : Nat × Nat :=
  (numerator * 2 ^ (-exponent).toNat, denominator * 2 ^ exponent.toNat)

/-- This is the double without a sign that is nearest to a fraction, as its bits. -/
def nearestBits (numerator denominator : Nat) : Nat :=
  if numerator = 0 then 0
  else
    let guess := Int.ofNat numerator.log2 - Int.ofNat denominator.log2 - 53
    let fine := scaleBy numerator denominator guess
    let fitted := if fine.1 / fine.2 < 2 ^ 53 then guess else guess + 1
    let exponent := if fitted < leastExponent then leastExponent else fitted
    let parts := scaleBy numerator denominator exponent
    let significand := roundDiv parts.1 parts.2
    if significand < 2 ^ 52 then significand
    else
      let bits := (exponent + 1075).toNat * 2 ^ 52 + (significand - 2 ^ 52)
      if 2047 * 2 ^ 52 ≤ bits then 2047 * 2 ^ 52 else bits

/-- This is the double nearest to a fraction, and an infinity when the fraction is too large. -/
def nearestFloat (negative : Bool) (numerator denominator : Nat) : Float :=
  let magnitude := nearestBits numerator denominator
  Float.ofBits (UInt64.ofNat (if negative then magnitude + 2 ^ 63 else magnitude))

end DeskScript.Decimal
