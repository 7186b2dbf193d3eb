/-
This file shows that every finite double is read back from its shortest text.
-/

import DeskScript.Proofs.Decimal.Layout
import DeskScript.Proofs.Decimal.Shortest

namespace DeskScript.Decimal

/-! ### Decimal numbers near a double -/

/-- A number is at least the power of ten of a quarter of its bits. -/
theorem quarterBits (value : Nat) (isPositive : 0 < value) : 10 ^ (value.log2 / 4) ≤ value :=
  calc 10 ^ (value.log2 / 4) ≤ 16 ^ (value.log2 / 4) := Nat.pow_le_pow_left (by decide) _
    _ = 2 ^ (4 * (value.log2 / 4)) := (pow_mul 2 4 _).symm
    _ ≤ 2 ^ value.log2 := Nat.pow_le_pow_right (by decide) (by omega)
    _ ≤ value := ((Nat.log2_eq_iff (by omega)).mp rfl).1

/-- A number is below the power of ten of a third of its bits. -/
theorem thirdBits (value : Nat) (isPositive : 0 < value) : value < 10 ^ (value.log2 / 3 + 1) :=
  calc value < 2 ^ (value.log2 + 1) := ((Nat.log2_eq_iff (by omega)).mp rfl).2
    _ ≤ 2 ^ (3 * (value.log2 / 3 + 1)) := Nat.pow_le_pow_right (by decide) (by omega)
    _ = 8 ^ (value.log2 / 3 + 1) := pow_mul 2 3 _
    _ ≤ 10 ^ (value.log2 / 3 + 1) := Nat.pow_le_pow_left (by decide) _

theorem ratPowerBelow (two ten : Nat) (less : 28 * two ≤ 93 * ten) : (2 : ℚ) ^ two ≤ 10 ^ ten := by
  exact_mod_cast twoPowerBelow two ten less

namespace Dyadic.Attracts

variable {number : Dyadic} {value : ℚ}

/-- What a double attracts is far below the numbers that are settled as too large. -/
theorem notHuge (isDouble : number.IsDouble) (near : number.Attracts value) :
    value < 10 ^ (400 : Int) := by
  calc value < 2 ^ 53 * 2 ^ number.exponent := near.belowNext isDouble
    _ ≤ 2 ^ 53 * 2 ^ (971 : Int) := by
        have most := zpow_le_zpow_right₀ (by norm_num : (1 : ℚ) ≤ 2) isDouble.most
        linarith
    _ ≤ 10 ^ (400 : Int) := by
        have powers := ratPowerBelow (53 + 971) 400 (by decide)
        rw [pow_add] at powers
        exact_mod_cast powers

/-- What a positive double attracts is far above the numbers that are settled as too small. -/
theorem notTiny (isDouble : number.IsDouble) (isPositive : 0 < number.significand)
    (near : number.Attracts value) : 10 ^ (-400 : Int) < value := by
  have atLeastOne : (1 : ℚ) ≤ number.significand := by exact_mod_cast isPositive
  have least := zpow_le_zpow_right₀ (by norm_num : (1 : ℚ) ≤ 2) isDouble.least
  have powers : (2 : ℚ) ^ (1074 + 2) ≤ 10 ^ 400 := ratPowerBelow (1074 + 2) 400 (by decide)
  have smallest : (0 : ℚ) < 2 ^ leastExponent := zpow_pos two_pos _
  calc (10 : ℚ) ^ (-400 : Int) = (10 ^ 400)⁻¹ := rfl
    _ ≤ (2 ^ (1074 + 2))⁻¹ := inv_anti₀ (by positivity) powers
    _ = 2 ^ leastExponent * (2 ^ 2)⁻¹ := by
        rw [pow_add, mul_inv]
        rfl
    _ < 1 / 2 * 2 ^ leastExponent := by
        norm_num
        linarith
    _ ≤ 1 / 2 * 2 ^ number.exponent := by linarith
    _ ≤ (number.significand - 1 / 2) * 2 ^ number.exponent := by
        apply mul_le_mul_of_nonneg_right _ (zpow_pos two_pos _).le
        linarith
    _ ≤ value := near.withinHalf.1

theorem digitsPositive {digits : Nat} {power : Int} (near : number.Attracts (digits * 10 ^ power))
    (isPositive : 0 < number.significand) : 0 < digits := by
  have ten : (0 : ℚ) < 10 ^ power := zpow_pos (by norm_num) _
  exact_mod_cast pos_of_mul_pos_left (near.positive isPositive) ten.le

end Dyadic.Attracts

/-- A double is read from every decimal number that it attracts. -/
theorem floatOfAttracted (value : Float) (number : Dyadic)
    (found : Dyadic.ofFloat? value = some number) (isPositive : 0 < number.significand)
    (digits : Nat) (power : Int) (near : number.Attracts (digits * 10 ^ power)) :
    floatOfDecimal number.negative digits power = value := by
  have isDouble := (Dyadic.ofFloatParts value number found).1
  have ten : (0 : ℚ) < 10 ^ power := zpow_pos (by norm_num) _
  have digitsPositive := near.digitsPositive isPositive
  have one : (1 : ℚ) ≤ 10 := by norm_num
  have notHuge : ¬400 < Int.ofNat (digits.log2 / 4) + power := by
    intro huge
    have quarter : (10 : ℚ) ^ (digits.log2 / 4) ≤ digits := by
      exact_mod_cast quarterBits digits digitsPositive
    have large : (10 : ℚ) ^ (400 : Int) ≤ digits * 10 ^ power := by
      calc (10 : ℚ) ^ (400 : Int) ≤ 10 ^ (((digits.log2 / 4 : Nat) : Int) + power) :=
            zpow_le_zpow_right₀ one huge.le
        _ = 10 ^ (digits.log2 / 4) * 10 ^ power := by
            rw [zpow_add₀ (by norm_num), zpow_natCast]
        _ ≤ digits * 10 ^ power := mul_le_mul_of_nonneg_right quarter ten.le
    exact absurd (near.notHuge isDouble) (not_lt.mpr large)
  have notTiny : ¬Int.ofNat (digits.log2 / 3) + power < -400 := by
    intro tiny
    have third : (digits : ℚ) ≤ 10 ^ (digits.log2 / 3 + 1) := by
      exact_mod_cast (thirdBits digits digitsPositive).le
    have small : digits * 10 ^ power ≤ (10 : ℚ) ^ (-400 : Int) := by
      calc digits * 10 ^ power ≤ (10 : ℚ) ^ (digits.log2 / 3 + 1) * 10 ^ power :=
            mul_le_mul_of_nonneg_right third ten.le
        _ = 10 ^ (((digits.log2 / 3 + 1 : Nat) : Int) + power) := by
            rw [zpow_add₀ (by norm_num), zpow_natCast]
        _ ≤ 10 ^ (-400 : Int) := by
            apply zpow_le_zpow_right₀ one
            simp only [Int.ofNat_eq_natCast] at tiny
            omega
    exact absurd (near.notTiny isDouble isPositive) (not_lt.mpr small)
  have ratio : (((digits * 10 ^ power.toNat : Nat) : ℚ) / ((10 ^ (-power).toNat : Nat) : ℚ)) =
      digits * 10 ^ power := by
    push_cast
    rw [← splitPower 10 (by norm_num) power]
    field_simp
  rw [← ratio] at near
  have bits := near.nearestBits isDouble (Nat.mul_pos digitsPositive (Nat.pow_pos (by decide)))
    (Nat.pow_pos (by decide))
  rw [floatOfDecimal, if_neg (by omega), if_neg notHuge, if_neg notTiny, nearestFloat, bits]
  exact floatOfDyadic value number found

/-! ### The text of a double -/

/-- This is the text of the magnitude of a double. -/
def NumberLayout.magnitude (layout : NumberLayout) (number : Dyadic) : List Char :=
  if number.significand = 0 then ['0', '.', '0']
  else layout.positive (shortestDigits number).1 (shortestDigits number).2

theorem floatText (layout : NumberLayout) (value : Float) (number : Dyadic)
    (found : Dyadic.ofFloat? value = some number) :
    layout.float value =
      if number.negative then '-' :: layout.magnitude number else layout.magnitude number := by
  rw [NumberLayout.float, found]
  rfl

/-- The magnitude of a double is written as a numeral from which the double is read. -/
theorem numeralOfFloat (layout : NumberLayout) (known : (layout.exponentMark, false) ∈ exponentMarks)
    (value : Float) (number : Dyadic) (found : Dyadic.ofFloat? value = some number)
    (rest : List Char) (ends : EndsNumber rest) :
    ∃ tail parts, IsNumeral (layout.magnitude number ++ rest) tail parts ∧ parts.rest = rest ∧
      parts.float number.negative = value ∧
      parts.whole.length < (layout.magnitude number).length := by
  have isDouble := (Dyadic.ofFloatParts value number found).1
  unfold NumberLayout.magnitude
  by_cases zero : number.significand = 0
  · rw [if_pos zero]
    refine ⟨rest, ⟨['0'], ['0'], 0, rest⟩, numeralBelowOne 0 rest 0 ends, rfl, ?_, by simp⟩
    have bits := floatOfDyadic value number found
    rw [Dyadic.magnitudeBits, zero] at bits
    exact bits
  · rw [if_neg zero]
    have isPositive : 0 < number.significand := by omega
    have near := shortestAttracted number isDouble isPositive
    obtain ⟨tail, parts, numeral, isRest, magnitude, longer⟩ := numeralOfPositive layout
      (shortestDigits number).1 (shortestDigits number).2 rest known
      (near.digitsPositive isPositive) ends
    refine ⟨tail, parts, numeral, isRest, ?_, longer⟩
    rw [← magnitude] at near
    exact floatOfAttracted value number found isPositive _ _ near

end DeskScript.Decimal
