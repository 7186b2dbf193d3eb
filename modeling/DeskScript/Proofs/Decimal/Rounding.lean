/-
This file shows that every fraction near a double is rounded to it.
-/

import DeskScript.Proofs.Decimal.Bits
import Mathlib.Algebra.Order.Field.Power
import Mathlib.Data.Rat.Cast.Order
import Mathlib.Tactic.FieldSimp
import Mathlib.Tactic.Linarith
import Mathlib.Tactic.Ring

namespace DeskScript.Decimal

/-! ### Rounding to whole numbers -/

/--
A quotient is rounded to a number that is at most a half away from it. Where the number is odd,
exactly a half is too far.
-/
theorem roundDivNear (numerator denominator value : Nat) (isPositive : 0 < denominator)
    (low : 2 * value * denominator ≤ 2 * numerator + denominator)
    (high : 2 * numerator ≤ 2 * value * denominator + denominator)
    (odd : value % 2 = 1 → 2 * value * denominator < 2 * numerator + denominator ∧
      2 * numerator < 2 * value * denominator + denominator) :
    roundDiv numerator denominator = value := by
  have split := Nat.div_add_mod numerator denominator
  have small := Nat.mod_lt numerator isPositive
  unfold roundDiv
  generalize numerator / denominator = quotient at split ⊢
  generalize numerator % denominator = rest at split small ⊢
  subst split
  have notBelow : quotient ≤ value := by
    by_contra less
    have step : (value + 1) * denominator ≤ quotient * denominator :=
      Nat.mul_le_mul_right denominator (by omega)
    nlinarith
  have notAbove : value ≤ quotient + 1 := by
    by_contra more
    have step : (quotient + 2) * denominator ≤ value * denominator :=
      Nat.mul_le_mul_right denominator (by omega)
    nlinarith
  obtain rfl | rfl : value = quotient ∨ value = quotient + 1 := by omega
  · have half : 2 * rest ≤ denominator := by nlinarith
    by_cases less : 2 * rest < denominator
    · simp only [if_pos less]
    · have even : value % 2 = 0 := by
        by_contra isOdd
        have strict := (odd (by omega)).2
        nlinarith
      simp only [if_neg less, if_neg (show ¬denominator < 2 * rest by omega), even, Nat.add_zero]
  · have half : denominator ≤ 2 * rest := by nlinarith
    by_cases more : denominator < 2 * rest
    · simp only [if_neg (show ¬2 * rest < denominator by omega), if_pos more]
    · have isOdd : quotient % 2 = 1 := by
        by_contra even
        have strict := (odd (by omega)).1
        nlinarith
      simp only [if_neg (show ¬2 * rest < denominator by omega), if_neg more, isOdd]

/-! ### Scaled fractions -/

/-- A fraction is scaled by a power of two. -/
theorem scaledRatio (numerator denominator : Nat) (exponent : Int) :
    ((scaleBy numerator denominator exponent).1 : ℚ) / (scaleBy numerator denominator exponent).2 =
      numerator / denominator / 2 ^ exponent := by
  unfold scaleBy
  obtain ⟨power, rfl | rfl⟩ := exponent.eq_nat_or_neg
  · simp [div_div]
  · simp
    ring

theorem scaledPositive (numerator denominator : Nat) (exponent : Int) (isPositive : 0 < denominator) :
    0 < (scaleBy numerator denominator exponent).2 :=
  Nat.mul_pos isPositive (Nat.two_pow_pos _)

/-- Bounds on a scaled fraction are bounds on its two parts. -/
theorem scaledBelow (numerator denominator bound : Nat) (exponent : Int)
    (isPositive : 0 < denominator) :
    (scaleBy numerator denominator exponent).1 < bound * (scaleBy numerator denominator exponent).2 ↔
      (numerator / denominator : ℚ) < bound * 2 ^ exponent := by
  have below : (0 : ℚ) < (scaleBy numerator denominator exponent).2 :=
    Nat.cast_pos.mpr (scaledPositive numerator denominator exponent isPositive)
  have power : (0 : ℚ) < 2 ^ exponent := zpow_pos two_pos _
  rw [← div_lt_iff₀ power, ← scaledRatio, div_lt_iff₀ below]
  exact_mod_cast Iff.rfl

/-! ### The exponent of a fraction -/

/-- This is the exponent with which the whole part of a fraction has 53 bits. -/
def fittedExponent (numerator denominator : Nat) : Int :=
  let guess := Int.ofNat numerator.log2 - Int.ofNat denominator.log2 - 53
  let fine := scaleBy numerator denominator guess
  if fine.1 / fine.2 < 2 ^ 53 then guess else guess + 1

theorem powLog2 (value : Nat) (isPositive : 0 < value) :
    (2 : ℚ) ^ (value.log2 : Int) ≤ value ∧ (value : ℚ) < 2 ^ (value.log2 + 1 : Int) := by
  have bounds := (Nat.log2_eq_iff (by omega : value ≠ 0)).mp rfl
  rw [zpow_natCast]
  constructor
  · exact_mod_cast bounds.1
  · exact_mod_cast bounds.2

theorem fittedBounds (numerator denominator : Nat) (above : 0 < numerator) (below : 0 < denominator) :
    2 ^ 52 * 2 ^ fittedExponent numerator denominator ≤ (numerator / denominator : ℚ) ∧
      (numerator / denominator : ℚ) < 2 ^ 53 * 2 ^ fittedExponent numerator denominator := by
  obtain ⟨numeratorLow, numeratorHigh⟩ := powLog2 numerator above
  obtain ⟨denominatorLow, denominatorHigh⟩ := powLog2 denominator below
  have isPositive : (0 : ℚ) < denominator := Nat.cast_pos.mpr below
  unfold fittedExponent
  dsimp only
  generalize isGuess : Int.ofNat numerator.log2 - Int.ofNat denominator.log2 - 53 = guess
  simp only [Int.ofNat_eq_natCast] at isGuess
  have two : (2 : ℚ) ≠ 0 := two_ne_zero
  have low : 2 ^ 52 * 2 ^ guess ≤ (numerator / denominator : ℚ) := by
    rw [le_div_iff₀ isPositive]
    calc (2 : ℚ) ^ 52 * 2 ^ guess * denominator
        ≤ 2 ^ 52 * 2 ^ guess * 2 ^ (denominator.log2 + 1 : Int) := by gcongr
      _ = 2 ^ (numerator.log2 : Int) := by
          rw [← zpow_natCast, ← zpow_add₀ two, ← zpow_add₀ two]
          congr 1
          push_cast
          omega
      _ ≤ numerator := numeratorLow
  have high : (numerator / denominator : ℚ) < 2 ^ 54 * 2 ^ guess := by
    rw [div_lt_iff₀ isPositive]
    calc (numerator : ℚ) < 2 ^ (numerator.log2 + 1 : Int) := numeratorHigh
      _ = 2 ^ 54 * 2 ^ guess * 2 ^ (denominator.log2 : Int) := by
          rw [← zpow_natCast, ← zpow_add₀ two, ← zpow_add₀ two]
          congr 1
          push_cast
          omega
      _ ≤ 2 ^ 54 * 2 ^ guess * denominator := by gcongr
  have test := scaledBelow numerator denominator (2 ^ 53) guess below
  rw [← Nat.div_lt_iff_lt_mul (scaledPositive numerator denominator guess below)] at test
  simp only [Nat.cast_pow, Nat.cast_ofNat] at test
  by_cases fits : (scaleBy numerator denominator guess).1 / (scaleBy numerator denominator guess).2
      < 2 ^ 53
  · rw [if_pos fits]
    exact ⟨low, test.mp fits⟩
  · rw [if_neg fits, zpow_add_one₀ two]
    have atLeast := not_lt.mp fun less => fits (test.mpr less)
    constructor
    · calc (2 : ℚ) ^ 52 * (2 ^ guess * 2) = 2 ^ 53 * 2 ^ guess := by ring
        _ ≤ (numerator / denominator : ℚ) := atLeast
    · calc (numerator / denominator : ℚ) < 2 ^ 54 * 2 ^ guess := high
        _ = 2 ^ 53 * (2 ^ guess * 2) := by ring

/-- A fraction has at most one exponent with which its whole part has 53 bits. -/
theorem exponentBelow (value : ℚ) (first second : Int) (low : 2 ^ 52 * 2 ^ first ≤ value)
    (high : value < 2 ^ 53 * 2 ^ second) : first ≤ second := by
  have two : (2 : ℚ) ≠ 0 := two_ne_zero
  have less : (2 : ℚ) ^ (52 + first) < 2 ^ (53 + second) := by
    rw [zpow_add₀ two, zpow_add₀ two]
    exact lt_of_le_of_lt low high
  have exponents := (zpow_lt_zpow_iff_right₀ (by norm_num : (1 : ℚ) < 2)).mp less
  omega

/-! ### Doubles and what is rounded to them -/

/-- Below a power of two the next double is only half as far away as above it. -/
def Dyadic.gapBelow (number : Dyadic) : ℚ :=
  if number.significand = 2 ^ 52 ∧ leastExponent < number.exponent then 1 / 4 else 1 / 2

/--
A double attracts what is at most half as far away as its neighbours. Where its significand is
odd, what is exactly half as far away goes to a neighbour.
-/
structure Dyadic.Attracts (number : Dyadic) (value : ℚ) : Prop where
  low : (number.significand - number.gapBelow) * 2 ^ number.exponent ≤ value
  high : value ≤ (number.significand + 1 / 2) * 2 ^ number.exponent
  odd : number.significand % 2 = 1 →
    (number.significand - number.gapBelow) * 2 ^ number.exponent < value ∧
      value < (number.significand + 1 / 2) * 2 ^ number.exponent

/-- A fraction that is near a whole multiple of a power of two is rounded to it. -/
theorem roundScaled (numerator denominator value : Nat) (exponent : Int) (isPositive : 0 < denominator)
    (low : (value - 1 / 2) * 2 ^ exponent ≤ (numerator / denominator : ℚ))
    (high : (numerator / denominator : ℚ) ≤ (value + 1 / 2) * 2 ^ exponent)
    (odd : value % 2 = 1 → (value - 1 / 2) * 2 ^ exponent < (numerator / denominator : ℚ) ∧
      (numerator / denominator : ℚ) < (value + 1 / 2) * 2 ^ exponent) :
    roundDiv (scaleBy numerator denominator exponent).1 (scaleBy numerator denominator exponent).2 =
      value := by
  have below := scaledPositive numerator denominator exponent isPositive
  have ratio := scaledRatio numerator denominator exponent
  have power : (0 : ℚ) < 2 ^ exponent := zpow_pos two_pos _
  generalize scaleBy numerator denominator exponent = parts at below ratio ⊢
  have cast : (0 : ℚ) < parts.2 := Nat.cast_pos.mpr below
  rw [← le_div_iff₀ power, ← ratio, le_div_iff₀ cast] at low
  rw [← div_le_iff₀ power, ← ratio, div_le_iff₀ cast] at high
  rw [← lt_div_iff₀ power, ← div_lt_iff₀ power, ← ratio, lt_div_iff₀ cast, div_lt_iff₀ cast] at odd
  apply roundDivNear _ _ _ below
  · have scaled : (2 * value * parts.2 : ℚ) ≤ 2 * parts.1 + parts.2 := by linarith
    exact_mod_cast scaled
  · have scaled : (2 * parts.1 : ℚ) ≤ 2 * value * parts.2 + parts.2 := by linarith
    exact_mod_cast scaled
  · intro isOdd
    obtain ⟨oddLow, oddHigh⟩ := odd isOdd
    constructor
    · have scaled : (2 * value * parts.2 : ℚ) < 2 * parts.1 + parts.2 := by linarith
      exact_mod_cast scaled
    · have scaled : (2 * parts.1 : ℚ) < 2 * value * parts.2 + parts.2 := by linarith
      exact_mod_cast scaled

/-- These are the bits of a significand and an exponent, which become an infinity when too large. -/
def packedBits (significand : Nat) (exponent : Int) : Nat :=
  if significand < 2 ^ 52 then significand
  else
    let bits := (exponent + 1075).toNat * 2 ^ 52 + (significand - 2 ^ 52)
    if 2047 * 2 ^ 52 ≤ bits then 2047 * 2 ^ 52 else bits

theorem nearestBitsPacked (numerator denominator : Nat) (isPositive : 0 < numerator) :
    nearestBits numerator denominator =
      packedBits (roundDiv
          (scaleBy numerator denominator (max leastExponent (fittedExponent numerator denominator))).1
          (scaleBy numerator denominator (max leastExponent (fittedExponent numerator denominator))).2)
        (max leastExponent (fittedExponent numerator denominator)) := by
  have chosen (fitted : Int) :
      (if fitted < leastExponent then leastExponent else fitted) = max leastExponent fitted := by
    split <;> omega
  rw [nearestBits, if_neg (by omega)]
  simp only [chosen]
  rfl

theorem packedNormal (significand : Nat) (exponent : Int) (normal : 2 ^ 52 ≤ significand)
    (inRange : (exponent + 1075).toNat * 2 ^ 52 + (significand - 2 ^ 52) < 2047 * 2 ^ 52) :
    packedBits significand exponent =
      (exponent + 1075).toNat * 2 ^ 52 + (significand - 2 ^ 52) := by
  rw [packedBits, if_neg (Nat.not_lt.mpr normal)]
  exact if_neg (Nat.not_le.mpr inRange)

theorem packedOfDouble (number : Dyadic) (isDouble : number.IsDouble) :
    packedBits number.significand number.exponent = number.magnitudeBits := by
  obtain ⟨below, least, most, full⟩ := isDouble
  rw [Dyadic.magnitudeBits]
  by_cases small : number.significand < 2 ^ 52
  · rw [packedBits, if_pos small, if_pos small]
  · rw [packedNormal _ _ (by omega) (by omega), if_neg small]

/-- Just below a power of two the significand is rounded up to one bit more. -/
theorem packedCarry (exponent : Int) (least : leastExponent < exponent) (most : exponent ≤ 971) :
    packedBits (2 ^ 53) (exponent - 1) = packedBits (2 ^ 52) exponent := by
  rw [leastExponent] at least
  rw [packedNormal (2 ^ 53) _ (by omega) (by omega), packedNormal (2 ^ 52) _ (by omega) (by omega)]
  omega

namespace Dyadic.Attracts

variable {number : Dyadic}

/-- What a double attracts is not beyond the next power of two. -/
theorem belowNext {value : ℚ} (isDouble : number.IsDouble) (near : number.Attracts value) :
    value < 2 ^ 53 * 2 ^ number.exponent := by
  have power : (0 : ℚ) < 2 ^ number.exponent := zpow_pos two_pos _
  have most : (number.significand : ℚ) + 1 ≤ 2 ^ 53 := by exact_mod_cast isDouble.below
  calc value ≤ (number.significand + 1 / 2) * 2 ^ number.exponent := near.high
    _ < 2 ^ 53 * 2 ^ number.exponent := by
        apply mul_lt_mul_of_pos_right _ power
        linarith

/-- What a double attracts is at most a half of its unit away from it. -/
theorem withinHalf {value : ℚ} (near : number.Attracts value) :
    (number.significand - 1 / 2) * 2 ^ number.exponent ≤ value ∧
      (number.significand % 2 = 1 → (number.significand - 1 / 2) * 2 ^ number.exponent < value) := by
  have power : (0 : ℚ) < 2 ^ number.exponent := zpow_pos two_pos _
  have gap : number.gapBelow ≤ 1 / 2 := by
    unfold gapBelow
    split <;> norm_num
  have wider : (number.significand - 1 / 2) * 2 ^ number.exponent ≤
      (number.significand - number.gapBelow) * 2 ^ number.exponent := by
    apply mul_le_mul_of_nonneg_right _ power.le
    linarith
  exact ⟨wider.trans near.low, fun odd => lt_of_le_of_lt wider (near.odd odd).1⟩

/-- A double is found again from every fraction that it attracts. -/
theorem nearestBits {numerator denominator : Nat} (isDouble : number.IsDouble)
    (above : 0 < numerator) (below : 0 < denominator)
    (near : number.Attracts (numerator / denominator)) :
    nearestBits numerator denominator = number.magnitudeBits := by
  have power : (0 : ℚ) < 2 ^ number.exponent := zpow_pos two_pos _
  obtain ⟨fittedLow, fittedHigh⟩ := fittedBounds numerator denominator above below
  have notAbove := exponentBelow _ _ _ fittedLow (near.belowNext isDouble)
  rw [nearestBitsPacked _ _ above]
  by_cases same : max leastExponent (fittedExponent numerator denominator) = number.exponent
  · rw [same, roundScaled numerator denominator number.significand number.exponent below
      near.withinHalf.1 near.high fun odd => ⟨near.withinHalf.2 odd, (near.odd odd).2⟩]
    exact packedOfDouble number isDouble
  · -- Only just below a power of two the fraction has a smaller exponent than the double.
    have smaller : fittedExponent numerator denominator ≤ number.exponent - 1 := by
      have least := isDouble.least
      omega
    have less : (numerator / denominator : ℚ) < 2 ^ 52 * 2 ^ number.exponent := by
      calc (numerator / denominator : ℚ)
          < 2 ^ 53 * 2 ^ fittedExponent numerator denominator := fittedHigh
        _ ≤ 2 ^ 53 * 2 ^ (number.exponent - 1) := by
            have := zpow_le_zpow_right₀ (by norm_num : (1 : ℚ) ≤ 2) smaller
            linarith
        _ = 2 ^ 52 * 2 ^ number.exponent := by
            rw [zpow_sub_one₀ two_ne_zero]
            ring
    have isPower : number.significand = 2 ^ 52 := by
      have notSmall : ¬number.significand < 2 ^ 52 := fun small => by
        have least := isDouble.full small
        omega
      have notLarge : (number.significand : ℚ) - 1 / 2 < 2 ^ 52 :=
        lt_of_mul_lt_mul_right (lt_of_le_of_lt near.withinHalf.1 less) power.le
      have notLarge : number.significand < 2 ^ 52 + 1 := by
        have rational : (number.significand : ℚ) < 2 ^ 52 + 1 := by linarith
        exact_mod_cast rational
      omega
    have notLeast : leastExponent < number.exponent := by
      have least := isDouble.least
      omega
    have half : (2 : ℚ) ^ number.exponent = 2 ^ (number.exponent - 1) * 2 := by
      rw [← zpow_add_one₀ two_ne_zero]
      congr 1
      omega
    have low := near.low
    rw [gapBelow, if_pos ⟨isPower, notLeast⟩, isPower] at low
    push_cast at low
    have smallPower : (0 : ℚ) < 2 ^ (number.exponent - 1) := zpow_pos two_pos _
    have notBelow : number.exponent - 1 ≤ fittedExponent numerator denominator := by
      apply exponentBelow _ _ _ _ fittedHigh
      linarith
    have chosen : max leastExponent (fittedExponent numerator denominator) =
        number.exponent - 1 := by omega
    rw [chosen, roundScaled numerator denominator (2 ^ 53) (number.exponent - 1) below ?_ ?_ ?_,
      packedCarry _ notLeast isDouble.most, ← isPower]
    · exact packedOfDouble number isDouble
    · push_cast
      linarith
    · push_cast
      linarith
    · intro odd
      omega

end Dyadic.Attracts

end DeskScript.Decimal
