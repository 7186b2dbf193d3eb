/-
This file shows that the shortest digits of a double are near enough to it to be read back.
-/

import DeskScript.Decimal.Shortest
import DeskScript.Proofs.Decimal.Rounding

namespace DeskScript.Decimal

/-! ### Digits in the interval of a double -/

theorem splitPower (base : ℚ) (nonzero : base ≠ 0) (exponent : Int) :
    base ^ exponent * base ^ (-exponent).toNat = base ^ exponent.toNat := by
  obtain ⟨power, rfl | rfl⟩ := exponent.eq_nat_or_neg
  · simp
  · simp [nonzero]

/-- A numerator in the interval of a double stands for a fraction that the double attracts. -/
theorem attractsOfHolds (number : Dyadic) (isPositive : 0 < number.significand) (digits : Nat)
    (power : Int)
    (holds : (Rounding.ofDyadic number).holds (10 ^ (-power).toNat)
      (digits * ((Rounding.ofDyadic number).denominator * 10 ^ power.toNat)) = true) :
    number.Attracts (digits * 10 ^ power) := by
  have two := splitPower 2 two_ne_zero number.exponent
  have ten := splitPower 10 (by norm_num) power
  have scale : (0 : ℚ) < 4 * 2 ^ (-number.exponent).toNat * 10 ^ (-power).toNat := by positivity
  obtain ⟨gap, isGap, gapBelow⟩ : ∃ gap : Nat, (Rounding.ofDyadic number).low =
      (4 * number.significand - gap) * 2 ^ number.exponent.toNat ∧ gap ≤ 2 ∧
        number.gapBelow = gap / 4 := by
    refine ⟨_, rfl, ?_⟩
    unfold Dyadic.gapBelow
    split <;> norm_num
  have low : (((Rounding.ofDyadic number).low * 10 ^ (-power).toNat : Nat) : ℚ) =
      (number.significand - number.gapBelow) * 2 ^ number.exponent *
        (4 * 2 ^ (-number.exponent).toNat * 10 ^ (-power).toNat) := by
    rw [isGap, gapBelow.2]
    push_cast [Nat.cast_sub (show gap ≤ 4 * number.significand by omega)]
    rw [← two]
    ring
  have high : (((Rounding.ofDyadic number).high * 10 ^ (-power).toNat : Nat) : ℚ) =
      (number.significand + 1 / 2) * 2 ^ number.exponent *
        (4 * 2 ^ (-number.exponent).toNat * 10 ^ (-power).toNat) := by
    rw [show (Rounding.ofDyadic number).high =
      (4 * number.significand + 2) * 2 ^ number.exponent.toNat from rfl]
    push_cast
    rw [← two]
    ring
  have given : ((digits * ((Rounding.ofDyadic number).denominator * 10 ^ power.toNat) : Nat) : ℚ) =
      digits * 10 ^ power * (4 * 2 ^ (-number.exponent).toNat * 10 ^ (-power).toNat) := by
    rw [show (Rounding.ofDyadic number).denominator = 4 * 2 ^ (-number.exponent).toNat from rfl]
    push_cast
    rw [← ten]
    ring
  have closed : (Rounding.ofDyadic number).closed = decide (number.significand % 2 = 0) := rfl
  unfold Rounding.holds at holds
  by_cases even : number.significand % 2 = 0
  · simp only [closed, even, decide_true, if_true, Bool.and_eq_true, decide_eq_true_eq] at holds
    have lowHolds : (_ : ℚ) ≤ _ := Nat.cast_le.mpr holds.1
    have highHolds : (_ : ℚ) ≤ _ := Nat.cast_le.mpr holds.2
    rw [low, given] at lowHolds
    rw [high, given] at highHolds
    exact ⟨le_of_mul_le_mul_right lowHolds scale, le_of_mul_le_mul_right highHolds scale,
      fun odd => by omega⟩
  · simp only [closed, even, decide_false, Bool.false_eq_true, if_false, Bool.and_eq_true,
      decide_eq_true_eq] at holds
    have lowHolds : (_ : ℚ) < _ := Nat.cast_lt.mpr holds.1
    have highHolds : (_ : ℚ) < _ := Nat.cast_lt.mpr holds.2
    rw [low, given] at lowHolds
    rw [high, given] at highHolds
    have isAbove := lt_of_mul_lt_mul_right lowHolds scale.le
    have isBelow := lt_of_mul_lt_mul_right highHolds scale.le
    exact ⟨isAbove.le, isBelow.le, fun _ => ⟨isAbove, isBelow⟩⟩

namespace Rounding

/-- The digits on a grid are a multiple in the interval. -/
theorem gridHolds (interval : Rounding) (power : Int) (digits : Nat)
    (found : interval.gridDigits? power = some digits) :
    interval.holds (10 ^ (-power).toNat)
      (digits * (interval.denominator * 10 ^ power.toNat)) = true := by
  unfold gridDigits? at found
  dsimp only at found
  generalize isBelow : interval.value * 10 ^ (-power).toNat /
    (interval.denominator * 10 ^ power.toNat) = below at found
  split at found
  · rename_i holdsBelow holdsAbove
    cases found
    split
    · exact holdsBelow
    split
    · exact holdsAbove
    · obtain even | odd : below % 2 = 0 ∨ below % 2 = 1 := by omega
      · rw [even]
        exact holdsBelow
      · rw [odd]
        exact holdsAbove
  · cases found
    assumption
  · cases found
    assumption
  · cases found

/-- A walk that comes to a grid with a multiple in the interval ends on such a grid. -/
theorem digitsFromFound (interval : Rounding) (steps : Nat) (power : Int) (distance : Nat)
    (reached : distance < steps) (fine : (interval.gridDigits? (power - distance)).isSome) :
    interval.gridDigits? (interval.digitsFrom steps power).2 =
      some (interval.digitsFrom steps power).1 := by
  induction steps generalizing power distance with
  | zero => omega
  | succ steps inductionHypothesis =>
      rw [digitsFrom]
      cases found : interval.gridDigits? power with
      | some digits => exact found
      | none =>
          cases distance with
          | zero =>
              rw [Int.natCast_zero, Int.sub_zero, found] at fine
              cases fine
          | succ distance =>
              apply inductionHypothesis (power - 1) distance (by omega)
              rw [show power - 1 - distance = power - (distance + 1 : Nat) by omega]
              exact fine

end Rounding

/-- A grid that is finer than the interval of a double has a multiple in it. -/
theorem fineGrid (number : Dyadic) (isPositive : 0 < number.significand) (power : Int)
    (fine : 4 * 2 ^ (-number.exponent).toNat * 10 ^ power.toNat ≤
      2 ^ number.exponent.toNat * 10 ^ (-power).toNat) :
    ((Rounding.ofDyadic number).gridDigits? power).isSome := by
  have factor : 0 < 2 ^ number.exponent.toNat * 10 ^ (-power).toNat := by positivity
  have isLow : (Rounding.ofDyadic number).low * 10 ^ (-power).toNat +
      2 ^ number.exponent.toNat * 10 ^ (-power).toNat ≤
        4 * number.significand * (2 ^ number.exponent.toNat * 10 ^ (-power).toNat) := by
    obtain ⟨gap, isGap, least⟩ : ∃ gap, (Rounding.ofDyadic number).low =
        (4 * number.significand - gap) * 2 ^ number.exponent.toNat ∧ 1 ≤ gap := by
      refine ⟨_, rfl, ?_⟩
      split <;> omega
    have room : 4 * number.significand - gap + 1 ≤ 4 * number.significand := by omega
    calc (Rounding.ofDyadic number).low * 10 ^ (-power).toNat +
          2 ^ number.exponent.toNat * 10 ^ (-power).toNat
        = (4 * number.significand - gap + 1) *
            (2 ^ number.exponent.toNat * 10 ^ (-power).toNat) := by rw [isGap]; ring
      _ ≤ _ := Nat.mul_le_mul_right _ room
  have isHigh : (Rounding.ofDyadic number).high * 10 ^ (-power).toNat =
      4 * number.significand * (2 ^ number.exponent.toNat * 10 ^ (-power).toNat) +
        2 * (2 ^ number.exponent.toNat * 10 ^ (-power).toNat) := by
    rw [show (Rounding.ofDyadic number).high =
      (4 * number.significand + 2) * 2 ^ number.exponent.toNat from rfl]
    ring
  have isValue : (Rounding.ofDyadic number).value * 10 ^ (-power).toNat =
      4 * number.significand * (2 ^ number.exponent.toNat * 10 ^ (-power).toNat) := by
    rw [show (Rounding.ofDyadic number).value =
      4 * number.significand * 2 ^ number.exponent.toNat from rfl]
    ring
  have isUnit : (Rounding.ofDyadic number).denominator * 10 ^ power.toNat =
      4 * 2 ^ (-number.exponent).toNat * 10 ^ power.toNat := rfl
  have unitPositive : 0 < (Rounding.ofDyadic number).denominator * 10 ^ power.toNat := by
    rw [isUnit]
    positivity
  -- The multiple just below the value is closer to it than the low end of the interval.
  have split := Nat.div_add_mod' ((Rounding.ofDyadic number).value * 10 ^ (-power).toNat)
    ((Rounding.ofDyadic number).denominator * 10 ^ power.toNat)
  have small := Nat.mod_lt ((Rounding.ofDyadic number).value * 10 ^ (-power).toNat) unitPositive
  have below : (Rounding.ofDyadic number).holds (10 ^ (-power).toNat)
      ((Rounding.ofDyadic number).value * 10 ^ (-power).toNat /
        ((Rounding.ofDyadic number).denominator * 10 ^ power.toNat) *
          ((Rounding.ofDyadic number).denominator * 10 ^ power.toNat)) = true := by
    unfold Rounding.holds
    rw [isHigh]
    rw [isValue] at split small ⊢
    rw [isUnit] at split small ⊢
    cases (Rounding.ofDyadic number).closed with
    | true =>
        simp only [if_true, Bool.and_eq_true, decide_eq_true_eq]
        omega
    | false =>
        simp only [Bool.false_eq_true, if_false, Bool.and_eq_true, decide_eq_true_eq]
        omega
  unfold Rounding.gridDigits?
  simp only [below]
  split <;> simp_all

/-! ### Powers of two and ten -/

theorem tenPowerBelow (ten two : Nat) (less : 10 * ten ≤ 3 * two) : 10 ^ ten ≤ 2 ^ two := by
  apply le_of_pow_le_pow_left₀ (by decide : 3 ≠ 0) (Nat.zero_le _)
  calc (10 ^ ten) ^ 3 = (10 ^ 3) ^ ten := by rw [← pow_mul, ← pow_mul, Nat.mul_comm]
    _ ≤ (2 ^ 10) ^ ten := Nat.pow_le_pow_left (by decide) ten
    _ = 2 ^ (10 * ten) := by rw [← pow_mul]
    _ ≤ 2 ^ (3 * two) := Nat.pow_le_pow_right (by decide) less
    _ = (2 ^ two) ^ 3 := by rw [← pow_mul, Nat.mul_comm]

theorem twoPowerBelow (two ten : Nat) (less : 28 * two ≤ 93 * ten) : 2 ^ two ≤ 10 ^ ten := by
  apply le_of_pow_le_pow_left₀ (by decide : 93 ≠ 0) (Nat.zero_le _)
  calc (2 ^ two) ^ 93 = (2 ^ 93) ^ two := by rw [← pow_mul, ← pow_mul, Nat.mul_comm]
    _ ≤ (10 ^ 28) ^ two := Nat.pow_le_pow_left (by decide) two
    _ = 10 ^ (28 * two) := by rw [← pow_mul]
    _ ≤ 10 ^ (93 * ten) := Nat.pow_le_pow_right (by decide) less
    _ = (10 ^ ten) ^ 93 := by rw [← pow_mul, Nat.mul_comm]

/-- The last grid of the walk is finer than the interval of any double. -/
theorem lastGridFine (number : Dyadic) (isDouble : number.IsDouble)
    (isPositive : 0 < number.significand) :
    4 * 2 ^ (-number.exponent).toNat * 10 ^ (decimalCeiling number - 23).toNat ≤
      2 ^ number.exponent.toNat * 10 ^ (-(decimalCeiling number - 23)).toNat := by
  have size : number.significand.log2 < 53 := (Nat.log2_lt (by omega)).mpr isDouble.below
  have least := isDouble.least
  have most := isDouble.most
  unfold leastExponent at least
  unfold decimalCeiling
  simp only [Int.ofNat_eq_natCast]
  generalize number.significand.log2 = log at size ⊢
  generalize number.exponent = exponent at least most ⊢
  generalize isLast : ((log : Int) + exponent + 1) * 1233 / 4096 + 2 - 23 = last
  obtain ⟨two, rfl | rfl⟩ := exponent.eq_nat_or_neg
  · obtain ⟨ten, rfl | rfl⟩ := last.eq_nat_or_neg
    · have less := tenPowerBelow ten (two - 2) (by omega)
      calc 4 * 2 ^ (-(two : Int)).toNat * 10 ^ (ten : Int).toNat = 2 ^ 2 * 10 ^ ten := by simp
        _ ≤ 2 ^ 2 * 2 ^ (two - 2) := Nat.mul_le_mul_left _ less
        _ = 2 ^ two := by rw [← pow_add, show 2 + (two - 2) = two by omega]
        _ = 2 ^ (two : Int).toNat * 10 ^ (-(ten : Int)).toNat := by simp
    · have more : 2 ^ 2 ≤ 2 ^ two * 10 ^ ten := by
        by_cases none : ten = 0
        · have enough : 2 ^ 2 ≤ 2 ^ two := Nat.pow_le_pow_right (by decide) (by omega)
          simpa [none] using enough
        · have enough : 10 ^ 1 ≤ 10 ^ ten := Nat.pow_le_pow_right (by decide) (by omega)
          have atLeastOne : 1 ≤ 2 ^ two := Nat.one_le_two_pow
          nlinarith
      simpa using more
  · obtain ⟨ten, rfl | rfl⟩ := last.eq_nat_or_neg
    · omega
    · have less := twoPowerBelow (2 + two) ten (by omega)
      calc 4 * 2 ^ (-(-(two : Int))).toNat * 10 ^ (-(ten : Int)).toNat = 2 ^ (2 + two) := by
            simp [pow_add]
        _ ≤ 10 ^ ten := less
        _ = 2 ^ (-(two : Int)).toNat * 10 ^ (-(-(ten : Int))).toNat := by simp

/-! ### The digits of a double -/

/-- A positive double attracts what its shortest digits stand for. -/
theorem shortestAttracted (number : Dyadic) (isDouble : number.IsDouble)
    (isPositive : 0 < number.significand) :
    number.Attracts ((shortestDigits number).1 * 10 ^ (shortestDigits number).2) := by
  have fine := fineGrid number isPositive (decimalCeiling number - 23)
    (lastGridFine number isDouble isPositive)
  have found := (Rounding.ofDyadic number).digitsFromFound 24 (decimalCeiling number) 23
    (by decide) fine
  exact attractsOfHolds number isPositive _ _ (Rounding.gridHolds _ _ _ found)

/-- What a positive double attracts is positive. -/
theorem Dyadic.Attracts.positive {number : Dyadic} {value : ℚ} (near : number.Attracts value)
    (isPositive : 0 < number.significand) : 0 < value := by
  have power : (0 : ℚ) < 2 ^ number.exponent := zpow_pos two_pos _
  have atLeastOne : (1 : ℚ) ≤ number.significand := by exact_mod_cast isPositive
  have half : 0 < ((number.significand : ℚ) - 1 / 2) * 2 ^ number.exponent :=
    mul_pos (by linarith) power
  exact lt_of_lt_of_le half near.withinHalf.1

end DeskScript.Decimal
