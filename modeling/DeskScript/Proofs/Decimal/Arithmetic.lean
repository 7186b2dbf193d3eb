/-
This file shows that sums, differences, products and quotients of doubles are the exact results,
rounded. Whole numbers below 2 ^ 53 are added, subtracted and multiplied without any rounding.
-/

import DeskScript.Proofs.Decimal.Nearest
import DeskScript.Scalar

namespace DeskScript.Decimal

open Float.Model Float.Model.UnpackedFloat

/-! ### Sums -/

theorem log2MulPow (number places : ℕ) (isPositive : 0 < number) :
    (number * 2 ^ places).log2 = number.log2 + places := by
  rw [Nat.log2_eq_iff (Nat.mul_pos isPositive (Nat.two_pow_pos places)).ne']
  have bounds := (Nat.log2_eq_iff isPositive.ne').mp rfl
  constructor
  · rw [pow_add]
    exact Nat.mul_le_mul_right _ bounds.1
  · rw [show number.log2 + places + 1 = number.log2 + 1 + places by omega, pow_add]
    exact Nat.mul_lt_mul_of_pos_right bounds.2 (Nat.two_pow_pos places)

theorem scaledDown (number places : ℕ) (exponent : ℤ) :
    ((number * 2 ^ places : ℕ) : ℝ) * 2 ^ (exponent - places) = number * 2 ^ exponent := by
  rw [Nat.cast_mul, Nat.cast_pow, Nat.cast_ofNat, zpow_sub₀ two_ne_zero, zpow_natCast]
  field_simp

/-- A whole number times a power of two is rounded to its double. -/
theorem roundNatural (sign : Sign) {significand : ℕ} {exponent : ℤ} (isPositive : 0 < significand)
    (least : -1074 ≤ exponent) (small : significand * 2 ^ exponent < (2 ^ 1000 : ℝ)) :
    ∃ result, IsForm (UnpackedFloat.round Format.binary64 sign significand exponent) result ∧
      Rounds (signed sign (significand * 2 ^ exponent)) result := by
  have kept : (2 ^ (-1074 : ℤ) : ℝ) ≤ significand * 2 ^ exponent :=
    (zpow_le_zpow_right₀ one_le_two least).trans
      (le_mul_of_one_le_left (by positivity) (by exact_mod_cast isPositive))
  rw [UnpackedFloat.round, decreaseExponent]
  generalize isPlaces : (exponent -
    Format.binary64.targetExponent (totalExponent significand exponent)).toNat = places
  have fine : exponent - places ≤ Format.binary64.targetExponent
      (totalExponent (significand <<< places) (exponent - places)) := by
    rw [Nat.shiftLeft_eq]
    rw [targetOfTotal, totalExponent] at isPlaces ⊢
    rw [log2MulPow significand places isPositive]
    omega
  have exact := scaledDown significand places exponent
  rw [← Nat.shiftLeft_eq] at exact
  rw [← exact] at small kept ⊢
  exact roundForm sign (by rfl) fine (Nat.cast_nonneg _) small (.inr kept)

theorem roundsZero : Rounds 0 0 :=
  ⟨-1074, le_rfl, .inr rfl, ⟨0, by rw [Int.cast_zero, zero_mul]⟩, by
    rw [sub_zero, abs_zero]
    positivity⟩

/-- The sum of two significands is brought into its form. -/
theorem normalizeForm {significand exponent : ℤ} (least : -1074 ≤ exponent)
    (small : |(significand * 2 ^ exponent : ℝ)| < 2 ^ 1000) :
    ∃ result, IsForm (UnpackedFloat.normalize Format.binary64 significand exponent .positive)
      result ∧ Rounds (significand * 2 ^ exponent) result := by
  rw [abs_mul, abs_of_pos (zpow_pos two_pos exponent : (0 : ℝ) < _), ← Int.cast_abs,
    Int.abs_eq_natAbs, Int.cast_natCast] at small
  unfold UnpackedFloat.normalize
  rcases lt_trichotomy significand 0 with less | rfl | greater
  · rw [compare_lt_iff_lt.mpr less, show (-significand).toNat = significand.natAbs by omega]
    have exact : (significand * 2 ^ exponent : ℝ) =
        signed .negative (significand.natAbs * 2 ^ exponent) := by
      rw [signed, ← neg_mul, Nat.cast_natAbs, abs_of_neg less, Int.cast_neg, neg_neg]
    rw [exact]
    exact roundNatural .negative (by omega) least small
  · rw [Int.cast_zero, zero_mul]
    exact ⟨0, .zero, roundsZero⟩
  · rw [compare_gt_iff_gt.mpr greater, show significand.toNat = significand.natAbs by omega]
    have exact : (significand * 2 ^ exponent : ℝ) =
        signed .positive (significand.natAbs * 2 ^ exponent) := by
      rw [signed, Nat.cast_natAbs, abs_of_pos greater]
    rw [exact]
    exact roundNatural .positive (by omega) least small

/-- A number that has a form is not rounded. -/
theorem IsForm.rounds {double : UnpackedFloat} {number : ℝ} (isForm : IsForm double number) :
    Rounds number number := by
  cases isForm with
  | zero => exact roundsZero
  | finite sign significand exponent isPositive below least most full =>
      refine ⟨exponent, RoundsAt.signed ⟨least, ?_, ⟨significand, by rw [Int.cast_natCast]⟩, ?_⟩ sign⟩
      · refine full.imp_left fun full => ?_
        rw [abs_of_nonneg (by positivity), add_comm, zpow_add₀ two_ne_zero]
        exact mul_le_mul_of_nonneg_right (by exact_mod_cast full) (by positivity)
      · rw [sub_self, abs_zero]
        positivity

/-- A significand is brought to a lower exponent without changing the number. -/
theorem alignedForm (sign : Sign) (significand : ℕ) {exponent low : ℤ} (isLow : low ≤ exponent) :
    (sign.apply (decreaseExponent significand exponent low).1 : ℝ) * 2 ^ low =
      signed sign (significand * 2 ^ exponent) := by
  have exact := scaledDown significand (exponent - low).toNat exponent
  rw [Int.toNat_of_nonneg (sub_nonneg.mpr isLow), sub_sub_cancel, ← Nat.shiftLeft_eq] at exact
  rw [decreaseExponent, ← exact]
  cases sign with
  | negative => rw [Sign.apply, signed, Int.cast_neg, Int.cast_natCast, neg_mul]
  | positive => rw [Sign.apply, signed, Int.cast_natCast]

theorem addForm {first second : UnpackedFloat} {x y : ℝ} (isFirst : IsForm first x)
    (isSecond : IsForm second y) (small : |x + y| < 2 ^ 1000) :
    ∃ result, IsForm (UnpackedFloat.add Format.binary64 first second) result ∧
      Rounds (x + y) result := by
  cases isFirst with
  | zero =>
      refine ⟨y, ?_, by rw [zero_add]; exact isSecond.rounds⟩
      cases isSecond with
      | zero => exact .zero
      | finite _ _ _ isPositive below least most full =>
          exact .finite _ _ _ isPositive below least most full
  | finite sign significand exponent isPositive below least most full =>
      cases isSecond with
      | zero =>
          have isForm := IsForm.finite sign significand exponent isPositive below least most full
          exact ⟨_, isForm, by rw [add_zero]; exact isForm.rounds⟩
      | finite otherSign other another _ _ otherLeast =>
          have exact : ((sign.apply (decreaseExponent significand exponent (min exponent another)).1 +
              otherSign.apply (decreaseExponent other another (min exponent another)).1 : ℤ) : ℝ) *
                2 ^ min exponent another =
              signed sign (significand * 2 ^ exponent) + signed otherSign (other * 2 ^ another) := by
            rw [Int.cast_add, add_mul, alignedForm sign significand (min_le_left _ _),
              alignedForm otherSign other (min_le_right _ _)]
          rw [← exact] at small ⊢
          exact normalizeForm (le_min least otherLeast) small

/-- A number is subtracted as the opposite one is added. -/
theorem subNegated (first : UnpackedFloat) (sign : Sign) (significand : ℕ) (exponent : ℤ)
    (isPositive : 0 < significand) :
    UnpackedFloat.sub Format.binary64 first (.finite sign significand exponent isPositive) =
      UnpackedFloat.add Format.binary64 first (.finite (-sign) significand exponent isPositive) := by
  have negated (whole : ℤ) : (-sign).apply whole = -sign.apply whole := by
    cases sign with
    | negative => exact (neg_neg whole).symm
    | positive => rfl
  cases first with
  | finite => simp only [UnpackedFloat.sub, UnpackedFloat.add, negated, sub_eq_add_neg]
  | _ => rfl

theorem subForm {first second : UnpackedFloat} {x y : ℝ} (isFirst : IsForm first x)
    (isSecond : IsForm second y) (small : |x - y| < 2 ^ 1000) :
    ∃ result, IsForm (UnpackedFloat.sub Format.binary64 first second) result ∧
      Rounds (x - y) result := by
  cases isSecond with
  | zero =>
      refine ⟨x, ?_, by rw [sub_zero]; exact isFirst.rounds⟩
      cases isFirst with
      | zero => exact .zero
      | finite _ _ _ isPositive below least most full =>
          exact .finite _ _ _ isPositive below least most full
  | finite sign significand exponent isPositive below least most full =>
      have negated := IsForm.finite (-sign) significand exponent isPositive below least most full
      rw [sub_eq_add_neg, ← signedNeg] at small ⊢
      rw [subNegated]
      exact addForm isFirst negated small

/-! ### Products and quotients -/

/-- A product has enough bits, unless both factors are below all normal doubles. -/
theorem productFine {significand other : ℕ} {exponent another : ℤ} (isPositive : 0 < significand)
    (otherPositive : 0 < other) (full : 2 ^ 52 ≤ significand ∨ exponent = -1074)
    (otherFull : 2 ^ 52 ≤ other ∨ another = -1074) : exponent + another ≤
      Format.binary64.targetExponent (totalExponent (significand * other) (exponent + another)) := by
  have many (enough : 2 ^ 52 ≤ significand * other) : 52 ≤ (significand * other).log2 :=
    (Nat.le_log2 (Nat.mul_pos isPositive otherPositive).ne').mpr enough
  rw [targetOfTotal, totalExponent]
  rcases full with full | isLeast
  · have := many (full.trans (Nat.le_mul_of_pos_right _ otherPositive))
    omega
  · rcases otherFull with otherFull | otherLeast
    · have := many (otherFull.trans (Nat.le_mul_of_pos_left _ isPositive))
      omega
    · omega

theorem mulForm {first second : UnpackedFloat} {x y : ℝ} (isFirst : IsForm first x)
    (isSecond : IsForm second y) (firstLeast : 0 ≤ x) (secondLeast : 0 ≤ y)
    (small : x * y < 2 ^ 1000) :
    ∃ result, IsForm (UnpackedFloat.mul Format.binary64 first second) result ∧
      Rounds (x * y) result := by
  cases isFirst with
  | zero =>
      refine ⟨0, ?_, by rw [zero_mul]; exact roundsZero⟩
      cases isSecond with
      | zero => exact .zero
      | finite sign significand exponent isPositive =>
          obtain rfl := signOfPositive (by positivity) secondLeast
          exact .zero
  | finite sign significand exponent isPositive _ _ _ full =>
      obtain rfl := signOfPositive (by positivity) firstLeast
      cases isSecond with
      | zero => exact ⟨0, .zero, by rw [mul_zero]; exact roundsZero⟩
      | finite otherSign other another otherPositive _ _ _ otherFull =>
          obtain rfl := signOfPositive (by positivity) secondLeast
          have exact : (significand * 2 ^ exponent * (other * 2 ^ another) : ℝ) =
              (significand * other : ℕ) * 2 ^ (exponent + another) := by
            rw [Nat.cast_mul, zpow_add₀ two_ne_zero]
            ring
          rw [signed, signed, exact] at small ⊢
          exact roundForm .positive (by rfl) (productFine isPositive otherPositive full otherFull)
            (Nat.cast_nonneg _) small (.inl rfl)

/-- A quotient and its remainder tell the exact fraction. -/
theorem quotientShows (numerator denominator : ℕ) (isPositive : 0 < denominator) :
    Shows (.ofMantissaAndAccuracy (numerator / denominator)
      (accuracyOfFraction (numerator % denominator) denominator)) (numerator / denominator) := by
  have positive : (0 : ℝ) < denominator := by exact_mod_cast isPositive
  have whole : (numerator : ℝ) =
      denominator * (numerator / denominator : ℕ) + (numerator % denominator : ℕ) := by
    exact_mod_cast (Nat.div_add_mod numerator denominator).symm
  have parts : (numerator / denominator : ℝ) =
      (numerator / denominator : ℕ) + (numerator % denominator : ℕ) / denominator := by
    rw [whole]
    field_simp
  have below : ((numerator % denominator : ℕ) / denominator : ℝ) < 1 := by
    rw [div_lt_one positive]
    exact_mod_cast Nat.mod_lt numerator isPositive
  rw [parts, accuracyOfFraction]
  generalize numerator % denominator = remainder at *
  generalize numerator / denominator = quotient
  by_cases isZero : remainder = 0
  · rw [if_pos isZero, isZero, Nat.cast_zero, zero_div, add_zero]
    rfl
  have above : (0 : ℝ) < remainder / denominator :=
    div_pos (by exact_mod_cast Nat.pos_of_ne_zero isZero) positive
  rw [if_neg isZero]
  rcases lt_trichotomy (2 * remainder) denominator with less | same | greater
  · rw [compare_lt_iff_lt.mpr less]
    have half : (remainder / denominator : ℝ) < 1 / 2 := by
      have doubled : (2 * remainder : ℝ) < denominator := by exact_mod_cast less
      rw [div_lt_iff₀ positive]
      linarith
    show (quotient : ℝ) < _ ∧ _ < (quotient + 1 / 2 : ℝ)
    exact ⟨by linarith, by linarith⟩
  · rw [compare_eq_iff_eq.mpr same]
    have half : (remainder / denominator : ℝ) = 1 / 2 := by
      have doubled : (2 * remainder : ℝ) = denominator := by exact_mod_cast same
      rw [div_eq_iff positive.ne']
      linarith
    exact congrArg (_ + ·) half
  · rw [compare_gt_iff_gt.mpr greater]
    have half : (1 / 2 : ℝ) < remainder / denominator := by
      have doubled : (denominator : ℝ) < 2 * remainder := by exact_mod_cast greater
      rw [lt_div_iff₀ positive]
      linarith
    show (quotient + 1 / 2 : ℝ) < _ ∧ _ < (quotient + 1 : ℝ)
    exact ⟨by linarith, by linarith⟩

/-- The quotient of two significands has enough bits. -/
theorem quotientFine {significand other places : ℕ} {exponent another low : ℤ}
    (isPositive : 0 < significand) (otherPositive : 0 < other)
    (isPlaces : exponent - another - low = places)
    (isLow : low ≤ Format.binary64.targetExponent
      (totalExponent significand exponent - totalExponent other another)) :
    low ≤ Format.binary64.targetExponent
      (totalExponent (significand * 2 ^ places / other) low) := by
  rw [targetOfTotal, totalExponent] at isLow ⊢
  rw [totalExponent] at isLow
  by_cases isLeast : low ≤ -1074
  · omega
  have bits : 53 + other.log2 ≤ significand.log2 + places := by omega
  have enough : 2 ^ 52 ≤ significand * 2 ^ places / other := by
    rw [Nat.le_div_iff_mul_le otherPositive]
    calc 2 ^ 52 * other ≤ 2 ^ 52 * 2 ^ (other.log2 + 1) :=
          Nat.mul_le_mul_left _ Nat.lt_log2_self.le
      _ = 2 ^ (53 + other.log2) := by rw [← pow_add]; congr 1; omega
      _ ≤ 2 ^ (significand.log2 + places) := Nat.pow_le_pow_right Nat.two_pos bits
      _ ≤ significand * 2 ^ places := by
          rw [pow_add]
          exact Nat.mul_le_mul_right _ (Nat.log2_self_le isPositive.ne')
  have := (Nat.le_log2 (by omega)).mpr enough
  omega

theorem divForm {first second : UnpackedFloat} {x y : ℝ} (isFirst : IsForm first x)
    (isSecond : IsForm second y) (firstLeast : 0 ≤ x) (secondPositive : 0 < y)
    (small : x / y < 2 ^ 1000) :
    ∃ result, IsForm (UnpackedFloat.div Format.binary64 first second) result ∧
      Rounds (x / y) result := by
  cases isSecond with
  | zero => exact absurd rfl secondPositive.ne'
  | finite otherSign other another otherPositive =>
      obtain rfl := signOfPositive (by positivity) secondPositive.le
      cases isFirst with
      | zero => exact ⟨0, .zero, by rw [zero_div]; exact roundsZero⟩
      | finite sign significand exponent isPositive =>
          obtain rfl := signOfPositive (by positivity) firstLeast
          rw [UnpackedFloat.div, divCore]
          generalize isLow : min (exponent - another) (Format.binary64.targetExponent
            (totalExponent significand exponent - totalExponent other another)) = low
          obtain ⟨places, isPlaces⟩ := Int.eq_ofNat_of_zero_le
            (sub_nonneg.mpr (isLow ▸ min_le_left _ _ : low ≤ exponent - another))
          have exact : (significand * 2 ^ exponent / (other * 2 ^ another) : ℝ) =
              (significand * 2 ^ places : ℕ) / other * 2 ^ low := by
            have scaled := scaledDown significand places (exponent - another)
            rw [← isPlaces, sub_sub_cancel, zpow_sub₀ two_ne_zero] at scaled
            rw [div_mul_eq_mul_div, scaled]
            field_simp
          rw [signed, signed, exact] at small ⊢
          dsimp only
          rw [isPlaces, Int.toNat_natCast, Nat.shiftLeft_eq]
          exact roundForm .positive (quotientShows _ _ otherPositive)
            (quotientFine isPositive otherPositive isPlaces (isLow ▸ min_le_right _ _))
            (by positivity) small (.inl rfl)

/-! ### Doubles -/

/-- Small numbers are far below the greatest double. -/
theorem limitBelow {number : ℝ} {places : ℕ} (below : number < 2 ^ places)
    (few : places ≤ 1000) : number < 2 ^ 1000 :=
  below.trans_le (pow_le_pow_right₀ one_le_two few)

theorem HasValue.ofNat {number : ℕ} (small : number < 2 ^ 53) :
    HasValue (Scalar.ofNat number) number := by
  have word : (UInt64.ofNat number).toNat = number := by
    rw [UInt64.toNat_ofNat']
    exact Nat.mod_eq_of_lt (small.trans (by decide))
  have size : |((number : ℤ) * 2 ^ (0 : ℤ) : ℝ)| < 2 ^ 1000 := by
    rw [zpow_zero, mul_one, Int.cast_natCast, Nat.abs_cast]
    have below : (number : ℝ) < 2 ^ 53 := by exact_mod_cast small
    exact limitBelow below (by decide)
  obtain ⟨result, isForm, rounds⟩ := normalizeForm (by decide) size
  rw [zpow_zero, mul_one] at rounds
  rw [rounds.whole (by rw [Nat.abs_cast]; exact_mod_cast small), Int.cast_natCast] at isForm
  show HasValue (.ofModel (.pack (UnpackedFloat.normalize Format.binary64
    ((UInt64.ofNat number).toNat : ℤ) 0 .positive))) number
  rw [word]
  exact isForm.packed

section

variable {first second : Float}

theorem HasValue.add {x y : ℝ} (isFirst : HasValue first x) (isSecond : HasValue second y)
    (small : |x + y| < 2 ^ 1000) :
    ∃ result, HasValue (first + second) result ∧ Rounds (x + y) result := by
  obtain ⟨result, isForm, rounds⟩ := addForm isFirst isSecond small
  exact ⟨result, isForm.packed, rounds⟩

theorem HasValue.sub {x y : ℝ} (isFirst : HasValue first x) (isSecond : HasValue second y)
    (small : |x - y| < 2 ^ 1000) :
    ∃ result, HasValue (first - second) result ∧ Rounds (x - y) result := by
  obtain ⟨result, isForm, rounds⟩ := subForm isFirst isSecond small
  exact ⟨result, isForm.packed, rounds⟩

theorem HasValue.mul {x y : ℝ} (isFirst : HasValue first x) (isSecond : HasValue second y)
    (firstLeast : 0 ≤ x) (secondLeast : 0 ≤ y) (small : x * y < 2 ^ 1000) :
    ∃ result, HasValue (first * second) result ∧ Rounds (x * y) result := by
  obtain ⟨result, isForm, rounds⟩ := mulForm isFirst isSecond firstLeast secondLeast small
  exact ⟨result, isForm.packed, rounds⟩

theorem HasValue.div {x y : ℝ} (isFirst : HasValue first x) (isSecond : HasValue second y)
    (firstLeast : 0 ≤ x) (secondPositive : 0 < y) (small : x / y < 2 ^ 1000) :
    ∃ result, HasValue (first / second) result ∧ Rounds (x / y) result := by
  obtain ⟨result, isForm, rounds⟩ := divForm isFirst isSecond firstLeast secondPositive small
  exact ⟨result, isForm.packed, rounds⟩

/-- Whole numbers below 2 ^ 53 are added without rounding. -/
theorem HasValue.addWhole {x y : ℤ} (isFirst : HasValue first x) (isSecond : HasValue second y)
    (small : |x + y| < 2 ^ 53) : HasValue (first + second) (x + y : ℤ) := by
  have below : |(x + y : ℝ)| < 2 ^ 53 := by exact_mod_cast small
  obtain ⟨result, hasValue, rounds⟩ := isFirst.add isSecond (limitBelow below (by decide))
  rw [← Int.cast_add] at rounds
  rwa [rounds.whole small] at hasValue

theorem HasValue.subWhole {x y : ℤ} (isFirst : HasValue first x) (isSecond : HasValue second y)
    (small : |x - y| < 2 ^ 53) : HasValue (first - second) (x - y : ℤ) := by
  have below : |(x - y : ℝ)| < 2 ^ 53 := by exact_mod_cast small
  obtain ⟨result, hasValue, rounds⟩ := isFirst.sub isSecond (limitBelow below (by decide))
  rw [← Int.cast_sub] at rounds
  rwa [rounds.whole small] at hasValue

theorem HasValue.mulWhole {x y : ℕ} (isFirst : HasValue first x) (isSecond : HasValue second y)
    (small : x * y < 2 ^ 53) : HasValue (first * second) (x * y : ℕ) := by
  have below : (x * y : ℝ) < 2 ^ 53 := by exact_mod_cast small
  obtain ⟨result, hasValue, rounds⟩ :=
    isFirst.mul isSecond (Nat.cast_nonneg _) (Nat.cast_nonneg _) (limitBelow below (by decide))
  rw [← Nat.cast_mul, ← Int.cast_natCast] at rounds
  rwa [rounds.whole (by rw [Nat.abs_cast]; exact_mod_cast small)] at hasValue

/-- A whole quotient below 2 ^ 53 is not rounded. -/
theorem HasValue.divWhole {quotient divisor : ℕ} (isFirst : HasValue first (quotient * divisor))
    (isSecond : HasValue second divisor) (isPositive : 0 < divisor) (small : quotient < 2 ^ 53) :
    HasValue (first / second) quotient := by
  have positive : (0 : ℝ) < divisor := by exact_mod_cast isPositive
  have exact : (quotient * divisor / divisor : ℝ) = quotient :=
    mul_div_cancel_right₀ _ positive.ne'
  have below : (quotient * divisor / divisor : ℝ) < 2 ^ 53 := by
    rw [exact]
    exact_mod_cast small
  obtain ⟨result, hasValue, rounds⟩ :=
    isFirst.div isSecond (by positivity) positive (limitBelow below (by decide))
  rw [exact, ← Int.cast_natCast] at rounds
  rwa [rounds.whole (by rw [Nat.abs_cast]; exact_mod_cast small)] at hasValue

theorem HasValue.zero : HasValue (Scalar.ofNat 0) 0 := by
  have isZero := HasValue.ofNat (Nat.two_pow_pos 53)
  rwa [Nat.cast_zero] at isZero

theorem HasValue.larger {x y : ℝ} (isFirst : HasValue first x) (isSecond : HasValue second y) :
    HasValue (Scalar.larger first second) (max x y) := by
  rw [Scalar.larger]
  split
  · next most => rwa [max_eq_right ((isFirst.order isSecond).mp most)]
  · next greater => rwa [max_eq_left (le_of_not_ge (mt (isFirst.order isSecond).mpr greater))]

theorem HasValue.exceeds {x y : ℝ} (isFirst : HasValue first x) (isSecond : HasValue second y) :
    Scalar.exceeds first second = true ↔ y < x := by
  rw [Scalar.exceeds, Bool.not_eq_true', decide_eq_false_iff_not, ← not_le]
  exact not_congr (isFirst.order isSecond)

end

end DeskScript.Decimal
