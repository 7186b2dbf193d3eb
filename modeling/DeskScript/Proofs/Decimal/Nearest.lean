/-
This file shows that an exact number, told by a significand and residual bits, is rounded to the form
of a nearest number. A number that has a form is not changed.
-/

import DeskScript.Proofs.Decimal.Forms

namespace DeskScript.Decimal

open Float.Model Float.Model.UnpackedFloat

/-! ### Residual bits -/

/-- The residual bits of a significand tell where above it the exact number is. -/
def Shows (extended : ExtendedMantissa) (exact : ℝ) : Prop :=
  match extended.roundBit, extended.stickyBit with
  | false, false => exact = extended.mantissa
  | false, true => extended.mantissa < exact ∧ exact < extended.mantissa + 1 / 2
  | true, false => exact = extended.mantissa + 1 / 2
  | true, true => extended.mantissa + 1 / 2 < exact ∧ exact < extended.mantissa + 1

theorem Shows.between {extended : ExtendedMantissa} {exact : ℝ} (shows : Shows extended exact) :
    extended.mantissa ≤ exact ∧ exact < extended.mantissa + 1 := by
  obtain ⟨significand, roundBit, stickyBit⟩ := extended
  cases roundBit <;> cases stickyBit <;> simp only [Shows] at shows ⊢ <;>
    constructor <;> linarith

theorem Shows.near {extended : ExtendedMantissa} {exact : ℝ} (shows : Shows extended exact) :
    |extended.roundedMantissa - exact| ≤ 1 / 2 := by
  obtain ⟨significand, roundBit, stickyBit⟩ := extended
  have parity : ((significand % 2 : ℕ) : ℝ) = 0 ∨ ((significand % 2 : ℕ) : ℝ) = 1 := by
    rcases Nat.mod_two_eq_zero_or_one significand with even | odd
    · exact .inl (by rw [even, Nat.cast_zero])
    · exact .inr (by rw [odd, Nat.cast_one])
  cases roundBit <;> cases stickyBit <;>
    simp only [Shows, ExtendedMantissa.roundedMantissa, ExtendedMantissa.accuracy,
      Accuracy.roundToNearestEven, Nat.cast_add, Nat.cast_one] at shows ⊢ <;>
    rw [abs_le] <;> rcases parity with even | odd <;> constructor <;> linarith

theorem Shows.shiftOne {extended : ExtendedMantissa} {exact : ℝ} (shows : Shows extended exact) :
    Shows extended.shiftRightOne (exact / 2) := by
  obtain ⟨significand, roundBit, stickyBit⟩ := extended
  have halves : (significand : ℝ) = 2 * (significand / 2 : ℕ) + (significand % 2 : ℕ) := by
    exact_mod_cast (Nat.div_add_mod significand 2).symm
  rcases Nat.mod_two_eq_zero_or_one significand with even | odd <;>
  cases roundBit <;> cases stickyBit <;>
    simp [Shows, ExtendedMantissa.shiftRightOne, *] at shows halves ⊢ <;>
    first | linarith | constructor <;> linarith

theorem Shows.shift {extended : ExtendedMantissa} {exact : ℝ} (shows : Shows extended exact)
    (places : ℕ) : Shows (extended >>> places) (exact / 2 ^ places) := by
  show Shows (places.repeat ExtendedMantissa.shiftRightOne extended) _
  induction places with
  | zero => rwa [pow_zero, div_one]
  | succ places inductionHypothesis =>
      rw [Nat.repeat, pow_succ, ← div_div]
      exact inductionHypothesis.shiftOne

/-! ### Rounding -/

theorem targetOfTotal (total : ℤ) :
    Format.binary64.targetExponent total = max (total - 53) (-1074) := rfl

/-- A number is rounded to the nearest multiple of a power of two, so that 53 bits are left. -/
structure RoundsAt (exponent : ℤ) (exact result : ℝ) : Prop where
  least : -1074 ≤ exponent
  full : 2 ^ (exponent + 52) ≤ |exact| ∨ exponent = -1074
  multiple : ∃ number : ℤ, result = number * 2 ^ exponent
  near : |result - exact| ≤ 2 ^ exponent / 2

def Rounds (exact result : ℝ) : Prop := ∃ exponent, RoundsAt exponent exact result

/-- An extended significand and its exponent tell a number up to bits that no double has. -/
structure Settled (parts : ExtendedMantissa × ℤ) (number exact : ℝ) : Prop where
  shows : Shows parts.1 exact
  scaled : exact * 2 ^ parts.2 = number
  least : -1074 ≤ parts.2
  full : 2 ^ 52 ≤ exact ∨ parts.2 = -1074
  below : exact < 2 ^ 53

theorem significandGiven (significand : ℕ) (accuracy : Accuracy) :
    (ExtendedMantissa.ofMantissaAndAccuracy significand accuracy).mantissa = significand := by
  cases accuracy with
  | exact => rfl
  | inexact relative => cases relative <;> rfl

/-- A number with enough bits is shifted to the exponent that its double has. -/
theorem shiftSettles {significand : ℕ} {exponent : ℤ} {accuracy : Accuracy} {exact : ℝ}
    (shows : Shows (.ofMantissaAndAccuracy significand accuracy) exact)
    (fine : exponent ≤ Format.binary64.targetExponent (totalExponent significand exponent)) :
    ∃ shifted, Settled (shiftToTargetExponent Format.binary64 significand exponent accuracy)
      (exact * 2 ^ exponent) shifted := by
  have between := shows.between
  rw [significandGiven] at between
  rw [shiftToTargetExponent, shiftToExponent]
  rw [targetOfTotal, totalExponent] at fine ⊢
  obtain ⟨places, isPlaces⟩ := Int.eq_ofNat_of_zero_le (sub_nonneg.mpr fine)
  rw [isPlaces, Int.toNat_natCast]
  refine ⟨exact / 2 ^ places, shows.shift places, ?_, ?_, ?_, ?_⟩
  · dsimp only
    rw [zpow_add₀ two_ne_zero, zpow_natCast]
    field_simp
  · dsimp only
    omega
  · by_cases isLeast : exponent + places = -1074
    · exact .inr isLeast
    · left
      have bits : significand.log2 = 52 + places := by omega
      have notZero : significand ≠ 0 := by
        rintro rfl
        rw [Nat.log2_zero] at bits
        omega
      have size : (2 ^ 52 * 2 ^ places : ℝ) ≤ significand := by
        rw [← pow_add, ← bits]
        exact_mod_cast Nat.log2_self_le notZero
      rw [le_div_iff₀ (by positivity)]
      exact size.trans between.1
  · have bits : significand.log2 + 1 ≤ 53 + places := by omega
    have size : (significand + 1 : ℝ) ≤ 2 ^ 53 * 2 ^ places := by
      rw [← pow_add]
      exact_mod_cast Nat.succ_le_of_lt
        (Nat.lt_log2_self.trans_le (Nat.pow_le_pow_right Nat.two_pos bits))
    rw [div_lt_iff₀ (by positivity)]
    exact between.2.trans_le size

/-- Rounding may give one bit more, and then all bits but the first are zero. -/
theorem shiftRounded {rounded : ℕ} {exponent : ℤ} (most : rounded ≤ 2 ^ 53)
    (least : -1074 ≤ exponent) :
    shiftToTargetExponent Format.binary64 rounded exponent .exact =
      if rounded < 2 ^ 53 then (⟨rounded, false, false⟩, exponent)
      else (⟨2 ^ 52, false, false⟩, exponent + 1) := by
  rw [shiftToTargetExponent, shiftToExponent, targetOfTotal, totalExponent]
  split
  · next below =>
      have bits : rounded.log2 < 53 := by
        rcases rounded.eq_zero_or_pos with rfl | isPositive
        · rw [Nat.log2_zero]
          omega
        · exact (Nat.log2_lt isPositive.ne').mpr below
      have none : (max ((rounded.log2 + 1 + exponent : ℤ) - 53) (-1074) - exponent).toNat = 0 := by
        omega
      rw [none, Nat.cast_zero, add_zero]
      rfl
  · obtain rfl : rounded = 2 ^ 53 := by omega
    have one : (max (((2 ^ 53 : ℕ).log2 + 1 + exponent : ℤ) - 53) (-1074) - exponent).toNat = 1 := by
      rw [Nat.log2_two_pow]
      omega
    rw [one]
    rfl

theorem Settled.rounds {parts : ExtendedMantissa × ℤ} {number exact : ℝ}
    (settled : Settled parts number exact) (isLeast : 0 ≤ number) :
    RoundsAt parts.2 number (parts.1.roundedMantissa * 2 ^ parts.2) where
  least := settled.least
  full := by
    rcases settled.full with full | isLeast
    · left
      rw [abs_of_nonneg isLeast, ← settled.scaled, add_comm, zpow_add₀ two_ne_zero]
      exact mul_le_mul_of_nonneg_right (by exact_mod_cast full) (by positivity)
    · exact .inr isLeast
  multiple := ⟨parts.1.roundedMantissa, rfl⟩
  near := by
    rw [← settled.scaled, ← sub_mul, abs_mul, abs_of_pos (zpow_pos two_pos parts.2 : (0 : ℝ) < _)]
    have near := mul_le_mul_of_nonneg_right settled.shows.near
      (zpow_pos two_pos parts.2 : (0 : ℝ) < _).le
    linarith

/-- The bits that are left are those of a double. -/
theorem Settled.roundedBits {parts : ExtendedMantissa × ℤ} {number exact : ℝ}
    (settled : Settled parts number exact) :
    parts.1.roundedMantissa ≤ 2 ^ 53 ∧
      (2 ^ 52 ≤ parts.1.roundedMantissa ∨ parts.2 = -1074) := by
  have near := abs_le.mp settled.shows.near
  constructor
  · have below : (parts.1.roundedMantissa : ℝ) < 2 ^ 53 + 1 := by linarith [settled.below]
    exact Nat.lt_succ_iff.mp (by exact_mod_cast below)
  · rcases settled.full with full | isLeast
    · have above : (2 ^ 52 : ℝ) < parts.1.roundedMantissa + 1 := by linarith
      exact .inl (Nat.lt_succ_iff.mp (by exact_mod_cast above))
    · exact .inr isLeast

theorem Settled.positive {parts : ExtendedMantissa × ℤ} {number exact : ℝ}
    (settled : Settled parts number exact) (kept : 2 ^ (-1074 : ℤ) ≤ number) :
    0 < parts.1.roundedMantissa := by
  have one : 1 ≤ exact := by
    rcases settled.full with full | isLeast
    · linarith
    · rw [← settled.scaled, isLeast] at kept
      exact (le_mul_iff_one_le_left (by positivity)).mp kept
  have near := abs_le.mp settled.shows.near
  have positive : (0 : ℝ) < parts.1.roundedMantissa := by linarith
  exact_mod_cast positive

/-- A number below the greatest doubles has an exponent below the greatest one. -/
theorem Settled.most {parts : ExtendedMantissa × ℤ} {number exact : ℝ}
    (settled : Settled parts number exact) (small : number < 2 ^ 1000) : parts.2 < 948 := by
  rcases settled.full with full | isLeast
  · by_contra large
    have power : (2 : ℝ) ^ (948 : ℤ) ≤ 2 ^ parts.2 := zpow_le_zpow_right₀ one_le_two (by omega)
    have product : (2 : ℝ) ^ 52 * 2 ^ (948 : ℤ) ≤ exact * 2 ^ parts.2 :=
      mul_le_mul full power (by positivity) (by linarith)
    have limit : (2 : ℝ) ^ 52 * 2 ^ (948 : ℤ) = 2 ^ 1000 := by
      rw [← zpow_natCast, ← zpow_natCast, ← zpow_add₀ two_ne_zero]
      rfl
    rw [limit, settled.scaled] at product
    exact product.not_gt small
  · omega

theorem RoundsAt.signed {exponent : ℤ} {exact result : ℝ} (rounds : RoundsAt exponent exact result)
    (sign : Sign) : RoundsAt exponent (signed sign exact) (signed sign result) where
  least := rounds.least
  full := by
    cases sign with
    | negative => rw [Decimal.signed, abs_neg]; exact rounds.full
    | positive => exact rounds.full
  multiple := by
    obtain ⟨number, isMultiple⟩ := rounds.multiple
    cases sign with
    | negative => exact ⟨-number, by rw [Decimal.signed, isMultiple, Int.cast_neg, neg_mul]⟩
    | positive => exact ⟨number, isMultiple⟩
  near := by
    rw [signedApart]
    exact rounds.near

/-- What is rounded in this way is the form of a nearest number. -/
theorem roundForm (sign : Sign) {significand : ℕ} {exponent : ℤ} {accuracy : Accuracy} {exact : ℝ}
    (shows : Shows (.ofMantissaAndAccuracy significand accuracy) exact)
    (fine : exponent ≤ Format.binary64.targetExponent (totalExponent significand exponent))
    (isLeast : 0 ≤ exact) (small : exact * 2 ^ exponent < 2 ^ 1000)
    (kept : sign = .positive ∨ 2 ^ (-1074 : ℤ) ≤ exact * 2 ^ exponent) :
    ∃ result, IsForm (roundWithAccuracy Format.binary64 sign significand exponent accuracy) result ∧
      Rounds (signed sign (exact * 2 ^ exponent)) result := by
  obtain ⟨shifted, settled⟩ := shiftSettles shows fine
  have rounds := settled.rounds (mul_nonneg isLeast (by positivity))
  refine ⟨_, ?_, _, rounds.signed sign⟩
  have positive := settled.positive
  have most := settled.most small
  have least := settled.least
  obtain ⟨roundedMost, full⟩ := settled.roundedBits
  unfold roundWithAccuracy
  generalize shiftToTargetExponent Format.binary64 significand exponent accuracy = parts at *
  obtain ⟨extended, target⟩ := parts
  dsimp only at *
  rw [shiftRounded roundedMost least]
  generalize extended.roundedMantissa = rounded at *
  by_cases below : rounded < 2 ^ 53
  · simp only [if_pos below]
    by_cases isZero : rounded = 0
    · rw [dif_pos isZero, isZero, Nat.cast_zero, zero_mul]
      rcases kept with rfl | kept
      · exact .zero
      · exact absurd isZero (positive kept).ne'
    · rw [dif_neg isZero]
      exact .finite sign rounded target _ below least (by omega) full
  · obtain rfl : rounded = 2 ^ 53 := by omega
    have same : ((2 ^ 53 : ℕ) * 2 ^ target : ℝ) = (2 ^ 52 : ℕ) * 2 ^ (target + 1) := by
      rw [zpow_add₀ two_ne_zero]
      norm_num
      ring
    simp only [if_neg below]
    rw [dif_neg (by decide), same]
    exact .finite sign (2 ^ 52) (target + 1) _ (by decide) (by omega) (by omega) (.inl le_rfl)

/-! ### Rounded numbers -/

/-- A number that needs no more than 53 bits is not changed. -/
theorem Rounds.exact {exact result : ℝ} (rounds : Rounds exact result) {significand exponent : ℤ}
    (isExact : exact = significand * 2 ^ exponent) (below : |significand| < 2 ^ 53)
    (least : -1074 ≤ exponent) : result = exact := by
  obtain ⟨target, roundsAt⟩ := rounds
  have positive : (0 : ℝ) < 2 ^ target := zpow_pos two_pos target
  have isLow : target ≤ exponent := by
    rcases roundsAt.full with full | isLeast
    · have size : |exact| < 2 ^ (exponent + 53) := by
        rw [isExact, abs_mul, abs_of_pos (zpow_pos two_pos exponent : (0 : ℝ) < _), add_comm,
          zpow_add₀ two_ne_zero]
        exact mul_lt_mul_of_pos_right (by exact_mod_cast below) (zpow_pos two_pos exponent)
      have := (zpow_lt_zpow_iff_right₀ one_lt_two).mp (full.trans_lt size)
      omega
    · omega
  obtain ⟨places, isPlaces⟩ := Int.eq_ofNat_of_zero_le (sub_nonneg.mpr isLow)
  obtain ⟨number, isMultiple⟩ := roundsAt.multiple
  have whole : exact = (significand * 2 ^ places : ℤ) * 2 ^ target := by
    rw [isExact, show exponent = places + target by omega, zpow_add₀ two_ne_zero, zpow_natCast]
    push_cast
    ring
  have near := roundsAt.near
  rw [isMultiple, whole, ← sub_mul, ← Int.cast_sub, abs_mul, abs_of_pos positive,
    div_eq_mul_inv, mul_comm (2 ^ target : ℝ), mul_le_mul_iff_left₀ positive, ← Int.cast_abs] at near
  have apart : |number - significand * 2 ^ places| < 1 := by
    have : ((|number - significand * 2 ^ places| : ℤ) : ℝ) < 1 := near.trans_lt (by norm_num)
    exact_mod_cast this
  rw [isMultiple, whole, sub_eq_zero.mp (Int.abs_lt_one_iff.mp apart)]

theorem Rounds.whole {number : ℤ} {result : ℝ} (rounds : Rounds number result)
    (below : |number| < 2 ^ 53) : result = number :=
  rounds.exact (by rw [zpow_zero, mul_one]) below (by decide)

/-- Rounding changes a number by little. -/
theorem Rounds.error {exact result : ℝ} (rounds : Rounds exact result) :
    |result - exact| ≤ |exact| / 2 ^ 53 + 1 / 2 ^ 1075 := by
  obtain ⟨target, roundsAt⟩ := rounds
  refine roundsAt.near.trans ?_
  rcases roundsAt.full with full | isLeast
  · have part : (2 : ℝ) ^ target / 2 = 2 ^ (target + 52) / 2 ^ 53 := by
      rw [zpow_add₀ two_ne_zero]
      norm_num
      ring
    rw [part]
    exact (div_le_div_of_nonneg_right full (by positivity)).trans
      (le_add_of_nonneg_right (by positivity))
  · have part : (2 : ℝ) ^ target / 2 = 1 / 2 ^ 1075 := by
      rw [isLeast, zpow_neg, one_div, pow_succ, mul_inv, div_eq_mul_inv]
      rfl
    rw [part]
    exact le_add_of_nonneg_left (by positivity)

theorem Rounds.within {exact result bound : ℝ} (rounds : Rounds exact result)
    (inside : |exact| ≤ bound) (least : 1 ≤ bound) : |result - exact| ≤ bound / 2 ^ 52 := by
  have part : |exact| / 2 ^ 53 ≤ bound / 2 ^ 53 := div_le_div_of_nonneg_right inside (by positivity)
  have rest : (1 : ℝ) / 2 ^ 1075 ≤ bound / 2 ^ 53 := div_le_div₀ (by linarith) least (by positivity)
    (pow_le_pow_right₀ one_le_two (by decide))
  exact (rounds.error.trans (add_le_add part rest)).trans_eq (by ring)

theorem Rounds.nonnegative {exact result : ℝ} (rounds : Rounds exact result)
    (isLeast : 0 ≤ exact) : 0 ≤ result := by
  obtain ⟨target, roundsAt⟩ := rounds
  obtain ⟨number, rfl⟩ := roundsAt.multiple
  have positive : (0 : ℝ) < 2 ^ target := zpow_pos two_pos target
  have near := (abs_le.mp roundsAt.near).1
  have above : (-1 : ℝ) < number := by
    by_contra below
    have product := mul_le_mul_of_nonneg_right (not_lt.mp below) positive.le
    linarith
  have least : (0 : ℤ) ≤ number := by
    have : (-1 : ℤ) < number := by exact_mod_cast above
    omega
  exact mul_nonneg (by exact_mod_cast least) positive.le

end DeskScript.Decimal
