/-
This file says how far the variance of a part of a scene can be trusted. The sums of its pixels and
of their squares are exact. The variance is rounded, and may even differ from zero for a part of one
brightness, but such a part always counts as flat.
-/

import DeskScript.Proofs.Decimal.Arithmetic
import DeskScript.Proofs.Picture.WindowSums

namespace DeskScript

open Decimal

/-- Whole numbers below 2 ^ 53 are added exactly in doubles. -/
def Scalar.exactDoubles : ExactSums Float ℕ where
  scalarOf := ofNat
  IsSmall number := number < 2 ^ 53
  zero := rfl
  add first second small := by
    have isFirst : HasValue (ofNat first) (first : ℤ) := .ofNat (by omega)
    have isSecond : HasValue (ofNat second) (second : ℤ) := .ofNat (by omega)
    have isSum := isFirst.addWhole isSecond (by rw [abs_of_nonneg (by positivity)]; omega)
    exact isSum.unique (by exact_mod_cast HasValue.ofNat small)
  terms _ _ small := by omega

namespace Picture

/-! ### Whole sums -/

section

variable (picture : Picture) (value : UInt8 → ℕ)

theorem sumInMono {width height wider higher : ℕ} (wide : width ≤ wider) (high : height ≤ higher)
    (left top : ℕ) : picture.sumIn value left top width height ≤
      picture.sumIn value left top wider higher := by
  refine (Finset.sum_le_sum fun row _ => ?_).trans
    (Finset.sum_le_sum_of_subset (Finset.range_mono high))
  exact Finset.sum_le_sum_of_subset (Finset.range_mono wide)

/-- This is the sum over all pixels of a picture. -/
def sumAllOf : ℕ := picture.sumIn value 0 0 picture.width picture.height

theorem sumInInside {x y width height : ℕ} (insideX : x + width ≤ picture.width)
    (insideY : y + height ≤ picture.height) :
    picture.sumIn value x y width height ≤ picture.sumAllOf value := by
  have corners := picture.sumInCorners value x y width height
  have whole : _ ≤ picture.sumAllOf value := picture.sumInMono value insideX insideY 0 0
  have above := picture.sumInMono value (Nat.le_add_right x width) (le_refl y) 0 0
  omega

variable {value} in
theorem sumInMost {most : ℕ} (below : ∀ brightness, value brightness ≤ most)
    (left top width height : ℕ) :
    picture.sumIn value left top width height ≤ width * height * most := by
  have rows (row : ℕ) : ∑ column ∈ Finset.range width,
      value (picture.brightness (left + column) (top + row)) ≤ width * most := by
    simpa using Finset.sum_le_card_nsmul (Finset.range width) _ most fun column _ => below _
  calc picture.sumIn value left top width height ≤ height * (width * most) := by
        simpa [sumIn] using Finset.sum_le_card_nsmul (Finset.range height) _ _ fun row _ => rows row
    _ = width * height * most := by ring

end

/-- This is the square of the brightness of a pixel. -/
def square (brightness : UInt8) : ℕ := brightness.toNat ^ 2

theorem squareMost (brightness : UInt8) : square brightness ≤ 65025 := by
  have below : brightness.toNat ≤ 255 := Nat.le_of_lt_succ brightness.toNat_lt
  exact Nat.pow_le_pow_left below 2

theorem sumInSquares (picture : Picture) (left top width height : ℕ) :
    picture.sumIn UInt8.toNat left top width height ≤
      picture.sumIn square left top width height :=
  Finset.sum_le_sum fun _ _ => Finset.sum_le_sum fun _ _ => Nat.le_self_pow two_ne_zero _

/-! ### Windows of sum tables -/

/-- A window of a table of doubles is the sum over the pixels in it. -/
theorem windowWhole (picture : Picture) (value : UInt8 → ℕ)
    (small : picture.sumAllOf value < 2 ^ 53) {x y width height : ℕ}
    (insideX : x + width ≤ picture.width) (insideY : y + height ≤ picture.height) :
    (picture.sumTable fun brightness => (Scalar.ofNat (value brightness) : Float)).window x y width
      height = Scalar.ofNat (picture.sumIn value x y width height) := by
  have below {x y : ℕ} (inX : x ≤ picture.width) (inY : y ≤ picture.height) :
      picture.sumIn value 0 0 x y < 2 ^ 53 := (picture.sumInMono value inX inY 0 0).trans_lt small
  have entry {x y : ℕ} (inX : x ≤ picture.width) (inY : y ≤ picture.height) :
      HasValue ((picture.sumTable fun brightness => Scalar.ofNat (value brightness)).entry x y)
        ((picture.sumIn value 0 0 x y : ℕ) : ℤ) := by
    have exact := entryExact Scalar.exactDoubles (fun x inX y inY => below inX inY) inX inY
    exact exact ▸ .ofNat (below inX inY)
  have inX : x ≤ picture.width := by omega
  have inY : y ≤ picture.height := by omega
  have corners := picture.sumInCorners value x y width height
  have sum := (picture.sumInInside value insideX insideY).trans_lt small
  have whole := below insideX insideY
  have top := below insideX inY
  have side := below inX insideY
  have corner := below inX inY
  rw [SumTable.window]
  have rest := (entry insideX insideY).subWhole (entry insideX inY) (by rw [abs_lt]; omega)
  have difference := rest.subWhole (entry inX insideY) (by rw [abs_lt]; omega)
  have exact := difference.addWhole (entry inX inY) (by rw [abs_lt]; omega)
  refine exact.unique ?_
  have same : ((picture.sumIn value 0 0 (x + width) (y + height) : ℕ) -
      (picture.sumIn value 0 0 (x + width) y : ℕ) - (picture.sumIn value 0 0 x (y + height) : ℕ) +
        (picture.sumIn value 0 0 x y : ℕ) : ℤ) = (picture.sumIn value x y width height : ℕ) := by
    omega
  rw [same]
  exact .ofNat sum

/-! ### Exact variances -/

/-- This is the exact variance of the levels of a picture. -/
noncomputable def exactVariance (picture : Picture) : ℝ :=
  picture.spread / (picture.width * picture.height : ℕ)

/-- A flat picture is of one brightness. -/
def IsFlat (picture : Picture) : Prop := ∀ index < picture.width * picture.height,
  picture.pixels.getD index 0 = picture.pixels.getD 0 0

theorem countVariance (picture : Picture) :
    (picture.width * picture.height : ℕ) * picture.exactVariance = picture.spread := by
  rcases (picture.width * picture.height).eq_zero_or_pos with empty | positive
  · rw [spread, empty, Nat.cast_zero, zero_mul, Finset.range_zero, Finset.sum_empty]
  · exact mul_div_cancel₀ _ (by exact_mod_cast positive.ne')

theorem spreadFlat (picture : Picture) : picture.spread = 0 ↔ picture.IsFlat := by
  constructor
  · intro none index below
    by_contra unlike
    have apart := spreadUnlike index 0 below (Nat.zero_lt_of_lt below) unlike
    rw [none] at apart
    norm_num at apart
  · exact spreadAlike

variable {scene picture : Picture} {x y : ℕ}

/-- This is the part of a scene on which a picture lies. -/
def covered (scene picture : Picture) (x y : ℕ) : Picture :=
  scene.crop x y picture.width picture.height

theorem coveredPixel {index : ℕ} (below : index < picture.width * picture.height) :
    (covered scene picture x y).pixels.getD index 0 = under scene picture x y index := by
  simp [covered, crop, generate, under, below]

theorem sumUnderWhole (value : UInt8 → ℕ) :
    sumUnder scene picture x y (fun brightness => value brightness) =
      (scene.sumIn value x y picture.width picture.height : ℕ) := by
  rw [sumIn, Nat.cast_sum]
  simp only [Nat.cast_sum]
  exact (sumOfRows _ _ fun column row =>
    (value (scene.brightness (x + column) (y + row)) : ℝ)).symm

/-- The spread of the pixels under a picture is told from their sum and the sum of their squares. -/
theorem spreadUnder : (covered scene picture x y).spread =
    (scene.sumIn square x y picture.width picture.height : ℕ) -
      ((scene.sumIn UInt8.toNat x y picture.width picture.height : ℕ) : ℝ) ^ 2 /
        (picture.width * picture.height : ℕ) := by
  have sums (value : UInt8 → ℕ) : ((scene.sumIn value x y picture.width picture.height : ℕ) : ℝ) =
      ∑ index ∈ Finset.range (picture.width * picture.height),
        (value ((covered scene picture x y).pixels.getD index 0) : ℝ) := by
    rw [← sumUnderWhole, sumUnder]
    exact Finset.sum_congr rfl fun index below => by rw [coveredPixel (Finset.mem_range.mp below)]
  rw [spreadSquares, sums, sums, sq]
  simp only [square, sq, Nat.cast_mul]
  rfl

/-! ### Rounded variances -/

section

variable {sum squares count : Float} {total totalSquares number : ℕ}

/-- A variance is not rounded if the square of the sum is exact and so is its quotient. -/
theorem wholeVariance (isSum : HasValue sum total) (isSquares : HasValue squares totalSquares)
    (isCount : HasValue count number) (isPositive : 0 < number) (small : total ^ 2 < 2 ^ 53)
    (squaresSmall : totalSquares < 2 ^ 53) {quotient : ℕ} (whole : total ^ 2 = quotient * number)
    (least : quotient ≤ totalSquares) :
    HasValue (Scalar.larger (Scalar.ofNat 0) (squares - sum * sum / count))
      (totalSquares - quotient) := by
  have product := isSum.mulWhole isSum (by rwa [← sq])
  rw [← sq, whole, Nat.cast_mul] at product
  have isQuotient := product.divWhole isCount isPositive (by omega)
  rw [← Int.cast_natCast] at isQuotient isSquares
  have difference := isSquares.subWhole isQuotient (by rw [abs_lt]; omega)
  have larger := HasValue.zero.larger difference
  rwa [max_eq_right (by exact_mod_cast sub_nonneg.mpr (Int.ofNat_le.mpr least)), Int.cast_sub,
    Int.cast_natCast, Int.cast_natCast] at larger

theorem largerNear {number exact bound : ℝ} (isLeast : 0 ≤ exact)
    (near : |number - exact| ≤ bound) : |max 0 number - exact| ≤ bound := by
  have larger := abs_max_sub_max_le_abs number exact 0
  rw [max_comm number, max_eq_left isLeast] at larger
  exact larger.trans near

/-- The square of a sum divided by the number of pixels is rounded twice. -/
theorem squaredNear (isSum : HasValue sum total) (isCount : HasValue count number)
    (isPositive : 0 < number) (small : total < 2 ^ 53) {bound : ℝ}
    (least : (total ^ 2 / number : ℝ) ≤ bound) (one : 1 ≤ bound) (below : bound < 2 ^ 53) :
    ∃ quotient, HasValue (sum * sum / count) quotient ∧
      |quotient - total ^ 2 / number| ≤ 9 / 4 * bound / 2 ^ 52 := by
  have positive : (1 : ℝ) ≤ number := by exact_mod_cast isPositive
  have totalBelow : (total : ℝ) < 2 ^ 53 := by exact_mod_cast small
  have area : (1 : ℝ) ≤ bound * number := one_le_mul_of_one_le_of_one_le one positive
  have scaled : (total * total : ℝ) ≤ bound * number := by
    rwa [div_le_iff₀ (by positivity), sq] at least
  have large {number : ℝ} (below : number < 2 ^ 106) : number < 2 ^ 1000 :=
    limitBelow below (by decide)
  obtain ⟨product, isProduct, productRounds⟩ := isSum.mul isSum (by positivity) (by positivity)
    (large ((mul_lt_mul'' totalBelow totalBelow (by positivity) (by positivity)).trans_eq
      (pow_add 2 53 53).symm))
  have productNear : |product - total * total| ≤ bound * number / 2 ^ 52 :=
    productRounds.within (by rwa [abs_of_nonneg (by positivity)]) area
  have productLeast := productRounds.nonnegative (by positivity)
  have partNear : |product / number - total ^ 2 / number| ≤ bound / 2 ^ 52 := by
    rw [← sub_div, abs_div, abs_of_pos (by positivity : (0 : ℝ) < number), sq,
      div_le_iff₀ (by positivity), div_mul_eq_mul_div]
    exact productNear
  have partBetween := abs_le.mp partNear
  have partLeast : 0 ≤ product / number := div_nonneg productLeast (by positivity)
  obtain ⟨quotient, isQuotient, quotientRounds⟩ :=
    isProduct.div isCount productLeast (by positivity) (large (by linarith))
  have quotientNear : |quotient - product / number| ≤ 5 / 4 * bound / 2 ^ 52 :=
    quotientRounds.within (by rw [abs_of_nonneg partLeast]; linarith) (by linarith)
  have quotientBetween := abs_le.mp quotientNear
  refine ⟨quotient, isQuotient, ?_⟩
  rw [abs_le]
  constructor <;> linarith

/-- The variance of doubles is the exact one up to three roundings. -/
theorem roundedVariance (isSum : HasValue sum total) (isSquares : HasValue squares totalSquares)
    (isCount : HasValue count number) (isPositive : 0 < number) (small : total < 2 ^ 53)
    (squaresSmall : totalSquares < 2 ^ 53)
    (least : (total ^ 2 / number : ℝ) ≤ totalSquares) :
    ∃ variance, HasValue (Scalar.larger (Scalar.ofNat 0) (squares - sum * sum / count)) variance ∧
      |variance - (totalSquares - total ^ 2 / number)| ≤ totalSquares / 2 ^ 50 := by
  rcases totalSquares.eq_zero_or_pos with rfl | squaresPositive
  · have none : (total ^ 2 : ℝ) ≤ 0 := by
      rwa [div_le_iff₀ (by exact_mod_cast isPositive), Nat.cast_zero, zero_mul] at least
    obtain rfl : total = 0 := by
      exact_mod_cast pow_eq_zero_iff two_ne_zero |>.mp (le_antisymm none (by positivity))
    have isZero := wholeVariance isSum isSquares isCount isPositive (by decide) (by decide)
      (Nat.zero_mul number).symm le_rfl
    exact ⟨_, isZero, by simp⟩
  have one : (1 : ℝ) ≤ totalSquares := by exact_mod_cast squaresPositive
  have below : (totalSquares : ℝ) < 2 ^ 53 := by exact_mod_cast squaresSmall
  obtain ⟨quotient, isQuotient, quotientNear⟩ :=
    squaredNear isSum isCount isPositive small least one below
  have quotientBetween := abs_le.mp quotientNear
  have partLeast : (0 : ℝ) ≤ total ^ 2 / number := by positivity
  have restMost : |(totalSquares - quotient : ℝ)| ≤ 5 / 4 * totalSquares := by
    rw [abs_le]
    constructor <;> linarith
  have restBelow : |(totalSquares - quotient : ℝ)| < 2 ^ 54 := by linarith
  obtain ⟨difference, isDifference, differenceRounds⟩ :=
    isSquares.sub isQuotient (limitBelow restBelow (by decide))
  have differenceNear := abs_le.mp (differenceRounds.within restMost (by linarith))
  refine ⟨_, HasValue.zero.larger isDifference, largerNear (sub_nonneg.mpr least) ?_⟩
  rw [abs_le]
  constructor <;> linarith

end

theorem blankVariance : (Scalar.larger (Scalar.ofNat 0) (Scalar.ofNat 0 -
    Scalar.ofNat 0 * Scalar.ofNat 0 / Scalar.ofNat 0) : Float) = Scalar.ofNat 0 := by
  rfl

namespace Correlation

theorem squareLevels : (fun brightness => level brightness * level brightness : UInt8 → Float) =
    fun brightness => Scalar.ofNat (square brightness) := by
  funext brightness
  have small := brightness.toNat_lt
  have product : brightness.toNat * brightness.toNat < 2 ^ 53 := by nlinarith
  have isLevel : HasValue (level brightness) brightness.toNat := .ofNat (by omega)
  rw [square, sq]
  exact (isLevel.mulWhole isLevel product).unique (.ofNat product)

/-- The bound below which variances count as zero is nearly exact. -/
theorem leastVarianceAbove {number : ℕ} (isPositive : 0 < number) (small : number < 2 ^ 32) :
    ∃ bound, HasValue (leastVariance * Scalar.ofNat number) bound ∧
      (number / 2000000 : ℝ) < bound := by
  have one : HasValue (Scalar.ofNat 1) 1 := by exact_mod_cast HasValue.ofNat (by decide : 1 < 2 ^ 53)
  have million : HasValue (Scalar.ofNat 1000000) 1000000 := by
    exact_mod_cast HasValue.ofNat (by decide : 1000000 < 2 ^ 53)
  have large {bound : ℝ} (below : bound < 2 ^ 32) : bound < 2 ^ 1000 :=
    limitBelow below (by decide)
  have isNumber : HasValue (Scalar.ofNat number) number := .ofNat (by omega)
  have positive : (1 : ℝ) ≤ number := by exact_mod_cast isPositive
  have below : (number : ℝ) < 2 ^ 32 := by exact_mod_cast small
  obtain ⟨least, isLeast, leastRounds⟩ :=
    one.div million zero_le_one (by norm_num) (large (by norm_num))
  have leastNear := abs_le.mp (leastRounds.within (by norm_num) le_rfl)
  have leastPositive := leastRounds.nonnegative (by norm_num)
  have product : least * number ≤ number := by nlinarith
  obtain ⟨bound, isBound, boundRounds⟩ :=
    isLeast.mul isNumber leastPositive (by positivity) (large (by linarith))
  have boundNear := abs_le.mp (boundRounds.within (by rwa [abs_of_nonneg (by positivity)]) positive)
  refine ⟨bound, isBound, ?_⟩
  have productLeast : (1 / 1000000 - 1 / 2 ^ 52) * number ≤ least * number :=
    mul_le_mul_of_nonneg_right (by linarith) (by positivity)
  linarith

section

variable (insideX : x + picture.width ≤ scene.width) (insideY : y + picture.height ≤ scene.height)
  (small : scene.sumAllOf square < 2 ^ 53)

include insideX insideY small

theorem sumsWhole : (of scene picture : Correlation Float).sums.window x y picture.width
    picture.height = Scalar.ofNat (scene.sumIn UInt8.toNat x y picture.width picture.height) :=
  scene.windowWhole UInt8.toNat ((scene.sumInSquares _ _ _ _).trans_lt small) insideX insideY

theorem squaresWhole : (of scene picture : Correlation Float).squares.window x y picture.width
    picture.height = Scalar.ofNat (scene.sumIn square x y picture.width picture.height) := by
  have table : (of scene picture : Correlation Float).squares =
      scene.sumTable fun brightness => Scalar.ofNat (square brightness) := by
    rw [← squareLevels]
    rfl
  rw [table, scene.windowWhole _ small insideX insideY]

theorem varianceWhole : (of scene picture : Correlation Float).variance x y =
    Scalar.larger (Scalar.ofNat 0)
      (Scalar.ofNat (scene.sumIn square x y picture.width picture.height) -
        Scalar.ofNat (scene.sumIn UInt8.toNat x y picture.width picture.height) *
            Scalar.ofNat (scene.sumIn UInt8.toNat x y picture.width picture.height) /
          Scalar.ofNat (picture.width * picture.height)) := by
  have width : (of scene picture : Correlation Float).width = picture.width := rfl
  have height : (of scene picture : Correlation Float).height = picture.height := rfl
  rw [variance, width, height, sumsWhole insideX insideY small, squaresWhole insideX insideY small]

end

/--
A place is summed well if the windows of both tables are the sums over the pixels that the picture
lies on, so that the variance is told by these pixels alone. Only the variance is rounded. The
number of pixels is a word of 32 bits wherever that matters.
-/
structure IsSummed (scene picture : Picture) (x y : ℕ) : Prop where
  sums : (of scene picture : Correlation Float).sums.window x y picture.width picture.height =
    Scalar.ofNat (scene.sumIn UInt8.toNat x y picture.width picture.height)
  squares : (of scene picture : Correlation Float).squares.window x y picture.width
    picture.height = Scalar.ofNat (scene.sumIn square x y picture.width picture.height)
  /-- Rounding changes the exact variance times the number of pixels by little. -/
  rounded : picture.width * picture.height < 2 ^ 32 → ∃ variance,
    HasValue ((of scene picture : Correlation Float).variance x y) variance ∧
    |variance - (picture.width * picture.height : ℕ) *
        (covered scene picture x y).exactVariance| ≤
      (scene.sumIn square x y picture.width picture.height : ℕ) / 2 ^ 50
  /-- Nothing is rounded if the square of the sum is exact and so is its quotient. -/
  unrounded : picture.width * picture.height < 2 ^ 32 →
    scene.sumIn UInt8.toNat x y picture.width picture.height ^ 2 < 2 ^ 53 →
    picture.width * picture.height ∣
      scene.sumIn UInt8.toNat x y picture.width picture.height ^ 2 →
    HasValue ((of scene picture : Correlation Float).variance x y)
      ((picture.width * picture.height : ℕ) * (covered scene picture x y).exactVariance)
  onlyFlat : picture.width * picture.height < 2 ^ 32 →
    (of scene picture : Correlation Float).variance x y = Scalar.ofNat 0 →
    (covered scene picture x y).IsFlat
  /-- A flat part has no variance if the square of its sum is exact. -/
  flatZero : picture.width * picture.height < 2 ^ 32 →
    scene.sumIn UInt8.toNat x y picture.width picture.height ^ 2 < 2 ^ 53 →
    (covered scene picture x y).IsFlat →
    (of scene picture : Correlation Float).variance x y = Scalar.ofNat 0
  /-- Whatever has been rounded, a flat part is below the bound of the score. -/
  flatCounts : 0 < picture.width * picture.height → picture.width * picture.height < 2 ^ 32 →
    (covered scene picture x y).IsFlat →
    Scalar.exceeds (leastVariance * Scalar.ofNat (picture.width * picture.height))
      ((of scene picture : Correlation Float).variance x y) = true
  /-- The pixels beside the picture do not matter. -/
  alone : ∀ (other : Picture) (otherX otherY : ℕ), otherX + picture.width ≤ other.width →
    otherY + picture.height ≤ other.height → other.sumAllOf square < 2 ^ 53 →
    (∀ column < picture.width, ∀ row < picture.height, scene.brightness (x + column) (y + row) =
      other.brightness (otherX + column) (otherY + row)) →
    (of other picture : Correlation Float).variance otherX otherY =
      (of scene picture).variance x y

section

variable (insideX : x + picture.width ≤ scene.width) (insideY : y + picture.height ≤ scene.height)
  (small : scene.sumAllOf square < 2 ^ 53)

include insideX insideY small

theorem coveredSquaresSmall : scene.sumIn square x y picture.width picture.height < 2 ^ 53 :=
  (scene.sumInInside square insideX insideY).trans_lt small

/-- The variance of doubles is near the spread of the pixels under the picture. -/
theorem varianceNear (few : picture.width * picture.height < 2 ^ 32) : ∃ variance,
    HasValue ((of scene picture : Correlation Float).variance x y) variance ∧
    |variance - (covered scene picture x y).spread| ≤
      (scene.sumIn square x y picture.width picture.height : ℕ) / 2 ^ 50 := by
  have squaresSmall := coveredSquaresSmall insideX insideY small
  have sumSmall := (scene.sumInSquares x y picture.width picture.height).trans_lt squaresSmall
  rw [varianceWhole insideX insideY small, spreadUnder]
  rcases (picture.width * picture.height).eq_zero_or_pos with none | positive
  · have noSquares := scene.sumInMost squareMost x y picture.width picture.height
    have noSum := scene.sumInSquares x y picture.width picture.height
    rw [none, Nat.zero_mul, Nat.le_zero] at noSquares
    rw [noSquares, Nat.le_zero] at noSum
    rw [none, noSquares, noSum, blankVariance]
    exact ⟨0, .zero, by simp⟩
  · refine roundedVariance (.ofNat sumSmall) (.ofNat squaresSmall) (.ofNat (by omega)) positive
      sumSmall squaresSmall (sub_nonneg.mp ?_)
    rw [← spreadUnder]
    exact spreadPositive _

/-- An uneven part has a variance above zero in doubles, too. -/
theorem zeroFlat (few : picture.width * picture.height < 2 ^ 32)
    (isZero : (of scene picture : Correlation Float).variance x y = Scalar.ofNat 0) :
    (covered scene picture x y).IsFlat := by
  obtain ⟨variance, hasValue, near⟩ := varianceNear insideX insideY small few
  have none : variance = 0 := hasValue.same (isZero ▸ .zero)
  have most := scene.sumInMost squareMost x y picture.width picture.height
  have squares : ((scene.sumIn square x y picture.width picture.height : ℕ) : ℝ) ≤ 2 ^ 48 := by
    exact_mod_cast (by omega : scene.sumIn square x y picture.width picture.height ≤ 2 ^ 48)
  refine (spreadFlat _).mp ((spreadCases _).resolve_right fun uneven => ?_)
  rw [none, zero_sub, abs_neg, abs_of_nonneg (spreadPositive _)] at near
  linarith

/-- The variance is exact where the square of the sum and its quotient are. -/
theorem varianceUnrounded (few : picture.width * picture.height < 2 ^ 32)
    (sumSmall : scene.sumIn UInt8.toNat x y picture.width picture.height ^ 2 < 2 ^ 53)
    (divides : picture.width * picture.height ∣
      scene.sumIn UInt8.toNat x y picture.width picture.height ^ 2) :
    HasValue ((of scene picture : Correlation Float).variance x y)
      (covered scene picture x y).spread := by
  have squaresSmall := coveredSquaresSmall insideX insideY small
  rcases (picture.width * picture.height).eq_zero_or_pos with empty | positive
  · obtain ⟨variance, hasValue, near⟩ := varianceNear insideX insideY small few
    have noSquares := scene.sumInMost squareMost x y picture.width picture.height
    rw [empty, Nat.zero_mul, Nat.le_zero] at noSquares
    rw [noSquares, Nat.cast_zero, zero_div] at near
    rwa [sub_eq_zero.mp (abs_nonpos_iff.mp near)] at hasValue
  · have least := spreadPositive (covered scene picture x y)
    have count : (0 : ℝ) < (picture.width * picture.height : ℕ) := by exact_mod_cast positive
    obtain ⟨quotient, whole⟩ := divides
    rw [mul_comm] at whole
    have exact : ((scene.sumIn UInt8.toNat x y picture.width picture.height : ℕ) : ℝ) ^ 2 /
        (picture.width * picture.height : ℕ) = quotient := by
      rw [div_eq_iff count.ne']
      exact_mod_cast whole
    rw [spreadUnder, exact] at least ⊢
    rw [varianceWhole insideX insideY small]
    exact wholeVariance (.ofNat ((Nat.le_self_pow two_ne_zero _).trans_lt sumSmall))
      (.ofNat squaresSmall) (.ofNat (by omega)) positive sumSmall squaresSmall whole
      (by exact_mod_cast sub_nonneg.mp least)

theorem flatZero (few : picture.width * picture.height < 2 ^ 32)
    (sumSmall : scene.sumIn UInt8.toNat x y picture.width picture.height ^ 2 < 2 ^ 53)
    (isFlat : (covered scene picture x y).IsFlat) :
    (of scene picture : Correlation Float).variance x y = Scalar.ofNat 0 := by
  have none := (spreadFlat _).mpr isFlat
  have divides : picture.width * picture.height ∣
      scene.sumIn UInt8.toNat x y picture.width picture.height ^ 2 := by
    rcases (picture.width * picture.height).eq_zero_or_pos with empty | positive
    · have noSquares := scene.sumInMost squareMost x y picture.width picture.height
      have noSum := scene.sumInSquares x y picture.width picture.height
      rw [empty, Nat.zero_mul, Nat.le_zero] at noSquares
      rw [noSquares, Nat.le_zero] at noSum
      rw [noSum]
      exact dvd_zero _
    · have count : ((picture.width * picture.height : ℕ) : ℝ) ≠ 0 := by
        exact_mod_cast positive.ne'
      rw [spreadUnder, sub_eq_zero, eq_div_iff count] at none
      exact Dvd.intro_left _ (by exact_mod_cast none)
  have hasValue := varianceUnrounded insideX insideY small few sumSmall divides
  rw [(spreadFlat _).mpr isFlat] at hasValue
  exact hasValue.unique .zero

theorem flatCounts (positive : 0 < picture.width * picture.height)
    (few : picture.width * picture.height < 2 ^ 32)
    (isFlat : (covered scene picture x y).IsFlat) :
    Scalar.exceeds (leastVariance * Scalar.ofNat (picture.width * picture.height))
      ((of scene picture : Correlation Float).variance x y) = true := by
  obtain ⟨variance, hasValue, near⟩ := varianceNear insideX insideY small few
  obtain ⟨bound, isBound, above⟩ := leastVarianceAbove positive few
  have most := scene.sumInMost squareMost x y picture.width picture.height
  have squares : ((scene.sumIn square x y picture.width picture.height : ℕ) : ℝ) ≤
      (picture.width * picture.height : ℕ) * 65025 := by exact_mod_cast most
  have count : (0 : ℝ) < (picture.width * picture.height : ℕ) := by exact_mod_cast positive
  rw [(spreadFlat _).mpr isFlat, sub_zero] at near
  rw [isBound.exceeds hasValue]
  linarith [le_abs_self variance]

end

/-- Every place inside a scene is summed well as long as the squares of its pixels are exact. -/
theorem windowsSummed (insideX : x + picture.width ≤ scene.width)
    (insideY : y + picture.height ≤ scene.height) (small : scene.sumAllOf square < 2 ^ 53) :
    IsSummed scene picture x y where
  sums := sumsWhole insideX insideY small
  squares := squaresWhole insideX insideY small
  rounded few := by
    obtain ⟨variance, hasValue, near⟩ := varianceNear insideX insideY small few
    exact ⟨variance, hasValue, (countVariance (covered scene picture x y)).symm ▸ near⟩
  unrounded few sumSmall divides :=
    (countVariance (covered scene picture x y)).symm ▸
      varianceUnrounded insideX insideY small few sumSmall divides
  onlyFlat := zeroFlat insideX insideY small
  flatZero := flatZero insideX insideY small
  flatCounts := flatCounts insideX insideY small
  alone other otherX otherY otherInsideX otherInsideY otherSmall agree := by
    rw [varianceWhole insideX insideY small, varianceWhole otherInsideX otherInsideY otherSmall,
      sumInAgrees agree, sumInAgrees agree]

/-- The brightness of these pixels grows from left to right and from row to row. -/
def stairs : Picture := generate 3 2 fun x y => UInt8.ofNat (10 * y + x)

def pair : Picture := generate 2 1 fun x _ => UInt8.ofNat x

theorem windowsSummedStairs : 1 + pair.width ≤ stairs.width ∧ 1 + pair.height ≤ stairs.height ∧
    stairs.sumAllOf square < 2 ^ 53 ∧ IsSummed stairs pair 1 1 ∧
    stairs.sumIn UInt8.toNat 1 1 2 1 = 11 + 12 ∧ stairs.sumIn square 1 1 2 1 = 11 ^ 2 + 12 ^ 2 := by
  have small : stairs.sumAllOf square < 2 ^ 53 := by decide
  exact ⟨by decide, by decide, small, windowsSummed (by decide) (by decide) small, by decide,
    by decide⟩

/-- This is one row of pixels that are alike but for the first one. -/
def strip (first rest : UInt8) (count : ℕ) : Picture :=
  generate (count + 1) 1 fun x _ => if x = 0 then first else rest

section

variable (first rest : UInt8) (count : ℕ)

theorem sumAllStrip (value : UInt8 → ℕ) :
    (strip first rest count).sumAllOf value = count * value rest + value first := by
  have pixel {x : ℕ} (inside : x < count + 1) :
      (strip first rest count).brightness x 0 = if x = 0 then first else rest :=
    brightnessGenerate _ _ _ x 0 inside Nat.one_pos
  have row : (strip first rest count).sumAllOf value =
      ∑ x ∈ Finset.range (count + 1), value ((strip first rest count).brightness x 0) := by
    simp [sumAllOf, sumIn, strip, generate]
  rw [row, Finset.sum_range_succ', pixel (Nat.succ_pos count), if_pos rfl]
  have others (x : ℕ) (below : x ∈ Finset.range count) :
      value ((strip first rest count).brightness (x + 1) 0) = value rest := by
    rw [pixel (Nat.succ_lt_succ (Finset.mem_range.mp below)), if_neg x.succ_ne_zero]
  rw [Finset.sum_congr rfl others, Finset.sum_const, Finset.card_range, smul_eq_mul]

theorem countStrip : (strip first rest count).width * (strip first rest count).height = count + 1 :=
  Nat.mul_one _

/-- A strip is compared with itself. -/
theorem varianceStrip (small : (strip first rest count).sumAllOf square < 2 ^ 53) :
    (of (strip first rest count) (strip first rest count) : Correlation Float).variance 0 0 =
      Scalar.larger (Scalar.ofNat 0) (Scalar.ofNat (count * square rest + square first) -
        Scalar.ofNat (count * rest.toNat + first.toNat) *
          Scalar.ofNat (count * rest.toNat + first.toNat) / Scalar.ofNat (count + 1)) := by
  rw [varianceWhole (by omega) (by omega) small, ← sumAllOf, ← sumAllOf, sumAllStrip, sumAllStrip,
    countStrip]

theorem spreadStrip : (covered (strip first rest count) (strip first rest count) 0 0).spread =
    (count * square rest + square first : ℕ) -
      ((count * rest.toNat + first.toNat : ℕ) : ℝ) ^ 2 / (count + 1 : ℕ) := by
  rw [spreadUnder, ← sumAllOf, ← sumAllOf, sumAllStrip, sumAllStrip, countStrip]

theorem flatStrip : (covered (strip rest rest count) (strip rest rest count) 0 0).IsFlat := by
  rw [← spreadFlat, spreadStrip, sub_eq_zero, eq_div_iff (by positivity), square]
  push_cast
  ring

end

/--
A variance may be rounded. It is not zero for a white row of 372183 pixels, and among 999999 pixels
one that differs a little is seen, although the exact variance is below the bound of the score.
-/
theorem varianceNotExact :
    ((strip 255 255 372182).sumAllOf square < 2 ^ 53 ∧
      (covered (strip 255 255 372182) (strip 255 255 372182) 0 0).IsFlat ∧
      (of (strip 255 255 372182) (strip 255 255 372182) : Correlation Float).variance 0 0 ≠
        Scalar.ofNat 0) ∧
    (strip 3 2 999998).sumAllOf square < 2 ^ 53 ∧
      999999 * (covered (strip 3 2 999998) (strip 3 2 999998) 0 0).exactVariance <
        999999 / 1000000 ∧
      Scalar.exceeds (leastVariance * Scalar.ofNat 999999)
        ((of (strip 3 2 999998) (strip 3 2 999998) : Correlation Float).variance 0 0) = false := by
  have whiteSmall : (strip 255 255 372182).sumAllOf square < 2 ^ 53 := by
    rw [sumAllStrip]
    decide
  have speckSmall : (strip 3 2 999998).sumAllOf square < 2 ^ 53 := by
    rw [sumAllStrip]
    decide
  refine ⟨⟨whiteSmall, flatStrip 255 372182, ?_⟩, speckSmall, ?_, ?_⟩
  · -- The square of the sum is odd and has 54 bits, so its last bit is lost.
    rw [varianceStrip _ _ _ whiteSmall]
    decide +kernel
  · have pixels : (covered (strip 3 2 999998) (strip 3 2 999998) 0 0).width *
      (covered (strip 3 2 999998) (strip 3 2 999998) 0 0).height = 999999 := countStrip 3 2 999998
    have count := countVariance (covered (strip 3 2 999998) (strip 3 2 999998) 0 0)
    have squares : 999998 * square 2 + square 3 = 4000001 := by decide
    have sum : 999998 * (2 : UInt8).toNat + (3 : UInt8).toNat = 1999999 := by decide
    rw [pixels, spreadStrip, squares, sum] at count
    norm_num at count
    linarith
  · rw [varianceStrip _ _ _ speckSmall]
    decide +kernel

end Correlation

end Picture

end DeskScript
