/-
This file says what the sum tables of a picture hold. Where small numbers are added exactly, an
entry of a table is the sum over all pixels above it and to its left. If all numbers are exact, a
window of a table is the sum over the pixels in it, so that a score depends only on the pixels under
the searched picture. A part of a scene has the full score at its own place, unless it is so faint
that the scene counts as flat there.
-/

import Mathlib
import DeskScript.Proofs.Picture.CarefulReading
import DeskScript.Proofs.Picture.KeptHits

namespace DeskScript

/-! ### Exact sums -/

/--
Sums of numbers are exact in a scalar type if the scalars of two numbers with a small sum have the
scalar of the sum for their own sum. The terms of a small sum are small.
-/
structure Scalar.ExactSums (scalar : Type) [Scalar scalar] (number : Type)
    [AddCommMonoid number] where
  scalarOf : number → scalar
  IsSmall : number → Prop
  zero : scalarOf 0 = ofNat 0
  add : ∀ first second, IsSmall (first + second) →
    scalarOf first + scalarOf second = scalarOf (first + second)
  terms : ∀ first second, IsSmall (first + second) → IsSmall first ∧ IsSmall second

namespace Picture

variable {number : Type} [AddCommMonoid number] (picture : Picture) (value : UInt8 → number)

/-! ### Sums over rectangles -/

/-- This is the sum over the pixels of a rectangle. -/
def sumIn (left top width height : ℕ) : number :=
  ∑ row ∈ Finset.range height, ∑ column ∈ Finset.range width,
    value (picture.brightness (left + column) (top + row))

/-- Four rectangles that start at the first pixel tell the sum over any rectangle. -/
theorem sumInCorners (x y width height : ℕ) :
    picture.sumIn value 0 0 (x + width) (y + height) + picture.sumIn value 0 0 x y =
      picture.sumIn value x y width height + picture.sumIn value 0 0 (x + width) y +
        picture.sumIn value 0 0 x (y + height) := by
  simp only [sumIn, Finset.sum_range_add, Finset.sum_add_distrib, Nat.zero_add]
  abel

theorem sumInRow (column row : ℕ) : picture.sumIn value 0 0 column (row + 1) =
    picture.sumIn value 0 0 column row +
      ∑ x ∈ Finset.range column, value (picture.brightness x row) := by
  simp only [sumIn, Finset.sum_range_succ, Nat.zero_add]

variable {picture value} in
theorem sumInAgrees {other : Picture} {x y otherX otherY width height : ℕ}
    (agree : ∀ column < width, ∀ row < height,
      picture.brightness (x + column) (y + row) =
        other.brightness (otherX + column) (otherY + row)) :
    picture.sumIn value x y width height = other.sumIn value otherX otherY width height :=
  Finset.sum_congr rfl fun row inRow => Finset.sum_congr rfl fun column inColumn =>
    congrArg value (agree column (Finset.mem_range.mp inColumn) row (Finset.mem_range.mp inRow))

/-- The pixels of a rectangle are numbered row after row. -/
theorem sumOfRows (width height : ℕ) (term : ℕ → ℕ → number) :
    ∑ row ∈ Finset.range height, ∑ column ∈ Finset.range width, term column row =
      ∑ index ∈ Finset.range (width * height), term (index % width) (index / width) := by
  induction height with
  | zero => simp
  | succ height inductionHypothesis =>
      rw [Finset.sum_range_succ, inductionHypothesis, Nat.mul_succ, Finset.sum_range_add]
      refine congrArg _ (Finset.sum_congr rfl fun column inside => ?_)
      have below := Finset.mem_range.mp inside
      rw [Nat.mul_add_mod, Nat.mod_eq_of_lt below, Nat.mul_add_div (by omega),
        Nat.div_eq_of_lt below, add_zero]

/-! ### Entries of sum tables -/

variable {scalar : Type} [Scalar scalar] (sums : Scalar.ExactSums scalar number)

theorem sumOfExact {count : ℕ} {term : ℕ → number}
    (small : sums.IsSmall (∑ index ∈ Finset.range count, term index)) :
    Scalar.sumOf count (fun index => sums.scalarOf (term index)) =
      sums.scalarOf (∑ index ∈ Finset.range count, term index) := by
  induction count with
  | zero => rw [Scalar.sumOfZero, Finset.sum_range_zero, sums.zero]
  | succ count inductionHypothesis =>
      rw [Finset.sum_range_succ] at small ⊢
      rw [Scalar.sumOfSucc, inductionHypothesis (sums.terms _ _ small).1, sums.add _ _ small]

/-- An entry of the next row is the entry above and the sum of the pixels to its left. -/
theorem nextSumsExact {width : ℕ} {above : Array scalar} {upper term : ℕ → number}
    (blank : upper 0 = 0)
    (given : ∀ column ≤ width, above.getD column (Scalar.ofNat 0) = sums.scalarOf (upper column))
    (small : ∀ column ≤ width,
      sums.IsSmall (upper column + ∑ x ∈ Finset.range column, term x))
    {column : ℕ} (inside : column ≤ width) :
    (nextSums width above fun x => sums.scalarOf (term x)).getD column (Scalar.ofNat 0) =
      sums.scalarOf (upper column + ∑ x ∈ Finset.range column, term x) := by
  induction width with
  | zero =>
      obtain rfl : column = 0 := by omega
      rw [blank, Finset.sum_range_zero, add_zero, sums.zero]
      rfl
  | succ width inductionHypothesis =>
      have size := nextSumsSize width above fun x => sums.scalarOf (term x)
      rw [nextSumsSucc, Array.getD_eq_getD_getElem?, Array.getElem?_push, size]
      rcases inside.lt_or_eq with before | rfl
      · rw [if_neg (by omega), ← Array.getD_eq_getD_getElem?]
        exact inductionHypothesis (fun column below => given column (by omega))
          (fun column below => small column (by omega)) (by omega)
      · rw [if_pos rfl, Option.getD_some, given _ le_rfl,
          sumOfExact sums (sums.terms _ _ (small _ le_rfl)).2, sums.add _ _ (small _ le_rfl)]

variable {picture value}

/-- An entry of a row is the sum over all pixels above the row and to the left of the entry. -/
theorem sumRowExact (small : ∀ x ≤ picture.width, ∀ y ≤ picture.height,
      sums.IsSmall (picture.sumIn value 0 0 x y))
    {x y : ℕ} (insideX : x ≤ picture.width) (insideY : y ≤ picture.height) :
    (picture.sumRow (fun brightness => sums.scalarOf (value brightness)) y).getD x
      (Scalar.ofNat 0) = sums.scalarOf (picture.sumIn value 0 0 x y) := by
  induction y generalizing x with
  | zero =>
      have blank : x < picture.width + 1 := by omega
      simp [sumRow, sumIn, blank, sums.zero]
  | succ y inductionHypothesis =>
      rw [sumRow, sumInRow]
      refine nextSumsExact sums (by simp [sumIn])
        (fun column inRow => inductionHypothesis inRow (by omega)) (fun column inRow => ?_) insideX
      rw [← sumInRow]
      exact small column inRow (y + 1) insideY

theorem entryExact (small : ∀ x ≤ picture.width, ∀ y ≤ picture.height,
      sums.IsSmall (picture.sumIn value 0 0 x y))
    {x y : ℕ} (insideX : x ≤ picture.width) (insideY : y ≤ picture.height) :
    (picture.sumTable fun brightness => sums.scalarOf (value brightness)).entry x y =
      sums.scalarOf (picture.sumIn value 0 0 x y) := by
  have row : (picture.sumTable fun brightness => sums.scalarOf (value brightness)).getD y #[] =
      picture.sumRow (fun brightness => sums.scalarOf (value brightness)) y := by
    rw [sumTableRows]
    simp [Nat.lt_succ_of_le insideY]
  rw [SumTable.entry, row, sumRowExact sums small insideX insideY]

end Picture

/-! ### Real numbers -/

/-- Real numbers are added exactly. -/
noncomputable def Scalar.exactReals : ExactSums ℝ ℝ where
  scalarOf number := number
  IsSmall _ := True
  zero := Nat.cast_zero.symm
  add _ _ _ := rfl
  terms _ _ _ := ⟨trivial, trivial⟩

theorem Scalar.sumOfReal (count : Nat) (term : Nat → ℝ) :
    sumOf count term = ∑ index ∈ Finset.range count, term index :=
  Picture.sumOfExact exactReals trivial

namespace Picture

/-! ### Sums over windows -/

section

variable (picture : Picture) (value : UInt8 → ℝ)

theorem entrySum {x y : Nat} (insideX : x ≤ picture.width) (insideY : y ≤ picture.height) :
    (picture.sumTable value).entry x y = picture.sumIn value 0 0 x y :=
  entryExact Scalar.exactReals (fun _ _ _ _ => trivial) insideX insideY

theorem windowSumIn {x y width height : Nat} (insideX : x + width ≤ picture.width)
    (insideY : y + height ≤ picture.height) :
    (picture.sumTable value).window x y width height = picture.sumIn value x y width height := by
  have corners := picture.sumInCorners value x y width height
  rw [SumTable.window, picture.entrySum value insideX insideY,
    picture.entrySum value insideX (by omega), picture.entrySum value (by omega) insideY,
    picture.entrySum value (by omega) (by omega)]
  linarith

/-- A window of a table is the sum over all pixels in it. -/
theorem windowSum {x y width height : Nat} (insideX : x + width ≤ picture.width)
    (insideY : y + height ≤ picture.height) :
    (picture.sumTable value).window x y width height =
      ∑ index ∈ Finset.range (width * height),
        value (picture.brightness (x + index % width) (y + index / width)) := by
  rw [picture.windowSumIn value insideX insideY]
  exact sumOfRows width height fun column row => value (picture.brightness (x + column) (y + row))

end

/-! ### Pixels under a picture -/

/-- This is the pixel of a scene on which a pixel of a picture lies. -/
def under (scene picture : Picture) (x y index : Nat) : UInt8 :=
  scene.brightness (x + index % picture.width) (y + index / picture.width)

/-- This is the sum over the pixels of a scene on which a picture lies. -/
noncomputable def sumUnder (scene picture : Picture) (x y : Nat) (value : UInt8 → ℝ) : ℝ :=
  ∑ index ∈ Finset.range (picture.width * picture.height), value (under scene picture x y index)

variable {scene other picture : Picture} {x y otherX otherY : Nat}

namespace Correlation

theorem sumsWindow (insideX : x + picture.width ≤ scene.width)
    (insideY : y + picture.height ≤ scene.height) :
    (of scene picture : Correlation ℝ).sums.window x y (of scene picture : Correlation ℝ).width
      (of scene picture : Correlation ℝ).height = sumUnder scene picture x y level :=
  scene.windowSum level insideX insideY

/-- The variance of a part of the scene is told from its pixels and their squares. -/
theorem varianceSum (insideX : x + picture.width ≤ scene.width)
    (insideY : y + picture.height ≤ scene.height) :
    (of scene picture : Correlation ℝ).variance x y =
      max 0 (sumUnder scene picture x y (fun brightness => level brightness * level brightness) -
        sumUnder scene picture x y level * sumUnder scene picture x y level /
          (picture.width * picture.height : Nat)) := by
  have squares : (of scene picture : Correlation ℝ).squares.window x y
      (of scene picture : Correlation ℝ).width (of scene picture : Correlation ℝ).height = _ :=
    scene.windowSum (fun brightness => level brightness * level brightness) insideX insideY
  rw [variance, sumsWindow insideX insideY, squares, Scalar.larger, Scalar.ofNatReal,
    Nat.cast_zero, max_def]
  rfl

theorem crossSum : (of scene picture : Correlation ℝ).cross x y =
    ∑ index ∈ Finset.range (picture.width * picture.height),
      level (under scene picture x y index) *
        (of scene picture : Correlation ℝ).deviations.getD index 0 := by
  rw [cross, Scalar.sumOfReal, Scalar.ofNatReal, Nat.cast_zero]
  rfl

end Correlation

theorem indexInside {index : Nat} (below : index < picture.width * picture.height) :
    index % picture.width < picture.width ∧ index / picture.width < picture.height :=
  ⟨Nat.mod_lt _ (Nat.pos_of_mul_pos_right (Nat.zero_lt_of_lt below)), Nat.div_lt_of_lt_mul below⟩

/-- A score does not depend on anything but the pixels that the picture lies on. -/
theorem scoreAgrees (insideX : x + picture.width ≤ scene.width)
    (insideY : y + picture.height ≤ scene.height)
    (otherInsideX : otherX + picture.width ≤ other.width)
    (otherInsideY : otherY + picture.height ≤ other.height)
    (agree : ∀ column < picture.width, ∀ row < picture.height,
      scene.brightness (x + column) (y + row) =
        other.brightness (otherX + column) (otherY + row)) :
    (Correlation.of scene picture : Correlation ℝ).score x y =
      (Correlation.of other picture).score otherX otherY := by
  have pixels (index : Nat) (below : index ∈ Finset.range (picture.width * picture.height)) :
      under scene picture x y index = under other picture otherX otherY index := by
    obtain ⟨inRow, inColumn⟩ := indexInside (Finset.mem_range.mp below)
    exact agree _ inRow _ inColumn
  have sums (value : UInt8 → ℝ) :
      sumUnder scene picture x y value = sumUnder other picture otherX otherY value :=
    Finset.sum_congr rfl fun index below => congrArg value (pixels index below)
  have cross : (Correlation.of scene picture : Correlation ℝ).cross x y =
      (Correlation.of other picture).cross otherX otherY := by
    rw [Correlation.crossSum, Correlation.crossSum]
    exact Finset.sum_congr rfl fun index below =>
      congrArg (fun brightness => level brightness * _) (pixels index below)
  rw [Correlation.score, Correlation.score, Correlation.sumsWindow insideX insideY,
    Correlation.sumsWindow otherInsideX otherInsideY, Correlation.varianceSum insideX insideY,
    Correlation.varianceSum otherInsideX otherInsideY, cross, sums, sums]
  rfl

/-- A picture is a part of itself. -/
theorem cropWhole (picture : Picture) :
    picture.crop 0 0 picture.width picture.height = picture := by
  have pixels : (picture.crop 0 0 picture.width picture.height).pixels = picture.pixels := by
    refine Array.ext ?_ fun index inPart inPicture => ?_
    · exact (picture.crop 0 0 picture.width picture.height).complete.trans picture.complete.symm
    · simp [crop, generate, brightness, Nat.mul_comm _ picture.width, Nat.div_add_mod, inPicture]
  cases picture
  rw [crop, generate, Picture.mk.injEq]
  exact ⟨rfl, rfl, pixels⟩

/-- In a part of a scene a picture has the score that it has in the scene. -/
theorem scoreCrop {left top width height : Nat} (insideX : x + picture.width ≤ width)
    (insideY : y + picture.height ≤ height) (wide : left + width ≤ scene.width)
    (high : top + height ≤ scene.height) :
    (Correlation.of (scene.crop left top width height) picture : Correlation ℝ).score x y =
      (Correlation.of scene picture).score (left + x) (top + y) := by
  refine scoreAgrees insideX insideY (by omega) (by omega) fun column inColumn row inRow => ?_
  rw [brightnessCrop _ _ _ _ _ _ _ (by omega) (by omega), Nat.add_assoc, Nat.add_assoc]

/-! ### Spread -/

section

variable (picture)

/-- These are the levels of the pixels, row after row. -/
noncomputable def levels (index : Nat) : ℝ := level (picture.pixels.getD index 0)

noncomputable def meanLevel : ℝ :=
  (∑ index ∈ Finset.range (picture.width * picture.height), picture.levels index) /
    (picture.width * picture.height : Nat)

/-- This is the sum of the squares of the differences between the pixels and their mean. -/
noncomputable def spread : ℝ :=
  ∑ index ∈ Finset.range (picture.width * picture.height),
    (picture.levels index - picture.meanLevel) ^ 2

theorem spreadPositive : 0 ≤ picture.spread := Finset.sum_nonneg fun _ _ => sq_nonneg _

/-- The spread is the sum of the squares without the share of the mean. -/
theorem spreadSquares : picture.spread =
    ∑ index ∈ Finset.range (picture.width * picture.height),
      picture.levels index * picture.levels index -
    (∑ index ∈ Finset.range (picture.width * picture.height), picture.levels index) *
      (∑ index ∈ Finset.range (picture.width * picture.height), picture.levels index) /
        (picture.width * picture.height : Nat) := by
  have total : (picture.width * picture.height : Nat) * picture.meanLevel =
      ∑ index ∈ Finset.range (picture.width * picture.height), picture.levels index := by
    rcases (picture.width * picture.height).eq_zero_or_pos with empty | positive
    · simp [empty]
    · rw [meanLevel, mul_div_cancel₀ _ (by exact_mod_cast positive.ne')]
  have square (index : Nat) : (picture.levels index - picture.meanLevel) ^ 2 =
      picture.levels index * picture.levels index -
        2 * picture.meanLevel * picture.levels index + picture.meanLevel * picture.meanLevel := by
    ring
  rw [spread, Finset.sum_congr rfl fun index _ => square index, Finset.sum_add_distrib,
    Finset.sum_sub_distrib, ← Finset.mul_sum, Finset.sum_const, Finset.card_range, nsmul_eq_mul,
    ← mul_assoc, total, mul_div_assoc, ← meanLevel]
  ring

/-- A picture multiplied by its own deviations gives its spread. -/
theorem spreadCross : ∑ index ∈ Finset.range (picture.width * picture.height),
    picture.levels index * (picture.levels index - picture.meanLevel) = picture.spread := by
  simp only [mul_sub, Finset.sum_sub_distrib, ← Finset.sum_mul]
  rw [spreadSquares, meanLevel, mul_div_assoc]

variable {picture}

theorem levelNat (brightness : UInt8) : (level brightness : ℝ) = brightness.toNat := rfl

/-- Two unlike pixels are a whole level apart, so that they are half a level from their mean. -/
theorem spreadUnlike (first second : Nat) (inFirst : first < picture.width * picture.height)
    (inSecond : second < picture.width * picture.height)
    (unlike : picture.pixels.getD first 0 ≠ picture.pixels.getD second 0) :
    1 / 2 ≤ picture.spread := by
  have apart : 1 ≤ (picture.levels first - picture.levels second) ^ 2 := by
    have levelsUnlike : (picture.pixels.getD first 0).toNat ≠
        (picture.pixels.getD second 0).toNat := fun same => unlike (UInt8.toNat_inj.mp same)
    rw [levels, levels, levelNat, levelNat]
    have whole : (1 : ℤ) ≤ ((picture.pixels.getD first 0).toNat -
        (picture.pixels.getD second 0).toNat) ^ 2 := by
      have : ((picture.pixels.getD first 0).toNat : ℤ) -
          (picture.pixels.getD second 0).toNat ≠ 0 := by omega
      exact Int.add_one_le_iff.mpr (sq_pos_iff.mpr this)
    exact_mod_cast whole
  have pair : ∑ index ∈ {first, second}, (picture.levels index - picture.meanLevel) ^ 2 ≤
      picture.spread := by
    refine Finset.sum_le_sum_of_subset_of_nonneg (fun index isOne => ?_) fun _ _ _ => sq_nonneg _
    rcases Finset.mem_insert.mp isOne with rfl | isSecond
    · exact Finset.mem_range.mpr inFirst
    · exact Finset.mem_range.mpr (Finset.mem_singleton.mp isSecond ▸ inSecond)
  rw [Finset.sum_pair (by rintro rfl; exact unlike rfl)] at pair
  nlinarith [sq_nonneg (picture.levels first + picture.levels second - 2 * picture.meanLevel)]

/-- A picture of one brightness has no spread. -/
theorem spreadAlike (alike : ∀ index < picture.width * picture.height,
    picture.pixels.getD index 0 = picture.pixels.getD 0 0) : picture.spread = 0 := by
  refine Finset.sum_eq_zero fun index below => ?_
  have count : ((picture.width * picture.height : Nat) : ℝ) ≠ 0 := by
    exact_mod_cast (Nat.zero_lt_of_lt (Finset.mem_range.mp below)).ne'
  have same (other : Nat) (inRange : other ∈ Finset.range (picture.width * picture.height)) :
      picture.levels other = picture.levels 0 :=
    congrArg level (alike other (Finset.mem_range.mp inRange))
  rw [meanLevel, Finset.sum_congr rfl same, Finset.sum_const, Finset.card_range, nsmul_eq_mul,
    mul_div_cancel_left₀ _ count, same index below, sub_self]
  norm_num

theorem spreadCases (picture : Picture) : picture.spread = 0 ∨ 1 / 2 ≤ picture.spread := by
  by_cases alike : ∀ index < picture.width * picture.height,
      picture.pixels.getD index 0 = picture.pixels.getD 0 0
  · exact .inl (spreadAlike alike)
  · push Not at alike
    obtain ⟨index, below, unlike⟩ := alike
    exact .inr (spreadUnlike index 0 below (Nat.zero_lt_of_lt below) unlike)

end

/-! ### Scores at the own place -/

/-- A faint picture is not of one brightness, but it varies so little that a part counts as flat. -/
structure Faint (picture : Picture) : Prop where
  uneven : 0 < picture.spread
  slight : picture.spread < Correlation.leastVariance * (picture.width * picture.height : Nat)

theorem leastVarianceReal : (Correlation.leastVariance : ℝ) = 1 / 1000000 := by
  rw [Correlation.leastVariance, Scalar.ofNatReal, Scalar.ofNatReal]
  norm_num

/-- Only pictures of many pixels are faint. -/
theorem faintLarge (faint : Faint picture) : 500000 < picture.width * picture.height := by
  have uneven := faint.uneven
  have slight := faint.slight
  rw [leastVarianceReal] at slight
  rcases picture.spreadCases with none | much
  · exact absurd none uneven.ne'
  · have many : (500000 : ℝ) < (picture.width * picture.height : Nat) := by linarith
    exact_mod_cast many

namespace Correlation

theorem meanOf (scene picture : Picture) :
    (of scene picture : Correlation ℝ).mean = picture.meanLevel := by
  show Scalar.sumOf picture.pixels.size picture.levels / _ = _
  rw [Scalar.sumOfReal, picture.complete]
  rfl

theorem deviationOf (scene : Picture) {index : Nat}
    (below : index < picture.width * picture.height) :
    (of scene picture : Correlation ℝ).deviations.getD index 0 =
      picture.levels index - picture.meanLevel := by
  rw [← meanOf scene picture]
  simp [of, picture.complete, below, levels]

theorem normOf (scene picture : Picture) :
    (of scene picture : Correlation ℝ).norm = √picture.spread := by
  show √(Scalar.sumOf picture.pixels.size fun index =>
    (of scene picture : Correlation ℝ).deviations.getD index (Scalar.ofNat 0) *
      (of scene picture : Correlation ℝ).deviations.getD index (Scalar.ofNat 0)) = _
  rw [Scalar.sumOfReal, picture.complete, spread, Scalar.ofNatReal, Nat.cast_zero]
  refine congrArg _ (Finset.sum_congr rfl fun index below => ?_)
  rw [deviationOf scene (Finset.mem_range.mp below), sq]

end Correlation

theorem underOwn (picture : Picture) (index : Nat) :
    under picture picture 0 0 index = picture.pixels.getD index 0 := by
  rw [under, brightness, Nat.zero_add, Nat.zero_add, Nat.mul_comm, Nat.div_add_mod]

theorem ownVariance (picture : Picture) :
    (Correlation.of picture picture : Correlation ℝ).variance 0 0 = picture.spread := by
  rw [Correlation.varianceSum (Nat.zero_add _).le (Nat.zero_add _).le]
  simp only [sumUnder, underOwn]
  exact (congrArg (max 0) picture.spreadSquares.symm).trans (max_eq_right picture.spreadPositive)

theorem ownCross (picture : Picture) :
    (Correlation.of picture picture : Correlation ℝ).cross 0 0 = picture.spread := by
  rw [Correlation.crossSum, ← spreadCross]
  refine Finset.sum_congr rfl fun index below => ?_
  rw [underOwn, Correlation.deviationOf picture (Finset.mem_range.mp below), levels]

theorem clampOne : Scalar.clamp (0 : ℝ) 1 1 = 1 := by
  rw [Scalar.clamp, if_pos zero_le_one, if_pos le_rfl]

/-- A picture has the full score in itself, unless it is faint. -/
theorem ownScore (wide : 0 < picture.width) (high : 0 < picture.height) (clear : ¬Faint picture) :
    (Correlation.of picture picture : Correlation ℝ).score 0 0 = 1 := by
  have count : (0 : ℝ) < (picture.width * picture.height : Nat) := by
    exact_mod_cast Nat.mul_pos wide high
  have least : (0 : ℝ) < Correlation.leastVariance := by
    rw [leastVarianceReal]
    norm_num
  have sums : sumUnder picture picture 0 0 level / (picture.width * picture.height : Nat) =
      (Correlation.of picture picture : Correlation ℝ).mean := by
    rw [Correlation.meanOf]
    simp only [sumUnder, underOwn]
    rfl
  have size : (Correlation.of picture picture : Correlation ℝ).width *
      (Correlation.of picture picture : Correlation ℝ).height =
        picture.width * picture.height := rfl
  rw [Correlation.score, Correlation.sumsWindow (Nat.zero_add _).le (Nat.zero_add _).le,
    ownVariance, ownCross, Correlation.normOf]
  simp only [size, Scalar.ofNatReal, Scalar.exceedsReal, Nat.cast_zero, Nat.cast_one]
  rcases picture.spreadCases with flat | uneven
  · rw [if_pos (by rwa [flat, Real.sqrt_zero]), if_pos (by rw [flat]; exact mul_pos least count),
      sums, Scalar.distance, if_pos le_rfl, sub_self, zero_div, sub_zero, clampOne]
  · have root : (1 : ℝ) / 2 ≤ √picture.spread :=
      Real.le_sqrt_of_sq_le (le_trans (by norm_num) uneven)
    have positive : 0 < picture.spread := by linarith
    have noticed : ¬picture.spread <
        Correlation.leastVariance * (picture.width * picture.height : Nat) := fun slight =>
      clear ⟨positive, slight⟩
    rw [if_neg (by rw [leastVarianceReal]; linarith), if_neg noticed]
    have full : picture.spread / (Scalar.sqrt picture.spread * √picture.spread) = 1 := by
      show picture.spread / (√picture.spread * √picture.spread) = 1
      rw [Real.mul_self_sqrt positive.le, div_self positive.ne']
    rw [full, clampOne]

theorem clampWithin (value : ℝ) :
    0 ≤ Scalar.clamp 0 1 value ∧ Scalar.clamp 0 1 value ≤ 1 := by
  rw [Scalar.clamp]
  split
  · next above =>
      split
      · next below => exact ⟨above, below⟩
      · exact ⟨zero_le_one, le_rfl⟩
  · exact ⟨le_rfl, zero_le_one⟩

/-- Every score is from zero to one. -/
theorem scoreWithin (correlation : Correlation ℝ) (x y : Nat) :
    0 ≤ correlation.score x y ∧ correlation.score x y ≤ 1 := by
  rw [Correlation.score]
  simp only [Scalar.ofNatReal, Nat.cast_zero, Nat.cast_one]
  split
  · split
    · exact clampWithin _
    · exact ⟨le_rfl, zero_le_one⟩
  · split
    · exact ⟨le_rfl, zero_le_one⟩
    · exact clampWithin _

/-- A picture with unlike pixels does not agree with a part of the scene of one brightness. -/
theorem flatScore {scene : Picture} {x y : Nat} (brightness : UInt8) (wide : 0 < picture.width)
    (high : 0 < picture.height) (insideX : x + picture.width ≤ scene.width)
    (insideY : y + picture.height ≤ scene.height) (uneven : 1 / 2 ≤ picture.spread)
    (flat : ∀ column < picture.width, ∀ row < picture.height,
      scene.brightness (x + column) (y + row) = brightness) :
    (Correlation.of scene picture : Correlation ℝ).score x y = 0 := by
  have count : (0 : ℝ) < (picture.width * picture.height : Nat) := by
    exact_mod_cast Nat.mul_pos wide high
  have pixels (index : Nat) (below : index ∈ Finset.range (picture.width * picture.height)) :
      under scene picture x y index = brightness := by
    obtain ⟨inRow, inColumn⟩ := indexInside (Finset.mem_range.mp below)
    exact flat _ inRow _ inColumn
  have sums (value : UInt8 → ℝ) : sumUnder scene picture x y value =
      (picture.width * picture.height : Nat) * value brightness := by
    rw [sumUnder, Finset.sum_congr rfl fun index below => congrArg value (pixels index below),
      Finset.sum_const, Finset.card_range, nsmul_eq_mul]
  have variance : (Correlation.of scene picture : Correlation ℝ).variance x y = 0 := by
    rw [Correlation.varianceSum insideX insideY, sums, sums]
    refine max_eq_left (le_of_eq ?_)
    field_simp
    ring
  have root : (1 : ℝ) / 2 ≤ √picture.spread :=
    Real.le_sqrt_of_sq_le (le_trans (by norm_num) uneven)
  have size : (Correlation.of scene picture : Correlation ℝ).width *
      (Correlation.of scene picture : Correlation ℝ).height =
        picture.width * picture.height := rfl
  rw [Correlation.score, variance, Correlation.normOf]
  simp only [size, Scalar.ofNatReal, Scalar.exceedsReal, Nat.cast_zero, leastVarianceReal]
  rw [if_neg (by linarith), if_pos (by positivity)]

/-- A part of a scene has the full score at its own place, unless it is faint. -/
theorem partScore {scene : Picture} {left top width height : Nat} (wide : 0 < width)
    (high : 0 < height) (insideX : left + width ≤ scene.width)
    (insideY : top + height ≤ scene.height) (clear : ¬Faint (scene.crop left top width height)) :
    (Correlation.of scene (scene.crop left top width height) : Correlation ℝ).score left top =
      1 := by
  rw [← ownScore wide high clear]
  refine scoreAgrees insideX insideY (Nat.zero_add _).le (Nat.zero_add _).le ?_
  intro column inColumn row inRow
  rw [Nat.zero_add, Nat.zero_add]
  exact (brightnessCrop scene left top width height column row inColumn inRow).symm

end Picture

end DeskScript
