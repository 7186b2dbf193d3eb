/-
This file shows which distances and differences between matches fit the words that they are
computed in. Coordinates go as far as their words, so that those of the corners do not fit.
-/

import DeskScript.Match.Basic
import DeskScript.Proofs.Match.Ranking
import Mathlib

namespace DeskScript

namespace Point

/-! ### Distances -/

/-- A computed distance differs from the distance by a multiple of all values of its word. -/
theorem distanceWraps (first second : Point) :
    (first.distanceSquared second).toInt = (first.exactDistance second).bmod (2 ^ 64) := by
  rw [distanceSquared, Int64.toInt_add, Int64.toInt_mul, Int64.toInt_mul, differenceExact,
    differenceExact, Int.bmod_add_bmod, Int.add_bmod_bmod, exactDistance, sq, sq]

/-- Distances are computed exactly below half the values of their word, and only there. -/
theorem distanceExactIff (first second : Point) :
    (first.distanceSquared second).toInt = first.exactDistance second ↔
      first.exactDistance second < 2 ^ 63 := by
  constructor
  · intro exact
    rw [← exact]
    exact Int64.toInt_lt _
  · intro small
    have positive : 0 ≤ first.exactDistance second := add_nonneg (sq_nonneg _) (sq_nonneg _)
    rw [distanceWraps]
    exact Int.bmod_eq_of_le (by omega) (by omega)

end Point

namespace Match

variable {scalar : Type}

/-! ### Heights -/

/-- This is how much lower the second center is than the first one. -/
def drop (first second : Match scalar) : Int := second.center.y.toInt - first.center.y.toInt

/-- The tolerance is exact, since half a height always is a coordinate. -/
theorem toleranceExact (first second : Match scalar) :
    (tolerance first second).toInt =
      max (min first.bounds.height.toNat second.bounds.height.toNat / 2 : Nat) 1 := by
  have word : (max (min first.bounds.height second.bounds.height / 2) 1).toNat =
      max (min first.bounds.height.toNat second.bounds.height.toNat / 2) 1 := by
    rw [UInt32.toNat_max, UInt32.toNat_div, UInt32.toNat_min]
    rfl
  have below := first.bounds.height.toNat_lt
  have signed (value : UInt32) (small : value.toNat < 2 ^ 31) :
      value.toInt32.toInt = value.toNat :=
    BitVec.toInt_eq_toNat_of_lt (by show 2 * value.toNat < 2 ^ 32; omega)
  rw [tolerance, signed _ (by rw [word]; omega), word, Nat.cast_max, Nat.cast_one]

/-- A difference of heights is computed exactly if its size is a coordinate, and only then. -/
theorem dropExactIff (first second : Match scalar) :
    (second.center.y - first.center.y).abs.toInt = |drop first second| ↔
      |drop first second| < 2 ^ 31 := by
  constructor
  · intro exact
    rw [← exact]
    exact Int32.toInt_lt _
  · intro small
    obtain ⟨least, most⟩ := abs_lt.mp small
    have difference : (second.center.y - first.center.y).toInt = drop first second := by
      rw [Int32.toInt_sub]
      exact Int.bmod_eq_of_le (by rw [drop] at least; omega) (by rw [drop] at most; omega)
    have notLeast : (second.center.y - first.center.y).toBitVec ≠ BitVec.intMin 32 := by
      intro same
      have value := congrArg BitVec.toInt same
      rw [Int32.toInt_toBitVec, difference] at value
      have : (BitVec.intMin 32).toInt = -2 ^ 31 := by decide
      omega
    show (second.center.y - first.center.y).toBitVec.abs.toInt = _
    rw [BitVec.toInt_abs_eq_natAbs_of_ne_intMin notLeast, Int32.toInt_toBitVec, difference,
      Int.natCast_natAbs]

/-- Close enough matches share a line if their difference in height is within the tolerance. -/
theorem sharesLineIff {first second : Match scalar} (small : |drop first second| < 2 ^ 31) :
    sharesLine first second = true ↔ |drop first second| ≤
      max (min first.bounds.height.toNat second.bounds.height.toNat / 2 : Nat) 1 := by
  rw [sharesLine, decide_eq_true_iff, Int32.le_iff_toInt_le, (dropExactIff _ _).mpr small,
    toleranceExact]

/-! ### Comparisons -/

/-- Matches whose distances are exact are compared by their distances. -/
theorem betterThanIff [Scalar scalar] {anchor : Point} {first second : Match scalar}
    (isFirst : first.center.exactDistance anchor < 2 ^ 63)
    (isSecond : second.center.exactDistance anchor < 2 ^ 63) :
    first.betterThan anchor second = true ↔
      Scalar.exceeds first.confidence second.confidence = true ∨
        Scalar.exceeds second.confidence first.confidence = false ∧
          first.center.exactDistance anchor < second.center.exactDistance anchor := by
  rw [betterThan, ← (Point.distanceExactIff _ _).mpr isFirst,
    ← (Point.distanceExactIff _ _).mpr isSecond, ← Int64.lt_iff_toInt_lt]
  cases Scalar.exceeds first.confidence second.confidence <;>
    cases Scalar.exceeds second.confidence first.confidence <;> simp

/--
The squared distance of a match from an anchor is computed exactly if it is below 2 ^ 63, and only
then. The tolerance of two matches always is exact, and their difference in height is exactly if it
is below 2 ^ 31. Within these bounds matches are ranked and put into lines by the exact numbers.
-/
theorem comparedExactly [Scalar scalar] (anchor : Point) (first second : Match scalar) :
    ((first.center.distanceSquared anchor).toInt = first.center.exactDistance anchor ↔
      first.center.exactDistance anchor < 2 ^ 63) ∧
    (tolerance first second).toInt =
      max (min first.bounds.height.toNat second.bounds.height.toNat / 2 : Nat) 1 ∧
    ((second.center.y - first.center.y).abs.toInt = |drop first second| ↔
      |drop first second| < 2 ^ 31) ∧
    (first.center.exactDistance anchor < 2 ^ 63 ∧ second.center.exactDistance anchor < 2 ^ 63 →
      (first.betterThan anchor second = true ↔
        Scalar.exceeds first.confidence second.confidence = true ∨
          Scalar.exceeds second.confidence first.confidence = false ∧
            first.center.exactDistance anchor < second.center.exactDistance anchor)) ∧
    (|drop first second| < 2 ^ 31 →
      (sharesLine first second = true ↔ |drop first second| ≤
        max (min first.bounds.height.toNat second.bounds.height.toNat / 2 : Nat) 1)) :=
  ⟨Point.distanceExactIff _ _, toleranceExact first second, dropExactIff first second,
    fun small => betterThanIff small.1 small.2, sharesLineIff⟩

/-- Two matches side by side are compared by the exact numbers. -/
theorem comparedExactlySideBySide :
    let left : Match Float := ⟨"left", 0.9, ⟨10, 20, 100, 30⟩⟩
    let right : Match Float := ⟨"right", 0.9, ⟨200, 25, 100, 30⟩⟩
    (left.center.distanceSquared ⟨0, 0⟩).toInt = 4825 ∧ drop left right = 5 ∧
      sharesLine left right = true ∧
      (left.betterThan ⟨0, 0⟩ right = true ↔
        Scalar.exceeds left.confidence right.confidence = true ∨
          Scalar.exceeds right.confidence left.confidence = false ∧
            left.center.exactDistance ⟨0, 0⟩ < right.center.exactDistance ⟨0, 0⟩) := by
  intro left right
  obtain ⟨distance, -, -, better, shares⟩ := comparedExactly ⟨0, 0⟩ left right
  have isLeft : left.center.exactDistance ⟨0, 0⟩ = 4825 := by decide
  have isRight : right.center.exactDistance ⟨0, 0⟩ < 2 ^ 63 := by decide
  have small : |drop left right| < 2 ^ 31 := by decide
  exact ⟨(distance.mpr (isLeft.trans_lt (by decide))).trans isLeft, by decide,
    (shares small).mpr (by decide), better ⟨isLeft.trans_lt (by decide), isRight⟩⟩

/-- This is found at the upper end of all coordinates. -/
def topMatch : Match Float := ⟨"top", 0.9, ⟨10, -2147483648, 1, 1⟩⟩

/-- This is found at the lower end, a little further left. -/
def bottomMatch : Match Float := ⟨"bottom", 0.9, ⟨0, 2147483647, 1, 1⟩⟩

/-- What is farthest away counts as nearest and is put into the same line. -/
theorem cornersConfused :
    (bottomMatch.center.distanceSquared topMatch.center).toInt ≠
      bottomMatch.center.exactDistance topMatch.center ∧
    (bottomMatch.center.y - topMatch.center.y).abs.toInt ≠ |drop topMatch bottomMatch| ∧
    (best? 0.5 ⟨0, -2147483648⟩ [topMatch, bottomMatch]).map label = some "bottom" ∧
    (scanOrder [topMatch, bottomMatch]).map label = ["bottom", "top"] := by
  refine ⟨by decide, by decide, by rfl, ?_⟩
  have above : [topMatch, bottomMatch].mergeSort isAbove = [topMatch, bottomMatch] :=
    List.mergeSort_of_pairwise (List.pairwise_pair.mpr (by decide))
  have oneLine : lines [topMatch, bottomMatch] = [[topMatch, bottomMatch]] := by
    have shared : sharesLine topMatch bottomMatch = true := by decide
    simp [lines, splitLine, shared]
  have turned : [topMatch, bottomMatch].mergeSort isLeft = [bottomMatch, topMatch] := by
    have right : isLeft topMatch bottomMatch = false := by decide
    simp [List.mergeSort, right]
  rw [scanOrder, above, oneLine, List.flatMap_singleton, turned]
  rfl

end Match

end DeskScript
