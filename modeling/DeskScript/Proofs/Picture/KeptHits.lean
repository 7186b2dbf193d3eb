/-
This file shows which hits are kept when some of them overlap. There are no more of them than asked
for, they come in the order of their scores, and no two share more than half of their pixels. Real
numbers are used as scores where nothing may be rounded.
-/

import Mathlib
import DeskScript.Picture.Search

namespace DeskScript

/-! ### Exact scalars -/

noncomputable instance : Scalar ℝ where
  decideLE first second := Classical.propDecidable (first ≤ second)
  ofNat value := value
  sqrt := Real.sqrt
  wholePart := Nat.floor

namespace Scalar

theorem ofNatReal (value : Nat) : (ofNat value : ℝ) = value := rfl

theorem exceedsReal (first second : ℝ) : exceeds first second = true ↔ second < first := by
  rw [exceeds, Bool.not_eq_true', decide_eq_false_iff_not]
  exact not_le

end Scalar

namespace Picture.Hit

/-! ### Keeping hits -/

section

variable {scalar : Type} [Scalar scalar] (width height limit : Nat)

/-- Some of the hits are put behind those that are kept already, in their order. -/
theorem keptAppend (kept hits : List (Hit scalar)) :
    ∃ added, hits.foldl (keep width height limit) kept = kept ++ added ∧ added.Sublist hits := by
  induction hits generalizing kept with
  | nil => exact ⟨[], (List.append_nil kept).symm, .slnil⟩
  | cons hit rest inductionHypothesis =>
      rw [List.foldl_cons, keep]
      split
      · obtain ⟨added, same, ofRest⟩ := inductionHypothesis kept
        exact ⟨added, same, ofRest.cons hit⟩
      · obtain ⟨added, same, ofRest⟩ := inductionHypothesis (kept ++ [hit])
        exact ⟨hit :: added, by rw [same, List.append_assoc]; rfl, ofRest.cons_cons hit⟩

theorem keptLimited {kept : List (Hit scalar)} (limited : kept.length ≤ limit)
    (hits : List (Hit scalar)) : (hits.foldl (keep width height limit) kept).length ≤ limit := by
  induction hits generalizing kept with
  | nil => exact limited
  | cons hit rest inductionHypothesis =>
      rw [List.foldl_cons, keep]
      split
      · exact inductionHypothesis limited
      · next free =>
          rw [Bool.or_eq_true, not_or, decide_eq_true_iff, not_le] at free
          exact inductionHypothesis (by simpa using free.1)

theorem apartLimited (hits : List (Hit scalar)) :
    (apart width height limit hits).length ≤ limit :=
  keptLimited width height limit (show ([] : List (Hit scalar)).length ≤ limit by simp) _

/-- No hit that is kept overlaps an earlier one. -/
theorem keptApart {kept : List (Hit scalar)}
    (apart : kept.Pairwise fun first second => first.overlaps width height second = false)
    (hits : List (Hit scalar)) : (hits.foldl (keep width height limit) kept).Pairwise
      fun first second => first.overlaps width height second = false := by
  induction hits generalizing kept with
  | nil => exact apart
  | cons hit rest inductionHypothesis =>
      rw [List.foldl_cons, keep]
      split
      · exact inductionHypothesis apart
      · next free =>
          rw [Bool.or_eq_true, not_or, List.any_eq_true] at free
          refine inductionHypothesis (List.pairwise_append.mpr
            ⟨apart, List.pairwise_singleton _ _, ?_⟩)
          intro other isKept last isLast
          cases List.mem_singleton.mp isLast
          exact Bool.eq_false_iff.mpr fun overlap => free.2 ⟨other, isKept, overlap⟩

theorem apartSublist (hits : List (Hit scalar)) : (apart width height limit hits).Sublist
    (hits.mergeSort fun first second => decide (second.score ≤ first.score)) := by
  obtain ⟨added, same, ofHits⟩ := keptAppend width height limit []
    (hits.mergeSort fun first second => decide (second.score ≤ first.score))
  rw [apart, same]
  exact ofHits

variable {width height limit}

theorem memOfApart {hits : List (Hit scalar)} {hit : Hit scalar}
    (isKept : hit ∈ apart width height limit hits) : hit ∈ hits :=
  List.mem_mergeSort.mp ((apartSublist width height limit hits).subset isKept)

end

/-! ### Exact scores -/

/-- Exact scores can be put into order. -/
theorem sortedByScore (hits : List (Hit ℝ)) :
    (hits.mergeSort fun first second => decide (second.score ≤ first.score)).Pairwise
      fun first second => second.score ≤ first.score := by
  refine (List.pairwise_mergeSort (fun first second third => ?_) (fun first second => ?_)
    hits).imp of_decide_eq_true
  · simp only [decide_eq_true_iff]
    exact fun atMost further => further.trans atMost
  · simp only [Bool.or_eq_true, decide_eq_true_iff]
    exact le_total _ _

/-- With exact scores the kept hits come with the greatest ones first. -/
theorem apartOrdered (width height limit : Nat) (hits : List (Hit ℝ)) :
    (apart width height limit hits).Pairwise fun first second => second.score ≤ first.score :=
  (sortedByScore hits).sublist (apartSublist width height limit hits)

/-! ### Common pixels -/

variable {scalar : Type}

/-- These are the pixels of the scene that a hit covers. -/
def pixels (width height : Nat) (hit : Hit scalar) : Finset (Nat × Nat) :=
  Finset.Ico hit.x (hit.x + width) ×ˢ Finset.Ico hit.y (hit.y + height)

/-- The box of this hit has its corners within the range of coordinates. -/
structure Boxed (width height : Nat) (hit : Hit scalar) : Prop where
  right : hit.x + width ≤ 2 ^ 31
  bottom : hit.y + height ≤ 2 ^ 31

/-- The upper left corner of this hit can be given by coordinates. -/
structure InRange (hit : Hit scalar) : Prop where
  x : hit.x < 2 ^ 31
  y : hit.y < 2 ^ 31

theorem Boxed.inRange {width height : Nat} {hit : Hit scalar} (boxed : hit.Boxed width height)
    (wide : 0 < width) (high : 0 < height) : hit.InRange :=
  ⟨(Nat.lt_add_of_pos_right wide).trans_le boxed.right,
    (Nat.lt_add_of_pos_right high).trans_le boxed.bottom⟩

theorem commonPixels (width height : Nat) (first second : Hit scalar) :
    (first.pixels width height ∩ second.pixels width height).card =
      (min (first.x + width) (second.x + width) - max first.x second.x) *
        (min (first.y + height) (second.y + height) - max first.y second.y) := by
  rw [pixels, pixels, Finset.product_inter_product, Finset.card_product, Finset.Ico_inter_Ico,
    Finset.Ico_inter_Ico, Nat.card_Ico, Nat.card_Ico]

theorem sideFits {side : Nat} (fits : side < 2 ^ 32) : (UInt32.ofNat side).toNat = side :=
  UInt32.toNat_ofNat_of_lt' fits

variable {width height : Nat}

theorem boxEdges (across : width < 2 ^ 32) (down : height < 2 ^ 32) {hit : Hit scalar}
    (inRange : hit.InRange) :
    (hit.box width height).left = hit.x ∧ (hit.box width height).top = hit.y ∧
      (hit.box width height).right = hit.x + width ∧
      (hit.box width height).bottom = hit.y + height := by
  have left : (Int32.ofNat hit.x).toInt = hit.x := Int32.toInt_ofNat_of_lt inRange.x
  have top : (Int32.ofNat hit.y).toInt = hit.y := Int32.toInt_ofNat_of_lt inRange.y
  simp only [box, Rect.left, Rect.top, Rect.right, Rect.bottom, left, top, sideFits across,
    sideFits down, and_self]

/-- The rectangle that two boxes have in common has the pixels that both hits cover. -/
theorem commonArea (across : width < 2 ^ 32) (down : height < 2 ^ 32) {first second : Hit scalar}
    (isFirst : first.InRange) (isSecond : second.InRange) :
    (((first.box width height).intersection (second.box width height)).elim 0 Rect.area) =
      (first.pixels width height ∩ second.pixels width height).card := by
  obtain ⟨left, top, right, bottom⟩ := boxEdges across down isFirst
  obtain ⟨otherLeft, otherTop, otherRight, otherBottom⟩ := boxEdges across down isSecond
  rw [commonPixels, Rect.intersection]
  simp only [left, top, right, bottom, otherLeft, otherTop, otherRight, otherBottom]
  split
  · next apart =>
      have nothing : min (first.x + width) (second.x + width) - max first.x second.x = 0 ∨
          min (first.y + height) (second.y + height) - max first.y second.y = 0 := by omega
      rcases nothing with empty | empty
      · rw [empty, Nat.zero_mul, Option.elim_none]
      · rw [empty, Nat.mul_zero, Option.elim_none]
  · next meets =>
      have columns : (min (first.x + width : Int) (second.x + width) -
          max (first.x : Int) second.x).toNat =
          min (first.x + width) (second.x + width) - max first.x second.x := by omega
      have rows : (min (first.y + height : Int) (second.y + height) -
          max (first.y : Int) second.y).toNat =
          min (first.y + height) (second.y + height) - max first.y second.y := by omega
      rw [Option.elim_some, Rect.area, columns, rows, sideFits (by omega), sideFits (by omega)]

/-- Hits overlap if they have more than half of their pixels in common. -/
theorem overlapsIff (across : width < 2 ^ 32) (down : height < 2 ^ 32) {first second : Hit ℝ}
    (isFirst : first.InRange) (isSecond : second.InRange) :
    first.overlaps width height second = true ↔
      width * height < 2 * (first.pixels width height ∩ second.pixels width height).card := by
  have area (hit : Hit ℝ) : (hit.box width height).area = width * height := by
    rw [box, Rect.area, sideFits across, sideFits down]
  have common := commonArea across down isFirst isSecond
  have halved : (half : ℝ) = 1 / 2 := by
    rw [half, Scalar.ofNatReal, Scalar.ofNatReal]
    norm_num
  rw [overlaps, Scalar.exceedsReal, halved]
  rcases (width * height).eq_zero_or_pos with empty | positive
  · -- Boxes without pixels have nothing in common, and no share of it.
    have nothing : (first.pixels width height ∩ second.pixels width height).card = 0 := by
      refine Nat.eq_zero_of_le_zero ((Finset.card_le_card Finset.inter_subset_left).trans ?_)
      simp [pixels, empty]
    rw [Rect.overlapRatio, area first, area second, min_self, if_pos empty, nothing, empty,
      Scalar.ofNatReal]
    norm_num
  · have share : (first.box width height).overlapRatio ℝ (second.box width height) =
        (first.pixels width height ∩ second.pixels width height).card /
          (width * height : Nat) := by
      rw [Rect.overlapRatio, area first, area second, min_self, if_neg positive.ne', ← common]
      cases (first.box width height).intersection (second.box width height) with
      | none => simp [Scalar.ofNatReal]
      | some rect => rfl
    rw [share, div_lt_div_iff₀ (by norm_num) (by exact_mod_cast positive), one_mul,
      mul_comm _ (2 : ℝ)]
    exact_mod_cast Iff.rfl

/-- The kept hits of a picture share at most half of its pixels with each other. -/
theorem apartPixels (wide : 0 < width) (high : 0 < height) (limit : Nat)
    {hits : List (Hit ℝ)} (boxed : ∀ hit ∈ hits, hit.Boxed width height) :
    (apart width height limit hits).Pairwise fun first second =>
      2 * (first.pixels width height ∩ second.pixels width height).card ≤ width * height := by
  have separate := keptApart width height limit .nil
    (hits.mergeSort fun first second => decide (second.score ≤ first.score))
  refine separate.imp_of_mem fun {first second} isFirst isSecond apart => ?_
  have firstBoxed := boxed _ (memOfApart isFirst)
  have across : width < 2 ^ 32 := by have := firstBoxed.right; omega
  have down : height < 2 ^ 32 := by have := firstBoxed.bottom; omega
  have overlap := overlapsIff across down (firstBoxed.inRange wide high)
    ((boxed _ (memOfApart isSecond)).inRange wide high)
  rw [apart] at overlap
  simpa using overlap

end Picture.Hit

end DeskScript
