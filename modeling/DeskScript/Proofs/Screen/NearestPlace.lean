/-
This file shows which of several equally good places of an image is found. Hits that overlap an
earlier one are dropped before the distances from the center are compared, so that the place that is
found is the nearest one of those that are left, and a dropped one can be nearer.
-/

import Mathlib
import DeskScript.Proofs.Match.ReadingOrder
import DeskScript.Proofs.Screen.FoundImage

namespace DeskScript

namespace Picture

/-! ### Rows -/

/-- The first hit is in a higher row, or further to the left in the same one. -/
def Hit.RowBefore {scalar : Type} (first second : Hit scalar) : Prop :=
  first.y < second.y ∨ first.y = second.y ∧ first.x < second.x

namespace Search

theorem positionsRows (left right top bottom : Nat) : (positions left right top bottom).Pairwise
    fun first second => first.2 < second.2 ∨ first.2 = second.2 ∧ first.1 < second.1 := by
  rw [positions, List.pairwise_flatMap]
  constructor
  · intro row _
    rw [List.pairwise_map]
    exact (List.pairwise_lt_range' 1).imp fun less => .inr ⟨rfl, less⟩
  · refine (List.pairwise_lt_range' 1).imp ?_
    intro row other less first isFirst second isSecond
    obtain ⟨x, -, rfl⟩ := List.mem_map.mp isFirst
    obtain ⟨y, -, rfl⟩ := List.mem_map.mp isSecond
    exact .inl less

/-- The hits at all places come row after row. -/
theorem allHitsRows {scalar : Type} [Scalar scalar] (scene picture : Picture)
    (threshold : scalar) : (allHits scene picture threshold).Pairwise Hit.RowBefore := by
  rw [allHits, hitsAt, List.pairwise_filterMap]
  refine (positionsRows _ _ _ _).imp fun {first second} before hit isHit other isOther => ?_
  dsimp only at isHit isOther
  split at isHit
  · split at isOther
    · cases isHit
      cases isOther
      exact before
    · cases isOther
  · cases isHit

end Search

namespace Hit

/-- The first hit has a higher score, or the same one and comes first in the order of the rows. -/
structure Before (first second : Hit ℝ) : Prop where
  score : second.score ≤ first.score
  row : first.score = second.score → first.RowBefore second

/-- Hits with the same score stay in the order of the rows when they are sorted. -/
theorem sortedRows {hits : List (Hit ℝ)} (rows : hits.Pairwise RowBefore) :
    (hits.mergeSort fun first second => decide (second.score ≤ first.score)).Pairwise Before := by
  rw [List.pairwise_iff_forall_sublist]
  intro first second pair
  refine ⟨List.pairwise_iff_forall_sublist.mp (sortedByScore hits) pair, fun same => ?_⟩
  let atMost (first second : Hit ℝ) : Bool := decide (second.score ≤ first.score)
  let alike (hit : Hit ℝ) : Bool := decide (hit.score = first.score)
  have stable : (hits.mergeSort atMost).filter alike = hits.filter alike := by
    refine Match.mergeSortFilter (fun first second third higher further => ?_)
      (fun first second => ?_) (fun first second isFirst isSecond => ?_) hits
    · exact decide_eq_true ((of_decide_eq_true further).trans (of_decide_eq_true higher))
    · simpa [atMost] using le_total _ _
    · exact decide_eq_true
        ((of_decide_eq_true isSecond).trans (of_decide_eq_true isFirst).symm).le
  have both : [first, second].Sublist (hits.filter alike) := by
    rw [← stable]
    simpa [alike, same] using pair.filter alike
  exact List.pairwise_iff_forall_sublist.mp rows (both.trans List.filter_sublist)

/-- Of hits in the order of the rows, each that is dropped is outdone by earlier or better ones. -/
theorem apartRows (width height limit : Nat) {hits : List (Hit ℝ)}
    (rows : hits.Pairwise RowBefore) : ((apart width height limit hits).Pairwise fun first second =>
      Before first second ∧ ¬first.overlaps width height second = true) ∧
    ∃ dropped, hits.Perm (apart width height limit hits ++ dropped) ∧ ∀ hit ∈ dropped,
      Outdone width height limit Before (apart width height limit hits) hit := by
  have sorted := sortedRows rows
  obtain ⟨dropped, perm, outdone⟩ := droppedOutdone width height limit [] sorted nofun
  refine ⟨?_, dropped, (List.mergeSort_perm hits _).symm.trans perm, outdone⟩
  have separate : (apart width height limit hits).Pairwise fun first second =>
      first.overlaps width height second = false := keptApart width height limit .nil _
  exact (sorted.sublist (apartSublist width height limit hits)).and
    (separate.imp Bool.eq_false_iff.mp)

end Hit

namespace Search

/-! ### Kept places -/

/--
Of the best places some are kept, in the order of the rows, and none of these is nearer than the
chosen one. A best place that is not kept overlaps an earlier one that is kept, or comes behind as
many kept ones as the limit allows.
-/
structure Preferred (limit : Nat) (overlap : Hit ℝ → Hit ℝ → Prop) (distance : Hit ℝ → Int)
    (scene picture : Picture) (chosen : Hit ℝ) (kept : List (Hit ℝ)) : Prop where
  isKept : chosen ∈ kept
  best : ∀ hit ∈ kept, BestPlace scene picture hit
  nearest : ∀ hit ∈ kept, distance chosen ≤ distance hit
  limited : kept.length ≤ limit
  apart : kept.Pairwise fun first second => first.RowBefore second ∧ ¬overlap first second
  dropped : ∀ hit, BestPlace scene picture hit → hit ∈ kept ∨
    (∃ other ∈ kept, other.RowBefore hit ∧ overlap other hit) ∨
      kept.length = limit ∧ ∀ other ∈ kept, other.RowBefore hit

variable {scene picture : Picture} {threshold : ℝ}

/-- Only overlaps and distances of best places matter. -/
theorem Preferred.alike {limit : Nat} {overlap other : Hit ℝ → Hit ℝ → Prop}
    {distance exact : Hit ℝ → Int} {chosen : Hit ℝ} {kept : List (Hit ℝ)}
    (preferred : Preferred limit overlap distance scene picture chosen kept)
    (overlaps : ∀ first second, BestPlace scene picture first → BestPlace scene picture second →
      (overlap first second ↔ other first second))
    (distances : ∀ hit, BestPlace scene picture hit → distance hit = exact hit) :
    Preferred limit other exact scene picture chosen kept := by
  obtain ⟨isKept, best, nearest, limited, apart, dropped⟩ := preferred
  refine ⟨isKept, best, fun hit inside => ?_, limited, ?_, fun hit isBest => ?_⟩
  · rw [← distances chosen (best chosen isKept), ← distances hit (best hit inside)]
    exact nearest hit inside
  · refine apart.imp_of_mem fun isFirst isSecond => And.imp_right (mt ?_)
    exact (overlaps _ _ (best _ isFirst) (best _ isSecond)).mpr
  · refine (dropped hit isBest).imp_right (Or.imp_left ?_)
    rintro ⟨first, inside, before, overlapped⟩
    exact ⟨first, inside, before, (overlaps _ _ (best _ inside) isBest).mp overlapped⟩

theorem BestPlace.sameScore {first second : Hit ℝ} (isFirst : BestPlace scene picture first)
    (isSecond : BestPlace scene picture second) : first.score = second.score := by
  refine le_antisymm ?_ ?_
  · exact isFirst.score.le.trans (isSecond.greatest _ _ isFirst.placed)
  · exact isSecond.score.le.trans (isFirst.greatest _ _ isSecond.placed)

/-- What goes before a best place has its score, and comes first in the order of the rows. -/
theorem BestPlace.before {first second : Hit ℝ} (isBest : BestPlace scene picture second)
    (placed : Placed scene picture first.x first.y)
    (score : first.score = (Correlation.of scene picture).score first.x first.y)
    (before : first.Before second) : first.score = second.score ∧ first.RowBefore second := by
  have same : first.score = second.score :=
    le_antisymm (score.le.trans (isBest.greatest _ _ placed)) before.score
  exact ⟨same, before.row same⟩

/-- The hits with the score of the chosen one are what is kept of the best places. -/
theorem keptPreferred {limit : Nat} {distance : Hit ℝ → Int} {chosen : Hit ℝ} {left : List (Hit ℝ)}
    (isLeft : Hit.apart picture.width picture.height limit (allHits scene picture threshold) = left)
    (isBest : BestPlace scene picture chosen) (found : chosen ∈ left)
    (nearest : ∀ hit ∈ left, hit.score = chosen.score → distance chosen ≤ distance hit) :
    Preferred limit (fun first second => first.overlaps picture.width picture.height second = true)
      distance scene picture chosen (left.filter fun hit => decide (hit.score = chosen.score)) := by
  obtain ⟨ordered, dropped, perm, outdone⟩ := Hit.apartRows picture.width picture.height limit
    (allHitsRows scene picture threshold)
  have limited := Hit.apartLimited picture.width picture.height limit
    (allHits scene picture threshold)
  have isPlace (hit : Hit ℝ) (inside : hit ∈ left) : Placed scene picture hit.x hit.y ∧
      hit.score = (Correlation.of scene picture).score hit.x hit.y ∧ threshold ≤ hit.score :=
    (memAllHits isBest.placed).mp (Hit.memOfApart (isLeft ▸ inside))
  have isKept {hit : Hit ℝ} : hit ∈ left.filter (fun hit => decide (hit.score = chosen.score)) ↔
      hit ∈ left ∧ hit.score = chosen.score := by
    rw [List.mem_filter, decide_eq_true_iff]
  have earlier {hit other : Hit ℝ} (best : BestPlace scene picture hit) (inside : other ∈ left)
      (before : other.Before hit) : other.score = chosen.score ∧ other.RowBefore hit := by
    obtain ⟨same, row⟩ := best.before (isPlace other inside).1 (isPlace other inside).2.1 before
    exact ⟨same.trans (best.sameScore isBest), row⟩
  rw [isLeft] at ordered perm outdone limited
  refine ⟨isKept.mpr ⟨found, rfl⟩, fun hit kept => ?_, fun hit kept => ?_,
    (List.length_filter_le _ _).trans limited, ?_, fun hit best => ?_⟩
  · obtain ⟨inside, same⟩ := isKept.mp kept
    obtain ⟨placed, score, -⟩ := isPlace hit inside
    exact ⟨placed, score, fun x y place => (isBest.greatest x y place).trans_eq same.symm⟩
  · obtain ⟨inside, same⟩ := isKept.mp kept
    exact nearest hit inside same
  · refine (ordered.filter _).imp_of_mem fun isFirst isSecond => And.imp_left fun before => ?_
    exact before.row ((isKept.mp isFirst).2.trans (isKept.mp isSecond).2.symm)
  · have isHit : hit ∈ allHits scene picture threshold := (memAllHits isBest.placed).mpr
      ⟨best.placed, best.score, (isPlace chosen found).2.2.trans_eq (isBest.sameScore best)⟩
    rcases List.mem_append.mp (perm.mem_iff.mp isHit) with inside | isDropped
    · exact .inl (isKept.mpr ⟨inside, best.sameScore isBest⟩)
    · refine .inr ?_
      rcases outdone hit isDropped with ⟨other, inside, before, overlap⟩ | ⟨full, all⟩
      · obtain ⟨same, row⟩ := earlier best inside before
        exact .inl ⟨other, isKept.mpr ⟨inside, same⟩, row, overlap⟩
      · have whole : left.filter (fun hit => decide (hit.score = chosen.score)) = left :=
          List.filter_eq_self.mpr fun other inside =>
            decide_eq_true (earlier best inside (all other inside)).1
        rw [whole]
        exact .inr ⟨limited.antisymm full,
          fun other inside => (earlier best inside (all other inside)).2⟩

end Search

end Picture

/-- The center of a rectangle is its middle if this can be given by coordinates. -/
theorem Rect.centerMiddle (rect : Rect) (fits : rect.MiddleFits) :
    rect.center.x.toInt = rect.left + (rect.width.toNat / 2 : Nat) ∧
      rect.center.y.toInt = rect.top + (rect.height.toNat / 2 : Nat) := by
  have leastX : -2 ^ 31 ≤ rect.left := rect.x.le_toInt
  have leastY : -2 ^ 31 ≤ rect.top := rect.y.le_toInt
  exact ⟨Int32.toInt_ofInt_of_le (by omega) fits.across,
    Int32.toInt_ofInt_of_le (by omega) fits.down⟩

namespace Screen

open Picture Picture.Search

/-! ### Distances from the center -/

/-- This is the distance that is compared, between the centers of a match and its view. -/
def comparedDistance (area : View) (image : Picture) (hit : Hit ℝ) : Int :=
  ((place area image hit).center.distanceSquared area.bounds.center).toInt

/-- This is the square of the distance between the middle of a placed image and of the scene. -/
def middleDistance (scene image : Picture) (hit : Hit ℝ) : Int :=
  ((hit.x + image.width / 2 : Nat) - (scene.width / 2 : Nat) : Int) ^ 2 +
    ((hit.y + image.height / 2 : Nat) - (scene.height / 2 : Nat) : Int) ^ 2

/-- An image at the second place would share more than half of its pixels with the first one. -/
def Crowds (image : Picture) (first second : Hit ℝ) : Prop :=
  image.width * image.height <
    2 * (first.pixels image.width image.height ∩ second.pixels image.width image.height).card

variable {screen image : Picture} {region : Option Rect} {area : View}

/-- On screens whose sides fit into a coordinate the exact distances are compared. -/
theorem comparedMiddle (wide : screen.width < 2 ^ 31) (high : screen.height < 2 ^ 31)
    {left top : Nat} (isShown : Shows screen region area left top) {hit : Hit ℝ}
    (placed : Placed area.picture image hit.x hit.y) :
    comparedDistance area image hit = middleDistance area.picture image hit := by
  obtain ⟨x, y, width, height⟩ := placeEdges wide high isShown placed
  obtain ⟨across, down, insideX, insideY⟩ := placed
  have sceneX := isShown.insideX
  have sceneY := isShown.insideY
  have originX : area.bounds.left = left := isShown.x
  have originY : area.bounds.top = top := isShown.y
  have areaWidth : area.bounds.width.toNat = area.picture.width := Hit.sideFits (by omega)
  have areaHeight : area.bounds.height.toNat = area.picture.height := Hit.sideFits (by omega)
  obtain ⟨column, row⟩ := (place area image hit).centerMiddle ⟨by omega, by omega⟩
  obtain ⟨middleX, middleY⟩ := area.bounds.centerMiddle ⟨by omega, by omega⟩
  have near : (place area image hit).center.Near area.bounds.center :=
    ⟨abs_lt.mpr (by omega), abs_lt.mpr (by omega)⟩
  rw [comparedDistance, Point.distanceExact near, Point.exactDistance, column, row, middleX,
    middleY, middleDistance, x, y, width, height, originX, originY, areaWidth, areaHeight]
  push_cast
  ring

/-- On these screens the hits that overlap share more than half of their pixels. -/
theorem overlapsCrowd (wide : screen.width < 2 ^ 31) (high : screen.height < 2 ^ 31)
    {left top : Nat} (isShown : Shows screen region area left top) {first second : Hit ℝ}
    (isFirst : Placed area.picture image first.x first.y)
    (isSecond : Placed area.picture image second.x second.y) :
    first.overlaps image.width image.height second = true ↔ Crowds image first second := by
  obtain ⟨across, down, insideX, insideY⟩ := isFirst
  have otherX := isSecond.insideX
  have otherY := isSecond.insideY
  have sceneX := isShown.insideX
  have sceneY := isShown.insideY
  exact Hit.overlapsIff (by omega) (by omega) ⟨by omega, by omega⟩ ⟨by omega, by omega⟩

/-! ### Chosen places -/

section

variable (filter : Type) [Scalar filter] {search : Search ℝ} {label : String} {threshold : ℝ}

/-- The match that is found in a view is at the preferred place in it. -/
theorem foundPreferred (exhaustive : search.factor image.width image.height = 1)
    (seen : view screen region = some area) {found : Match ℝ}
    (isFound : findImage filter search screen image label region threshold = some found) :
    ∃ chosen kept, found = matchOfHit area image label chosen ∧
      Preferred search.maxHits
        (fun first second => first.overlaps image.width image.height second = true)
        (comparedDistance area image) area.picture image chosen kept := by
  rw [foundHit filter seen] at isFound
  have best := Match.exactBest isFound
  obtain ⟨chosen, isHit, rfl⟩ := List.mem_map.mp best.candidate
  have nearest (hit : Hit ℝ) (inside : hit ∈ search.hits filter area.picture image threshold)
      (equal : hit.score = chosen.score) :
      comparedDistance area image chosen ≤ comparedDistance area image hit :=
    best.nearest (matchOfHit area image label hit) (List.mem_map_of_mem inside) equal
  -- The first hit has the highest score of all places, so that the chosen one has it as well.
  obtain ⟨first, rest, same⟩ := List.exists_cons_of_ne_nil (List.ne_nil_of_mem isHit)
  have isBest := firstBest filter exhaustive same
  have atLeast := best.greatest _ (List.mem_map_of_mem (same ▸ List.mem_cons_self : first ∈ _))
  have isLeft : search.hits filter area.picture image threshold = _ :=
    hitsOfPlaced filter search isBest.placed exhaustive
  obtain ⟨placed, score, -⟩ := (memAllHits isBest.placed).mp (Hit.memOfApart (isLeft ▸ isHit))
  have chosenBest : BestPlace area.picture image chosen :=
    ⟨placed, score, fun x y other => (isBest.greatest x y other).trans atLeast⟩
  exact ⟨chosen, _, rfl, keptPreferred isLeft.symm chosenBest isHit nearest⟩

/--
An image that is searched at all places is found at a place with the highest score in the view.
This is the nearest to the center of those places with this score that are kept. On screens
whose sides fit into a coordinate the view is the common part of the screen and the region,
distances are exact, and a place that is not kept shares more than half of its pixels with an
earlier one that is, or comes behind as many as the limit allows.
-/
theorem nearestPlaceFound (search : Search ℝ) (screen image : Picture) (label : String)
    (region : Option Rect) (threshold : ℝ)
    (exhaustive : search.factor image.width image.height = 1) {found : Match ℝ}
    (isFound : findImage filter search screen image label region threshold = some found) :
    ∃ area chosen kept, view screen region = some area ∧
      found = matchOfHit area image label chosen ∧
      Preferred search.maxHits
        (fun first second => first.overlaps image.width image.height second = true)
        (comparedDistance area image) area.picture image chosen kept ∧
      (screen.width < 2 ^ 31 → screen.height < 2 ^ 31 →
        (∃ left top, Shows screen region area left top) ∧
        Preferred search.maxHits (Crowds image) (middleDistance area.picture image) area.picture
          image chosen kept) := by
  cases seen : view screen region with
  | none =>
      rw [findImage, seen] at isFound
      cases isFound
  | some area =>
      obtain ⟨chosen, kept, same, preferred⟩ := foundPreferred filter exhaustive seen isFound
      refine ⟨area, chosen, kept, rfl, same, preferred, fun wide high => ?_⟩
      obtain ⟨left, top, isShown⟩ := viewShows (by omega) (by omega) seen
      exact ⟨⟨left, top, isShown⟩, preferred.alike
        (fun _ _ isFirst isSecond => overlapsCrowd wide high isShown isFirst.placed isSecond.placed)
        fun _ isBest => comparedMiddle wide high isShown isBest.placed⟩

end

/-! ### A nearer place -/

/-- On this screen a tile agrees everywhere. -/
def strip : Picture := .generate 5 1 fun _ _ => 7

def tile : Picture := .generate 3 1 fun _ _ => 7

theorem tileFactor : (standard : Search ℝ).factor tile.width tile.height = 1 :=
  standardOne (.inl (by decide))

theorem tileScore {x : Nat} (inside : x + 3 ≤ 5) :
    (Correlation.of strip tile : Correlation ℝ).score x 0 = 1 := by
  rw [← ownScore (show 0 < tile.width by decide) (by decide)
    fun faint => absurd (faintLarge faint) (by decide)]
  refine scoreAgrees inside (by decide) (by decide) (by decide) fun column inColumn row inRow => ?_
  have columnInside : column < 3 := inColumn
  have rowInside : row < 1 := inRow
  rw [strip, tile, brightnessGenerate _ _ _ _ _ (by omega) (by omega),
    brightnessGenerate _ _ _ _ _ (by omega) (by omega)]

theorem tileHits : (standard : Search ℝ).hits ℝ strip tile (9 / 10) = [⟨0, 0, 1⟩, ⟨2, 0, 1⟩] := by
  have placed : Placed strip tile 0 0 := ⟨by decide, by decide, by decide, by decide⟩
  have enough : (9 / 10 : ℝ) ≤ 1 := by norm_num
  have all : allHits strip tile (9 / 10 : ℝ) = [⟨0, 0, 1⟩, ⟨1, 0, 1⟩, ⟨2, 0, 1⟩] := by
    show hitsAt _ _ [(0, 0), (1, 0), (2, 0)] = _
    simp [hitsAt, tileScore, enough]
  have crowded : (⟨0, 0, 1⟩ : Hit ℝ).overlaps 3 1 ⟨1, 0, 1⟩ = true :=
    (Hit.overlapsIff (by decide) (by decide) ⟨by decide, by decide⟩ ⟨by decide, by decide⟩).mpr
      (by rw [Hit.commonPixels]; decide)
  have apart : (⟨0, 0, 1⟩ : Hit ℝ).overlaps 3 1 ⟨2, 0, 1⟩ = false :=
    Bool.eq_false_iff.mpr (mt (Hit.overlapsIff (by decide) (by decide) ⟨by decide, by decide⟩
      ⟨by decide, by decide⟩).mp (by rw [Hit.commonPixels]; decide))
  rw [hitsOfPlaced ℝ standard placed tileFactor, all]
  show Hit.apart 3 1 32 _ = _
  rw [Hit.apart, List.mergeSort_of_pairwise (by simp)]
  simp [Hit.keep, crowded, apart]

theorem tileFound : findImage ℝ (standard : Search ℝ) strip tile "tile" none (9 / 10) =
    some ⟨"tile", 1, ⟨0, 0, 3, 1⟩⟩ := by
  have seen : view strip none = some ⟨strip, ⟨0, 0⟩⟩ := rfl
  have moved : [⟨0, 0, 1⟩, ⟨2, 0, 1⟩].map (matchOfHit ⟨strip, ⟨0, 0⟩⟩ tile "tile") =
      ([⟨"tile", 1, ⟨0, 0, 3, 1⟩⟩, ⟨"tile", 1, ⟨2, 0, 3, 1⟩⟩] : List (Match ℝ)) := by rfl
  have distances : ¬(Rect.mk 2 0 3 1).center.distanceSquared ⟨2, 0⟩ <
      (Rect.mk 0 0 3 1).center.distanceSquared ⟨2, 0⟩ := by decide
  have enough : (9 / 10 : ℝ) ≤ 1 := by norm_num
  have anchor : (View.mk strip ⟨0, 0⟩).bounds.center = ⟨2, 0⟩ := by decide
  rw [foundHit ℝ seen, tileHits, moved, anchor]
  simp [Match.best?, Match.bestOf, Match.qualifies, Match.betterThan, Match.center, Scalar.exceeds,
    enough, distances]

/-- Of the equally good places of the tile the left one is found, which is kept. -/
theorem nearestPlaceFoundTile :
    (standard : Search ℝ).factor tile.width tile.height = 1 ∧
    findImage ℝ (standard : Search ℝ) strip tile "tile" none (9 / 10) =
      some ⟨"tile", 1, ⟨0, 0, 3, 1⟩⟩ ∧
    ∃ area chosen kept, view strip none = some area ∧
      ⟨"tile", 1, ⟨0, 0, 3, 1⟩⟩ = matchOfHit area tile "tile" chosen ∧
      Preferred 32 (Crowds tile) (middleDistance area.picture tile) area.picture tile chosen
        kept := by
  obtain ⟨area, chosen, kept, seen, same, -, exact⟩ := nearestPlaceFound ℝ (standard : Search ℝ)
    strip tile "tile" none (9 / 10) tileFactor tileFound
  exact ⟨tileFactor, tileFound, area, chosen, kept, seen, same,
    (exact (by decide) (by decide)).2⟩

/-- The tile is found at the left although another place with the full score is at the center. -/
theorem nearerPlaceDropped :
    (standard : Search ℝ).factor tile.width tile.height = 1 ∧
    findImage ℝ (standard : Search ℝ) strip tile "tile" none (9 / 10) =
      some ⟨"tile", 1, ⟨0, 0, 3, 1⟩⟩ ∧
    Placed strip tile 1 0 ∧ (Correlation.of strip tile : Correlation ℝ).score 1 0 = 1 ∧
    (Rect.mk 1 0 3 1).center.exactDistance (whole strip).center <
      (Rect.mk 0 0 3 1).center.exactDistance (whole strip).center :=
  ⟨tileFactor, tileFound, ⟨by decide, by decide, by decide, by decide⟩, tileScore (by decide),
    by decide⟩

end Screen

end DeskScript
