/-
This file says what can be relied on in the result of a search for a picture if scores are exact.
The search is repeated in a careful form, which has no result if a score cannot be told or if a
number leaves its word. It has the same result as the plain one, whether the pictures are scaled
first or not, so that a search never reads outside the pictures.
-/

import Mathlib
import DeskScript.Proofs.Picture.CarefulReading
import DeskScript.Proofs.Picture.WindowSums

namespace DeskScript.Picture

/-! ### Factors -/

namespace Search

variable {scalar : Type} (search : Search scalar) (width height : Nat)

theorem halvedFactorAtMost (factor : Nat) : search.halvedFactor width height factor ≤ factor := by
  fun_induction halvedFactor search width height factor with
  | case1 factor _ inductionHypothesis => omega
  | case2 factor _ => exact le_rfl

theorem factorAtMost : search.factor width height ≤ max search.maxFactor.toNat 1 :=
  max_le (search.halvedFactorAtMost width height _) (le_max_right _ _)

section

variable [Scalar scalar] {width height}

/-- A factor is halved if it would leave less than eight pixels of a side. -/
theorem standardHalved {factor : Nat} (some : 1 < factor)
    (short : width / factor < 8 ∨ height / factor < 8) :
    (standard : Search scalar).halvedFactor width height factor =
      (standard : Search scalar).halvedFactor width height (factor / 2) := by
  rw [halvedFactor, if_pos ⟨some, short⟩]

/-- Pictures with a side of less than sixteen are searched at all places. -/
theorem standardOne (short : width < 16 ∨ height < 16) :
    (standard : Search scalar).factor width height = 1 := by
  show max ((standard : Search scalar).halvedFactor width height 8) 1 = 1
  rw [standardHalved (by decide) (by omega), standardHalved (by decide) (by omega),
    standardHalved (by decide) (by omega), halvedFactor,
    if_neg fun less => absurd less.1 (by decide)]
  rfl

/-- Pictures whose shorter side is below thirty-two are scaled down to half their size. -/
theorem standardTwo (wide : 16 ≤ width) (high : 16 ≤ height) (short : width < 32 ∨ height < 32) :
    (standard : Search scalar).factor width height = 2 := by
  have enough : (standard : Search scalar).halvedFactor width height 2 = 2 := by
    rw [halvedFactor, if_neg]
    rintro ⟨-, less⟩
    change width / 2 < 8 ∨ height / 2 < 8 at less
    omega
  show max ((standard : Search scalar).halvedFactor width height 8) 1 = 2
  rw [standardHalved (by decide) (by omega), standardHalved (by decide) (by omega),
    enough]
  rfl

end

end Search

/-! ### Sound hits -/

variable {scalar : Type} [Scalar scalar]

/-- A sound hit fits into the scene, and has the score that the picture has there. -/
structure Hit.Sound (scene picture : Picture) (threshold : scalar) (hit : Hit scalar) : Prop where
  insideX : hit.x + picture.width ≤ scene.width
  insideY : hit.y + picture.height ≤ scene.height
  score : hit.score = (Correlation.of scene picture).score hit.x hit.y
  enough : threshold ≤ hit.score

namespace Search

theorem memPositions {left right top bottom x y : Nat} :
    (x, y) ∈ positions left right top bottom ↔
      (left ≤ x ∧ x ≤ right) ∧ top ≤ y ∧ y ≤ bottom := by
  simp only [positions, List.mem_flatMap, List.mem_map, List.mem_range'_1, Prod.mk.injEq]
  constructor
  · rintro ⟨row, rowInside, column, columnInside, rfl, rfl⟩
    omega
  · rintro ⟨columnInside, rowInside⟩
    exact ⟨y, by omega, x, by omega, rfl, rfl⟩

/-- The picture fits into the scene at these places. -/
def Fitting (scene picture : Picture) (places : List (Nat × Nat)) : Prop :=
  ∀ place ∈ places, place.1 + picture.width ≤ scene.width ∧
    place.2 + picture.height ≤ scene.height

theorem fittingPositions {scene picture : Picture} (fitsX : picture.width ≤ scene.width)
    (fitsY : picture.height ≤ scene.height) {left right top bottom : Nat}
    (rightInside : right ≤ scene.width - picture.width)
    (bottomInside : bottom ≤ scene.height - picture.height) :
    Fitting scene picture (positions left right top bottom) := by
  rintro ⟨x, y⟩ isPlace
  obtain ⟨column, row⟩ := memPositions.mp isPlace
  exact ⟨by omega, by omega⟩

theorem hitsAtSound {scene picture : Picture} {threshold : scalar} {places : List (Nat × Nat)}
    (fitting : Fitting scene picture places) {hit : Hit scalar}
    (isHit : hit ∈ hitsAt (.of scene picture) threshold places) :
    hit.Sound scene picture threshold := by
  obtain ⟨⟨x, y⟩, isPlace, found⟩ := List.mem_filterMap.mp isHit
  dsimp only at found
  split at found
  · next enough =>
      cases found
      exact ⟨(fitting _ isPlace).1, (fitting _ isPlace).2, rfl, enough⟩
  · cases found

/-- The best hit so far gives way to a hit with a higher score. -/
def better (best : Option (Hit scalar)) (hit : Hit scalar) : Option (Hit scalar) :=
  match best with
  | none => some hit
  | some other => if Scalar.exceeds hit.score other.score then some hit else best

theorem betterOf (best : Option (Hit scalar)) (hit : Hit scalar) :
    better best hit = some hit ∨ better best hit = best := by
  cases best with
  | none => exact .inl rfl
  | some other =>
      rw [better]
      exact ite_eq_or_eq _ _ _

/-- This is the hit at a place. -/
def hitAt (correlation : Correlation scalar) (place : Nat × Nat) : Hit scalar :=
  ⟨place.1, place.2, correlation.score place.1 place.2⟩

theorem bestAtFold (correlation : Correlation scalar) (places : List (Nat × Nat)) :
    bestAt correlation places =
      places.foldl (fun best place => better best (hitAt correlation place)) none := rfl

/-- The best of some places is one of them, with the score that the picture has there. -/
theorem bestAtPlace {correlation : Correlation scalar} {places : List (Nat × Nat)}
    {hit : Hit scalar} (found : bestAt correlation places = some hit) :
    ∃ place ∈ places, hit = hitAt correlation place := by
  rw [bestAtFold] at found
  refine List.foldlRecOn places _ (motive := fun best => ∀ hit, best = some hit →
    ∃ place ∈ places, hit = hitAt correlation place) (by simp) ?_ hit found
  intro best already place isPlace hit isBest
  rcases betterOf best (hitAt correlation place) with new | old
  · exact ⟨place, isPlace, Option.some_injective _ (isBest.symm.trans new)⟩
  · exact already hit (old.symm.trans isBest)

theorem refineSound {scene picture : Picture} (fitsX : picture.width ≤ scene.width)
    (fitsY : picture.height ≤ scene.height) {factor : Nat} {threshold : scalar}
    {rough hit : Hit scalar}
    (found : refine scene picture (.of scene picture) factor threshold rough = some hit) :
    hit.Sound scene picture threshold := by
  obtain ⟨isBest, enough⟩ := Option.filter_eq_some_iff.mp found
  obtain ⟨place, isPlace, rfl⟩ := bestAtPlace isBest
  obtain ⟨insideX, insideY⟩ := fittingPositions fitsX fitsY (min_le_right _ _) (min_le_right _ _)
    place isPlace
  exact ⟨insideX, insideY, rfl, of_decide_eq_true enough⟩

theorem coarseToFineSound {filter : Type} [Scalar filter] {search : Search scalar}
    {scene picture : Picture} (fitsX : picture.width ≤ scene.width)
    (fitsY : picture.height ≤ scene.height) {factor : Nat} {threshold : scalar} {hit : Hit scalar}
    (isHit : hit ∈ search.coarseToFine filter scene picture (.of scene picture) factor threshold) :
    hit.Sound scene picture threshold := by
  rw [coarseToFine] at isHit
  dsimp only at isHit
  split at isHit
  · cases isHit
  · obtain ⟨rough, -, found⟩ := List.mem_filterMap.mp isHit
    exact refineSound fitsX fitsY found

/--
Nothing is found if the picture is empty or does not fit. Otherwise the hits are taken from sound
ones, whether or not the pictures were scaled first.
-/
theorem hitsCases (filter : Type) [Scalar filter] (search : Search scalar) (scene picture : Picture)
    (threshold : scalar) :
    search.hits filter scene picture threshold = [] ∨
      (0 < picture.width ∧ 0 < picture.height) ∧ ∃ found,
        search.hits filter scene picture threshold =
            Hit.apart picture.width picture.height search.maxHits found ∧
          ∀ hit ∈ found, hit.Sound scene picture threshold := by
  rw [hits]
  split
  · exact .inl rfl
  · next fits =>
      push Not at fits
      obtain ⟨wide, high, fitsX, fitsY⟩ := fits
      refine .inr ⟨⟨Nat.pos_of_ne_zero wide, Nat.pos_of_ne_zero high⟩, _, rfl, ?_⟩
      intro hit isFound
      split at isFound
      · exact hitsAtSound (fittingPositions fitsX fitsY le_rfl le_rfl) isFound
      · exact coarseToFineSound fitsX fitsY isFound

/-! ### Careful scores -/

def hitsAt? (correlation : Correlation scalar) (threshold : scalar) :
    List (Nat × Nat) → Option (List (Hit scalar))
  | [] => some []
  | (x, y) :: places => do
      let score ← correlation.score? x y
      let hits ← hitsAt? correlation threshold places
      return if threshold ≤ score then ⟨x, y, score⟩ :: hits else hits

def bestAt? (correlation : Correlation scalar) (places : List (Nat × Nat)) :
    Option (Option (Hit scalar)) :=
  places.foldlM (fun best (x, y) => do
    let score ← correlation.score? x y
    return better best ⟨x, y, score⟩) none

/-- A scene is moderate if its sides and its number of pixels fit into their words. -/
structure Moderate (scene : Picture) : Prop where
  width : scene.width < 2 ^ 31
  height : scene.height < 2 ^ 31
  area : scene.width * scene.height < 2 ^ 32

variable {scene picture : Picture} {places : List (Nat × Nat)}

theorem scoreFitting (moderate : Moderate scene) (fitting : Fitting scene picture places)
    {x y : Nat} (isPlace : (x, y) ∈ places) :
    (Correlation.of scene picture : Correlation scalar).score? x y =
      some ((Correlation.of scene picture).score x y) := by
  obtain ⟨insideX, insideY⟩ := fitting _ isPlace
  have wide := moderate.width
  have high := moderate.height
  have small : picture.width * picture.height ≤ scene.width * scene.height :=
    Nat.mul_le_mul ((Nat.le_add_left _ _).trans insideX) ((Nat.le_add_left _ _).trans insideY)
  exact Correlation.scoreInside scene picture (by omega) (by omega)
    (small.trans_lt moderate.area) insideX insideY

theorem hitsAtFitting (moderate : Moderate scene) (fitting : Fitting scene picture places)
    (threshold : scalar) : hitsAt? (.of scene picture) threshold places =
      some (hitsAt (.of scene picture) threshold places) := by
  induction places with
  | nil => rfl
  | cons place places inductionHypothesis =>
      rw [hitsAt?, scoreFitting moderate fitting List.mem_cons_self,
        inductionHypothesis fun other isPlace => fitting other (List.mem_cons_of_mem place isPlace)]
      simp only [hitsAt, List.filterMap_cons, Option.bind_eq_bind, Option.bind_some]
      split <;> rfl

theorem bestAtFitting (moderate : Moderate scene) (fitting : Fitting scene picture places) :
    bestAt? (.of scene picture : Correlation scalar) places =
      some (bestAt (.of scene picture) places) := by
  rw [bestAt?, bestAtFold]
  generalize (none : Option (Hit scalar)) = best
  induction places generalizing best with
  | nil => rfl
  | cons place places inductionHypothesis =>
      rw [List.foldlM_cons, List.foldl_cons]
      dsimp only
      rw [scoreFitting moderate fitting List.mem_cons_self]
      exact inductionHypothesis
        (fun other isPlace => fitting other (List.mem_cons_of_mem place isPlace)) _

/-! ### Careful searches -/

def refine? (scene picture : Picture) (correlation : Correlation scalar) (factor : Nat)
    (threshold : scalar) (hit : Hit scalar) : Option (Option (Hit scalar)) := do
  let radius ← word? (2 * factor)
  let x ← word? (hit.x * factor)
  let y ← word? (hit.y * factor)
  let right ← word? (x + radius)
  let bottom ← word? (y + radius)
  let best ← bestAt? correlation
    (positions (x - radius) (min right (scene.width - picture.width))
      (y - radius) (min bottom (scene.height - picture.height)))
  return best.filter fun hit => decide (threshold ≤ hit.score)

def coarseToFine? (filter : Type) [Scalar filter] (search : Search scalar)
    (scene picture : Picture) (correlation : Correlation scalar) (factor : Nat)
    (threshold : scalar) : Option (List (Hit scalar)) := do
  let scaled? (picture : Picture) : Option Picture :=
    picture.scale? filter (max (picture.width / factor) 1) (max (picture.height / factor) 1)
  let smallScene ← scaled? scene
  let small ← scaled? picture
  if smallScene.width < small.width ∨ smallScene.height < small.height then return []
  else
    let coarse : Correlation scalar ← Correlation.of? smallScene small
    let least := Scalar.larger (Scalar.ofNat 0) (threshold - search.coarseSlack)
    let rough ← hitsAt? coarse least
      (positions 0 (smallScene.width - small.width) 0 (smallScene.height - small.height))
    let candidates := Hit.apart small.width small.height search.refineCandidates rough
    let refined ← candidates.mapM (refine? scene picture correlation factor threshold)
    return refined.filterMap id

def hits? (filter : Type) [Scalar filter] (search : Search scalar) (scene picture : Picture)
    (threshold : scalar) : Option (List (Hit scalar)) :=
  if picture.width = 0 ∨ picture.height = 0 ∨ scene.width < picture.width ∨
      scene.height < picture.height then some []
  else do
    let factor := search.factor picture.width picture.height
    let correlation : Correlation scalar ← Correlation.of? scene picture
    let found ←
      if factor = 1 then
        hitsAt? correlation threshold
          (positions 0 (scene.width - picture.width) 0 (scene.height - picture.height))
      else search.coarseToFine? filter scene picture correlation factor threshold
    return Hit.apart picture.width picture.height search.maxHits found

theorem scaleWidth (filter : Type) [Scalar filter] (picture : Picture) (width height : Nat) :
    (picture.scale filter width height).width = width := by
  rw [scale]
  split
  · next same => exact same.1
  · rfl

theorem scaleHeight (filter : Type) [Scalar filter] (picture : Picture) (width height : Nat) :
    (picture.scale filter width height).height = height := by
  rw [scale]
  split
  · next same => exact same.2
  · rfl

/-- A position in a scaled side stays within the side when it is scaled back. -/
theorem scaledBack {side factor part position : Nat}
    (inside : position + max part 1 ≤ max (side / factor) 1) : position * factor ≤ side := by
  rcases position.eq_zero_or_pos with rfl | positive
  · rw [Nat.zero_mul]
    exact Nat.zero_le _
  · calc position * factor ≤ side / factor * factor := Nat.mul_le_mul_right factor (by omega)
      _ ≤ side := Nat.div_mul_le_self side factor

theorem refineFitting (moderate : Moderate scene) (fitsX : picture.width ≤ scene.width)
    (fitsY : picture.height ≤ scene.height) {factor : Nat} (small : factor < 2 ^ 30)
    (threshold : scalar) {hit : Hit scalar} (insideX : hit.x * factor ≤ scene.width)
    (insideY : hit.y * factor ≤ scene.height) :
    refine? scene picture (.of scene picture) factor threshold hit =
      some (refine scene picture (.of scene picture) factor threshold hit) := by
  have wide := moderate.width
  have high := moderate.height
  have radius : (UInt32.ofNat (2 * factor)).toNat = 2 * factor := Hit.sideFits (by omega)
  rw [refine?, refine, radius, wordSmall (by omega), wordSmall (by omega), wordSmall (by omega)]
  simp only [Option.bind_eq_bind, Option.bind_some]
  rw [wordSmall (by omega), wordSmall (by omega)]
  simp only [Option.bind_some]
  rw [bestAtFitting moderate (fittingPositions fitsX fitsY (min_le_right _ _) (min_le_right _ _))]
  rfl

theorem mapMGiven {item other : Type} {step? : item → Option other} {step : item → other}
    {items : List item} (given : ∀ item ∈ items, step? item = some (step item)) :
    items.mapM step? = some (items.map step) := by
  induction items with
  | nil => rfl
  | cons item items inductionHypothesis =>
      rw [List.mapM_cons, given item List.mem_cons_self,
        inductionHypothesis fun other isItem => given other (List.mem_cons_of_mem item isItem)]
      rfl

theorem moderateScale (filter : Type) [Scalar filter] (moderate : Moderate scene)
    (wide : 0 < scene.width) (high : 0 < scene.height) (factor : Nat) :
    Moderate
      (scene.scale filter (max (scene.width / factor) 1) (max (scene.height / factor) 1)) := by
  have across : max (scene.width / factor) 1 ≤ scene.width := max_le (Nat.div_le_self _ _) wide
  have down : max (scene.height / factor) 1 ≤ scene.height := max_le (Nat.div_le_self _ _) high
  constructor <;> simp only [scaleWidth, scaleHeight]
  · exact across.trans_lt moderate.width
  · exact down.trans_lt moderate.height
  · exact (Nat.mul_le_mul across down).trans_lt moderate.area

theorem ofFitting (moderate : Moderate scene) (fitsX : picture.width ≤ scene.width)
    (fitsY : picture.height ≤ scene.height) :
    Correlation.of? scene picture = some (Correlation.of scene picture : Correlation scalar) :=
  Correlation.ofInside scene picture ((Nat.mul_le_mul fitsX fitsY).trans_lt moderate.area)

theorem coarseToFineFitting (filter : Type) [Scalar filter] (search : Search scalar)
    (moderate : Moderate scene) (wide : 0 < picture.width) (high : 0 < picture.height)
    (fitsX : picture.width ≤ scene.width) (fitsY : picture.height ≤ scene.height) {factor : Nat}
    (small : factor < 2 ^ 30) (threshold : scalar) :
    search.coarseToFine? filter scene picture (.of scene picture) factor threshold =
      some (search.coarseToFine filter scene picture (.of scene picture) factor threshold) := by
  have sceneWide : 0 < scene.width := wide.trans_le fitsX
  have sceneHigh : 0 < scene.height := high.trans_le fitsY
  have moderateScene := moderateScale filter moderate sceneWide sceneHigh factor
  rw [coarseToFine?, coarseToFine]
  dsimp only
  rw [scaleInside scene _ _ sceneWide sceneHigh, scaleInside picture _ _ wide high]
  simp only [Option.bind_eq_bind, Option.bind_some]
  split
  · rfl
  · next fits =>
      push Not at fits
      rw [ofFitting moderateScene fits.1 fits.2, Option.bind_some]
      have fitting : Fitting _ _ (positions 0 _ 0 _) :=
        fittingPositions fits.1 fits.2 le_rfl le_rfl
      rw [hitsAtFitting moderateScene fitting, Option.bind_some, mapMGiven, Option.bind_some]
      · rw [List.filterMap_map]
        rfl
      · intro hit isRough
        have sound := hitsAtSound fitting (Hit.memOfApart isRough)
        have insideX := sound.insideX
        have insideY := sound.insideY
        simp only [scaleWidth, scaleHeight] at insideX insideY
        exact refineFitting moderate fitsX fitsY small threshold (scaledBack insideX)
          (scaledBack insideY)

/-- The careful search has a result on every moderate scene, and it is the same. -/
theorem hitsFitting (filter : Type) [Scalar filter] (search : Search scalar)
    (small : search.maxFactor.toNat < 2 ^ 30) (moderate : Moderate scene) (picture : Picture)
    (threshold : scalar) :
    search.hits? filter scene picture threshold =
      some (search.hits filter scene picture threshold) := by
  rw [hits?, hits]
  split
  · rfl
  · next fits =>
      push Not at fits
      obtain ⟨wide, high, fitsX, fitsY⟩ := fits
      have factorSmall : search.factor picture.width picture.height < 2 ^ 30 :=
        (search.factorAtMost _ _).trans_lt (max_lt small (by decide))
      rw [ofFitting moderate fitsX fitsY]
      simp only [Option.bind_eq_bind, Option.bind_some]
      split
      · rw [hitsAtFitting moderate (fittingPositions fitsX fitsY le_rfl le_rfl)]
        rfl
      · rw [coarseToFineFitting filter search moderate (Nat.pos_of_ne_zero wide)
          (Nat.pos_of_ne_zero high) fitsX fitsY factorSmall]
        rfl

/-! ### Exact scores -/

/-- These are sound hits, the best ones first, that are apart from each other. -/
structure SoundHits (search : Search ℝ) (scene picture : Picture) (threshold : ℝ)
    (hits : List (Hit ℝ)) : Prop where
  limited : hits.length ≤ search.maxHits
  sound : ∀ hit ∈ hits, hit.Sound scene picture threshold
  ordered : hits.Pairwise fun first second => second.score ≤ first.score
  /-- Two hits have at most half of the pixels of the picture in common. -/
  apart : hits.Pairwise fun first second =>
    2 * (first.pixels picture.width picture.height ∩
      second.pixels picture.width picture.height).card ≤ picture.width * picture.height
  distinct : hits.Pairwise fun first second => (first.x, first.y) ≠ (second.x, second.y)

theorem pixelsCount {scalar : Type} (width height : Nat) (hit : Hit scalar) :
    (hit.pixels width height).card = width * height := by
  rw [Hit.pixels, Finset.card_product, Nat.card_Ico, Nat.card_Ico, Nat.add_sub_cancel_left,
    Nat.add_sub_cancel_left]

/-- Hits at one position would have all pixels of the picture in common. -/
theorem distinctOfApart {scalar : Type} {width height : Nat} (positive : 0 < width * height)
    {first second : Hit scalar}
    (apart : 2 * (first.pixels width height ∩ second.pixels width height).card ≤ width * height) :
    (first.x, first.y) ≠ (second.x, second.y) := by
  intro same
  obtain ⟨sameX, sameY⟩ := Prod.mk.inj same
  have pixels : first.pixels width height = second.pixels width height := by
    rw [Hit.pixels, Hit.pixels, sameX, sameY]
  rw [pixels, Finset.inter_self, pixelsCount] at apart
  omega

theorem apartSound (search : Search ℝ) {scene picture : Picture} (moderate : Moderate scene)
    (wide : 0 < picture.width) (high : 0 < picture.height) {threshold : ℝ} {found : List (Hit ℝ)}
    (sound : ∀ hit ∈ found, hit.Sound scene picture threshold) :
    SoundHits search scene picture threshold
      (Hit.apart picture.width picture.height search.maxHits found) := by
  have boxed : ∀ hit ∈ found, hit.Boxed picture.width picture.height := fun hit isHit =>
    ⟨(sound hit isHit).insideX.trans moderate.width.le,
      (sound hit isHit).insideY.trans moderate.height.le⟩
  have apart := Hit.apartPixels wide high search.maxHits boxed
  exact {
    limited := Hit.apartLimited _ _ _ found
    sound := fun hit isKept => sound hit (Hit.memOfApart isKept)
    ordered := Hit.apartOrdered _ _ _ found
    apart
    distinct := apart.imp (distinctOfApart (Nat.mul_pos wide high)) }

/--
A search in a moderate scene never reads outside the pictures or their tables, and the hits that it
finds are sound.
-/
theorem hitsSound (filter : Type) [Scalar filter] (search : Search ℝ)
    (small : search.maxFactor.toNat < 2 ^ 30) {scene : Picture} (moderate : Moderate scene)
    (picture : Picture) (threshold : ℝ) :
    search.hits? filter scene picture threshold =
        some (search.hits filter scene picture threshold) ∧
      SoundHits search scene picture threshold (search.hits filter scene picture threshold) := by
  refine ⟨hitsFitting filter search small moderate picture threshold, ?_⟩
  rcases hitsCases filter search scene picture threshold with
    none | ⟨⟨wide, high⟩, found, same, sound⟩
  · rw [none]
    exact ⟨Nat.zero_le _, by simp, .nil, .nil, .nil⟩
  · rw [same]
    exact apartSound search moderate wide high sound

/-- This is a picture of a single pixel. -/
def spot : Picture := generate 1 1 fun _ _ => 7

/-- A spot has the full score in itself, since both are of one brightness. -/
theorem spotScore : (Correlation.of spot spot : Correlation ℝ).score 0 0 = 1 :=
  ownScore (by decide) (by decide) fun faint => absurd (faintLarge faint) (by decide)

theorem spotHits : (standard : Search ℝ).hits ℝ spot spot (9 / 10) = [⟨0, 0, 1⟩] := by
  have enough : (9 / 10 : ℝ) ≤ 1 := by norm_num
  have found : hitsAt (Correlation.of spot spot : Correlation ℝ) (9 / 10) [(0, 0)] =
      [⟨0, 0, 1⟩] := by
    simp [hitsAt, spotScore, enough]
  rw [hits, if_neg (by decide)]
  show Hit.apart 1 1 32 (if standard.factor 1 1 = 1 then hitsAt _ _ [(0, 0)] else _) = _
  rw [if_pos (standardOne (.inl (by decide))), found]
  simp [Hit.apart, Hit.keep]

/--
A spot is found in itself. A part of a small scene is searched for in pictures of half the size
first.
-/
theorem hitsSoundPart :
    let search : Search ℝ := .standard
    let scene := generate 24 20 fun x y => UInt8.ofNat (x * y)
    let part := scene.crop 3 2 16 16
    search.maxFactor.toNat < 2 ^ 30 ∧
      (Moderate spot ∧ search.hits? ℝ spot spot (9 / 10) = some [⟨0, 0, 1⟩] ∧
        SoundHits search spot spot (9 / 10) [⟨0, 0, 1⟩]) ∧
      Moderate scene ∧ search.factor part.width part.height = 2 ∧
        search.hits? ℝ scene part (9 / 10) = some (search.hits ℝ scene part (9 / 10)) ∧
        SoundHits search scene part (9 / 10) (search.hits ℝ scene part (9 / 10)) := by
  intro search scene part
  have small : search.maxFactor.toNat < 2 ^ 30 := by decide
  have moderateSpot : Moderate spot := ⟨by decide, by decide, by decide⟩
  have moderateScene : Moderate scene := ⟨by decide, by decide, by decide⟩
  have factor : search.factor part.width part.height = 2 := by
    show max (search.halvedFactor 16 16 8) 1 = 2
    rw [halvedFactor, if_pos (by decide), halvedFactor, if_pos (by decide), halvedFactor,
      if_neg (by decide)]
    rfl
  have inSpot := hitsSound ℝ search small moderateSpot spot (9 / 10)
  rw [spotHits] at inSpot
  exact ⟨small, ⟨moderateSpot, inSpot⟩, moderateScene, factor,
    hitsSound ℝ search small moderateScene part (9 / 10)⟩

end Search

end DeskScript.Picture
