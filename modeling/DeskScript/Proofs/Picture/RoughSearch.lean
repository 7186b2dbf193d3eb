/-
This file says when a search that looks at scaled pictures first finds a part of the scene. It is
found if a hit among the scaled pictures is near, and it is always found if the scaled pictures
agree best near its place. Parts of fine stripes can be missed, which is shown for one scene by
exact scaling with fractions.
-/

import Mathlib
import DeskScript.Proofs.Picture.BestHits
import DeskScript.Proofs.Picture.WindowSums

namespace DeskScript

/-! ### Fractions -/

/-- The root of a fraction is rounded, but pictures are scaled without roots. -/
instance : Scalar ℚ where
  decideLE first second := inferInstanceAs (Decidable (first ≤ second))
  ofNat value := value
  sqrt := Rat.sqrt
  wholePart value := value.floor.toNat

namespace Scalar

theorem ofNatCast (value : Nat) : (ofNat value : ℝ) = (ofNat value : ℚ) :=
  (Rat.cast_natCast value).symm

theorem largerCast (first second : ℚ) :
    larger (first : ℝ) second = (larger first second : ℚ) := by
  simp only [larger, Rat.cast_le, apply_ite (Rat.cast : ℚ → ℝ)]

theorem distanceCast (first second : ℚ) :
    distance (first : ℝ) second = (distance first second : ℚ) := by
  simp only [distance, Rat.cast_le, apply_ite (Rat.cast : ℚ → ℝ), Rat.cast_sub]

theorem clampCast (low high value : ℚ) :
    clamp (low : ℝ) high value = (clamp low high value : ℚ) := by
  simp only [clamp, Rat.cast_le, apply_ite (Rat.cast : ℚ → ℝ)]

theorem wholePartCast (value : ℚ) : wholePart (value : ℝ) = wholePart value := by
  show ⌊(value : ℝ)⌋₊ = ⌊value⌋.toNat
  rw [← Int.floor_toNat, Rat.floor_cast]

theorem wholeAboveCast (value : ℚ) : wholeAbove (value : ℝ) = wholeAbove value := by
  simp only [wholeAbove, wholePartCast, ofNatCast, Rat.cast_le]

theorem nearestCast (value : ℚ) : nearest (value : ℝ) = nearest value := by
  simp only [nearest, wholePartCast, ofNatCast, ← Rat.cast_div, ← Rat.cast_sub, Rat.cast_le]

theorem sumOfCast (count : Nat) (term : Nat → ℚ) :
    sumOf count (fun index => (term index : ℝ)) = (sumOf count term : ℚ) := by
  induction count with
  | zero => exact ofNatCast 0
  | succ count inductionHypothesis => rw [sumOfSucc, sumOfSucc, inductionHypothesis, Rat.cast_add]

theorem sumOfScaled (count : Nat) (factor : ℚ) (term : Nat → ℚ) :
    sumOf count (fun index => factor * term index) = factor * sumOf count term := by
  induction count with
  | zero => exact (mul_zero factor).symm
  | succ count inductionHypothesis => rw [sumOfSucc, sumOfSucc, inductionHypothesis, mul_add]

end Scalar

namespace Picture

/-! ### Exact scaling -/

theorem halfCast : (half : ℝ) = (half : ℚ) := by
  rw [half, half, Scalar.ofNatCast, Scalar.ofNatCast, Rat.cast_div]

theorem heightCast (support middle : ℚ) (position : Nat) :
    filterHeight (support : ℝ) middle position = (filterHeight support middle position : ℚ) := by
  simp only [filterHeight, Scalar.ofNatCast, Scalar.distanceCast, ← Rat.cast_div, Rat.cast_le,
    apply_ite (Rat.cast : ℚ → ℝ), Rat.cast_sub]

theorem getDCast (values : Array ℚ) (index : Nat) (other : ℚ) :
    (values.map (Rat.cast : ℚ → ℝ)).getD index other = (values.getD index other : ℚ) := by
  rw [Array.getD_eq_getD_getElem?, Array.getD_eq_getD_getElem?, Array.getElem?_map,
    Option.getD_map]

theorem sharesCast (heights : Array ℚ) :
    (heights.map (Rat.cast : ℚ → ℝ)).map (fun height => height /
        Scalar.sumOf (heights.map (Rat.cast : ℚ → ℝ)).size fun index =>
          (heights.map (Rat.cast : ℚ → ℝ)).getD index (Scalar.ofNat 0 : ℚ)) =
      (heights.map fun height => height /
        Scalar.sumOf heights.size fun index => heights.getD index (Scalar.ofNat 0)).map
          (Rat.cast : ℚ → ℝ) := by
  simp only [getDCast, Scalar.sumOfCast, Array.size_map, Array.map_map]
  refine congrArg (fun share => heights.map share) (funext fun height => ?_)
  exact (Rat.cast_div _ _).symm

/-- The pixels that a scaled pixel is made of, and their shares, are told by fractions. -/
theorem windowCast (side scaled position : Nat) : (windowAt side scaled position : Window ℝ) =
    ⟨(windowAt side scaled position : Window ℚ).first,
      (windowAt side scaled position : Window ℚ).shares.map (Rat.cast : ℚ → ℝ)⟩ := by
  have parts (positions : Array Nat) (height : Nat → ℚ) :
      positions.map (fun position => (height position : ℝ)) =
        (positions.map height).map (Rat.cast : ℚ → ℝ) := by
    rw [Array.map_map]
    rfl
  simp only [windowAt, Scalar.ofNatCast, halfCast, ← Rat.cast_div, ← Rat.cast_add, ← Rat.cast_mul,
    ← Rat.cast_sub, Scalar.largerCast, Scalar.wholePartCast, Scalar.wholeAboveCast, heightCast,
    parts, sharesCast]

theorem blendCast (side scaled position : Nat) (value : Nat → ℚ) :
    (windowAt side scaled position : Window ℝ).blend (fun index => (value index : ℝ)) =
      ((windowAt side scaled position).blend value : ℚ) := by
  rw [windowCast, Window.blend, Window.blend, ← Scalar.sumOfCast, Array.size_map]
  refine congrArg _ (funext fun index => ?_)
  rw [Rat.cast_mul, ← getDCast, Scalar.ofNatCast]

section

variable {scalar : Type} [Scalar scalar]

/-- A window looks only at values inside its side. -/
theorem blendAgrees {side : Nat} (positive : 0 < side) (scaled position : Nat)
    {value other : Nat → scalar} (agree : ∀ index < side, value index = other index) :
    (windowAt side scaled position).blend value = (windowAt side scaled position).blend other := by
  have careful : (windowAt side scaled position).blend?
      (fun index => if index < side then some (value index) else none) = some _ :=
    blendInside positive fun index inside => if_pos inside
  refine Option.some_injective _ (careful.symm.trans (blendInside positive fun index inside => ?_))
  rw [if_pos inside, agree index inside]

/-- This is a pixel of a scaled picture before it is rounded. -/
def blended (picture : Picture) (width height column row : Nat) : scalar :=
  (windowAt picture.width width column).blend fun x =>
    (windowAt picture.height height row).blend fun y => Scalar.ofNat (picture.brightness x y).toNat

theorem brightnessScale {picture : Picture} {width height column row : Nat}
    (resized : ¬(picture.width = width ∧ picture.height = height)) (wide : 0 < picture.width)
    (insideX : column < width) (insideY : row < height) :
    (picture.scale scalar width height).brightness column row =
      UInt8.ofNat (Scalar.nearest (Scalar.clamp (Scalar.ofNat 0) (Scalar.ofNat 255)
        (picture.blended width height column row : scalar))) := by
  have window : ((Array.range width).map fun column =>
      (windowAt picture.width width column : Window scalar)).getD column ⟨0, #[]⟩ =
        windowAt picture.width width column := by
    simp [insideX]
  rw [scale, if_neg resized]
  dsimp only
  rw [brightnessGenerate _ _ _ _ _ insideX insideY, window, blended]
  refine congrArg (fun value => UInt8.ofNat (Scalar.nearest (Scalar.clamp _ _ value)))
    (blendAgrees wide width column fun x inside => ?_)
  simp [scaledColumns, insideY, inside]

end

/-- Exact scaling gives the pixels that are computed with fractions. -/
theorem brightnessExact {picture : Picture} {width height column row : Nat}
    (resized : ¬(picture.width = width ∧ picture.height = height)) (wide : 0 < picture.width)
    (insideX : column < width) (insideY : row < height) :
    (picture.scale ℝ width height).brightness column row =
      UInt8.ofNat (Scalar.nearest (Scalar.clamp (Scalar.ofNat 0) (Scalar.ofNat 255)
        (picture.blended width height column row : ℚ))) := by
  have exact : (picture.blended width height column row : ℝ) =
      (picture.blended width height column row : ℚ) := by
    simp only [blended, Scalar.ofNatCast, blendCast]
  rw [brightnessScale resized wide insideX insideY, exact, Scalar.ofNatCast, Scalar.ofNatCast,
    Scalar.clampCast, Scalar.nearestCast]

/-- Pixels of one brightness in a column are scaled to this brightness. -/
theorem blendedStripes {picture : Picture} (wide : 0 < picture.width) (high : 0 < picture.height)
    {stripe : Nat → UInt8}
    (striped : ∀ x < picture.width, ∀ y < picture.height, picture.brightness x y = stripe x)
    {width height column row : Nat}
    (whole : (windowAt picture.height height row : Window ℚ).blend (fun _ => 1) = 1) :
    (picture.blended width height column row : ℚ) =
      (windowAt picture.width width column).blend fun x => Scalar.ofNat (stripe x).toNat := by
  refine blendAgrees wide width column fun x insideX => ?_
  have even : (windowAt picture.height height row : Window ℚ).blend
      (fun y => Scalar.ofNat (picture.brightness x y).toNat) =
        (windowAt picture.height height row).blend
          fun _ => Scalar.ofNat (stripe x).toNat * 1 :=
    blendAgrees high height row fun y insideY => by rw [striped x insideX y insideY, mul_one]
  rw [even]
  simp only [Window.blend, mul_assoc, Scalar.sumOfScaled] at whole ⊢
  rw [whole, mul_one]

namespace Search

/-! ### Best places -/

section

variable (correlation : Correlation ℝ) {places : List (Nat × Nat)}

/-- What is left of two hits is at least as good as both. -/
theorem betterGreatest (best : Option (Hit ℝ)) (hit : Hit ℝ) :
    ∃ left, better best hit = some left ∧ hit.score ≤ left.score ∧
      ∀ other ∈ best, other.score ≤ left.score := by
  cases best with
  | none => exact ⟨hit, rfl, le_rfl, nofun⟩
  | some other =>
      rw [better]
      split
      · next higher =>
          refine ⟨hit, rfl, le_rfl, fun old isOld => ?_⟩
          cases isOld
          exact ((Scalar.exceedsReal _ _).mp higher).le
      · next notHigher =>
          rw [Scalar.exceedsReal, not_lt] at notHigher
          refine ⟨other, rfl, notHigher, fun old isOld => ?_⟩
          cases isOld
          exact le_rfl

/-- Where there is a place there is a best one, and no place has a higher score. -/
theorem bestAtGreatest {place : Nat × Nat} (isPlace : place ∈ places) :
    ∃ hit, bestAt correlation places = some hit ∧
      ∀ other ∈ places, correlation.score other.1 other.2 ≤ hit.score := by
  -- The best hit so far never gets worse, so that it is followed through the rest of the places.
  have followed (rest : List (Nat × Nat)) (best : Hit ℝ) : ∃ hit,
      rest.foldl (fun best place => better best (hitAt correlation place)) (some best) = some hit ∧
        best.score ≤ hit.score ∧
        ∀ other ∈ rest, correlation.score other.1 other.2 ≤ hit.score := by
    induction rest generalizing best with
    | nil => exact ⟨best, rfl, le_rfl, nofun⟩
    | cons next rest inductionHypothesis =>
        obtain ⟨left, isLeft, atLeast, old⟩ := betterGreatest (some best) (hitAt correlation next)
        obtain ⟨hit, isHit, above, others⟩ := inductionHypothesis left
        refine ⟨hit, by rw [List.foldl_cons, isLeft, isHit], (old best rfl).trans above, ?_⟩
        exact List.forall_mem_cons.mpr ⟨atLeast.trans above, others⟩
  cases places with
  | nil => cases isPlace
  | cons first rest =>
      obtain ⟨hit, isHit, above, others⟩ := followed rest (hitAt correlation first)
      exact ⟨hit, isHit, List.forall_mem_cons.mpr ⟨above, others⟩⟩

end

/-! ### Rough hits -/

section

variable {scalar : Type} [Scalar scalar] (filter : Type) [Scalar filter] (search : Search scalar)

/-- A picture that is scaled down by a factor keeps at least one row and one column. -/
def shrunk (factor : Nat) (picture : Picture) : Picture :=
  picture.scale filter (max (picture.width / factor) 1) (max (picture.height / factor) 1)

/-- Rough hits have at least this score, which is lower than that of hits. -/
def leastRough (threshold : scalar) : scalar :=
  Scalar.larger (Scalar.ofNat 0) (threshold - search.coarseSlack)

/-- These are the hits among the scaled pictures around which the picture is searched. -/
def roughHits (factor : Nat) (scene picture : Picture) (threshold : scalar) : List (Hit scalar) :=
  Hit.apart (shrunk filter factor picture).width (shrunk filter factor picture).height
    search.refineCandidates
    (allHits (shrunk filter factor scene) (shrunk filter factor picture)
      (search.leastRough threshold))

/-- A place is reached from a rough hit if it is at most twice the factor away in each direction. -/
structure Reaches (factor : Nat) (rough : Hit scalar) (x y : Nat) : Prop where
  left : rough.x * factor ≤ x + 2 * factor
  right : x ≤ rough.x * factor + 2 * factor
  top : rough.y * factor ≤ y + 2 * factor
  bottom : y ≤ rough.y * factor + 2 * factor

variable {scene picture : Picture} {threshold : scalar} {factor x y : Nat}

theorem shrunkPlaced (placed : Placed scene picture x y) (factor : Nat) :
    Placed (shrunk filter factor scene) (shrunk filter factor picture) 0 0 := by
  have columns : picture.width / factor ≤ scene.width / factor :=
    Nat.div_le_div_right ((Nat.le_add_left _ _).trans placed.insideX)
  have rows : picture.height / factor ≤ scene.height / factor :=
    Nat.div_le_div_right ((Nat.le_add_left _ _).trans placed.insideY)
  constructor <;> simp only [shrunk, scaleWidth, scaleHeight] <;> omega

/-- The picture is searched around the rough hits. -/
theorem coarseToFineRough (placed : Placed scene picture x y) (factor : Nat) :
    search.coarseToFine filter scene picture (.of scene picture) factor threshold =
      (roughHits filter search factor scene picture threshold).filterMap
        (refine scene picture (.of scene picture) factor threshold) := by
  obtain ⟨-, -, insideX, insideY⟩ := shrunkPlaced filter placed factor
  rw [Nat.zero_add] at insideX insideY
  rw [coarseToFine]
  exact if_neg (not_or.mpr ⟨insideX.not_gt, insideY.not_gt⟩)

theorem hitsOfRough (placed : Placed scene picture x y)
    (isRough : search.factor picture.width picture.height ≠ 1) :
    search.hits filter scene picture threshold =
      Hit.apart picture.width picture.height search.maxHits
        ((roughHits filter search (search.factor picture.width picture.height) scene picture
          threshold).filterMap (refine scene picture (.of scene picture)
            (search.factor picture.width picture.height) threshold)) := by
  rw [← coarseToFineRough filter search placed]
  obtain ⟨wide, high, insideX, insideY⟩ := placed
  rw [hits, if_neg (by omega)]
  exact congrArg (Hit.apart _ _ _) (if_neg isRough)

end

section

variable {scalar : Type} {scene picture : Picture} {factor x y : Nat}

/-- These are the places that are looked at around a rough hit. -/
def nearby (scene picture : Picture) (factor : Nat) (rough : Hit scalar) : List (Nat × Nat) :=
  let radius := (UInt32.ofNat (2 * factor)).toNat
  positions (rough.x * factor - radius)
    (min (rough.x * factor + radius) (scene.width - picture.width)) (rough.y * factor - radius)
    (min (rough.y * factor + radius) (scene.height - picture.height))

/-- Around a rough hit all places are looked at that are reached from it. -/
theorem memNearby (placed : Placed scene picture x y) (small : factor < 2 ^ 31)
    (rough : Hit scalar) {column row : Nat} :
    (column, row) ∈ nearby scene picture factor rough ↔
      Placed scene picture column row ∧ Reaches factor rough column row := by
  obtain ⟨wide, high, insideX, insideY⟩ := placed
  rw [nearby, Hit.sideFits (by omega), memPositions]
  constructor
  · rintro ⟨columnInside, rowInside⟩
    exact ⟨⟨wide, high, by omega, by omega⟩, ⟨by omega, by omega, by omega, by omega⟩⟩
  · rintro ⟨⟨-, -, columnInside, rowInside⟩, ⟨left, right, top, bottom⟩⟩
    omega

theorem refineNearby [Scalar scalar] (correlation : Correlation scalar) (threshold : scalar)
    (rough : Hit scalar) : refine scene picture correlation factor threshold rough =
      (bestAt correlation (nearby scene picture factor rough)).filter
        fun hit => decide (threshold ≤ hit.score) := rfl

end

variable {scene picture : Picture} {factor x y : Nat} {threshold : ℝ}

/-- Around a rough hit the best place in reach is found if its score is high enough. -/
theorem refineReached {rough : Hit ℝ} (placed : Placed scene picture x y)
    (small : factor < 2 ^ 31) (reached : Reaches factor rough x y)
    (enough : threshold ≤ (Correlation.of scene picture : Correlation ℝ).score x y) :
    ∃ hit, refine scene picture (.of scene picture) factor threshold rough = some hit ∧
      (Correlation.of scene picture : Correlation ℝ).score x y ≤ hit.score := by
  have isPlace := (memNearby placed small rough).mpr ⟨placed, reached⟩
  obtain ⟨hit, isBest, greatest⟩ := bestAtGreatest (.of scene picture) isPlace
  have atLeast := greatest _ isPlace
  dsimp only at atLeast
  refine ⟨hit, ?_, atLeast⟩
  rw [refineNearby, isBest]
  exact if_pos (decide_eq_true (enough.trans atLeast))

/-- What is found around a rough hit is in its reach. -/
theorem reachedOfRefine {rough hit : Hit ℝ} (placed : Placed scene picture x y)
    (small : factor < 2 ^ 31)
    (found : refine scene picture (.of scene picture) factor threshold rough = some hit) :
    Placed scene picture hit.x hit.y ∧ Reaches factor rough hit.x hit.y ∧
      threshold ≤ (Correlation.of scene picture : Correlation ℝ).score hit.x hit.y := by
  rw [refineNearby] at found
  obtain ⟨isBest, enough⟩ := Option.filter_eq_some_iff.mp found
  obtain ⟨⟨column, row⟩, isPlace, rfl⟩ := bestAtPlace isBest
  obtain ⟨isPlaced, reached⟩ := (memNearby placed small rough).mp isPlace
  exact ⟨isPlaced, reached, of_decide_eq_true enough⟩

/-! ### Finding parts -/

section

variable (filter : Type) [Scalar filter] {search : Search ℝ}

/-- Something is found exactly if a place with a high enough score is reached from a rough hit. -/
theorem roughFoundIff (some : 1 ≤ search.maxHits) (placed : Placed scene picture x y)
    (isRough : search.factor picture.width picture.height ≠ 1)
    (small : search.factor picture.width picture.height < 2 ^ 31) :
    search.hits filter scene picture threshold ≠ [] ↔
      ∃ rough ∈ roughHits filter search (search.factor picture.width picture.height) scene picture
        threshold, ∃ column row, Placed scene picture column row ∧
          Reaches (search.factor picture.width picture.height) rough column row ∧
          threshold ≤ (Correlation.of scene picture : Correlation ℝ).score column row := by
  rw [hitsOfRough filter search placed isRough, ne_eq, Hit.apartNil _ _ some]
  constructor
  · intro found
    obtain ⟨hit, isHit⟩ := List.exists_mem_of_ne_nil _ found
    obtain ⟨rough, isFound, refined⟩ := List.mem_filterMap.mp isHit
    exact ⟨rough, isFound, _, _, reachedOfRefine placed small refined⟩
  · rintro ⟨rough, isFound, column, row, place, reached, enough⟩
    obtain ⟨hit, refined, -⟩ := refineReached place small reached enough
    exact List.ne_nil_of_mem (List.mem_filterMap.mpr ⟨rough, isFound, refined⟩)

/-- The first hit has the full score. -/
def FullFirst (hits : List (Hit ℝ)) : Prop := ∃ first rest, hits = first :: rest ∧ first.score = 1

/-- A place with the full score that is reached from a rough hit gives the full score first. -/
theorem fullFirstReached (some : 1 ≤ search.maxHits) (placed : Placed scene picture x y)
    (isRough : search.factor picture.width picture.height ≠ 1)
    (small : search.factor picture.width picture.height < 2 ^ 31) {rough : Hit ℝ}
    (isFound : rough ∈ roughHits filter search (search.factor picture.width picture.height) scene
      picture threshold)
    (reached : Reaches (search.factor picture.width picture.height) rough x y)
    (full : (Correlation.of scene picture : Correlation ℝ).score x y = 1)
    (atMost : threshold ≤ 1) : FullFirst (search.hits filter scene picture threshold) := by
  obtain ⟨hit, refined, atLeast⟩ := refineReached placed small reached (atMost.trans_eq full.symm)
  have isHit := List.mem_filterMap.mpr ⟨rough, isFound, refined⟩
  rw [hitsOfRough filter search placed isRough]
  obtain ⟨first, rest, same, greatest⟩ :=
    Hit.bestFirst picture.width picture.height some (List.ne_nil_of_mem isHit)
  refine ⟨first, rest, same, le_antisymm ?_ (full.symm.le.trans (atLeast.trans (greatest _ isHit)))⟩
  obtain ⟨other, -, refinedFirst⟩ :=
    List.mem_filterMap.mp (Hit.memOfApart (same ▸ List.mem_cons_self : first ∈ _))
  have fitsX := (Nat.le_add_left _ _).trans placed.insideX
  have fitsY := (Nat.le_add_left _ _).trans placed.insideY
  rw [(refineSound fitsX fitsY refinedFirst).score]
  exact (scoreWithin _ _ _).2

/--
The scaled pictures agree well enough at some place, and wherever they agree best the place in the
scene is reached.
-/
structure FitsNear (search : Search ℝ) (factor : Nat) (scene picture : Picture) (threshold : ℝ)
    (x y : Nat) : Prop where
  enough : ∃ column row, Placed (shrunk filter factor scene) (shrunk filter factor picture)
    column row ∧ search.leastRough threshold ≤
      (Correlation.of (shrunk filter factor scene) (shrunk filter factor picture) :
        Correlation ℝ).score column row
  near : ∀ rough, BestPlace (shrunk filter factor scene) (shrunk filter factor picture) rough →
    Reaches factor rough x y

/-- The first rough hit is where the scaled pictures agree best. -/
theorem roughFirst (some : 1 ≤ search.refineCandidates)
    (fits : FitsNear filter search factor scene picture threshold x y) :
    ∃ rough ∈ roughHits filter search factor scene picture threshold, Reaches factor rough x y := by
  obtain ⟨column, row, placed, enough⟩ := fits.enough
  have isHit : (⟨column, row, (Correlation.of (shrunk filter factor scene)
      (shrunk filter factor picture)).score column row⟩ : Hit ℝ) ∈
        allHits (shrunk filter factor scene) (shrunk filter factor picture)
          (search.leastRough threshold) := (memAllHits placed).mpr ⟨placed, rfl, enough⟩
  obtain ⟨rough, rest, same, -⟩ := Hit.bestFirst (shrunk filter factor picture).width
    (shrunk filter factor picture).height some (List.ne_nil_of_mem isHit)
  refine ⟨rough, ?_, fits.near rough (keptBest placed same)⟩
  rw [roughHits, same]
  exact List.mem_cons_self

theorem standardSmall (width height : Nat) :
    (standard : Search ℝ).factor width height < 2 ^ 31 :=
  ((standard : Search ℝ).factorAtMost width height).trans_lt (by decide)

/--
A part of a scene that is not faint is found with the full score at first if the scene is searched
at all places. If scaled pictures are searched first then anything is found exactly if a place with
a high enough score is reached from a rough hit. The part is found with the full score at first if
the scaled pictures agree best near its place.
-/
theorem partFound (scene : Picture) {left top width height : Nat} (wide : 0 < width)
    (high : 0 < height) (insideX : left + width ≤ scene.width)
    (insideY : top + height ≤ scene.height) (clear : ¬Faint (scene.crop left top width height))
    {threshold : ℝ} (atMost : threshold ≤ 1) :
    let search : Search ℝ := .standard
    let part := scene.crop left top width height
    let factor := search.factor width height
    (factor = 1 → FullFirst (search.hits filter scene part threshold)) ∧
    (factor ≠ 1 →
      (search.hits filter scene part threshold ≠ [] ↔
        ∃ rough ∈ roughHits filter search factor scene part threshold, ∃ x y,
          Placed scene part x y ∧ Reaches factor rough x y ∧
            threshold ≤ (Correlation.of scene part : Correlation ℝ).score x y) ∧
      (FitsNear filter search factor scene part threshold left top →
        FullFirst (search.hits filter scene part threshold))) := by
  intro search part factor
  have placed : Placed scene part left top := ⟨wide, high, insideX, insideY⟩
  have full : (Correlation.of scene part : Correlation ℝ).score left top = 1 :=
    partScore wide high insideX insideY clear
  have some : 1 ≤ search.maxHits := by decide
  have small : search.factor part.width part.height < 2 ^ 31 := standardSmall width height
  refine ⟨fun exhaustive => ?_, fun isRough => ⟨?_, fun fits => ?_⟩⟩
  · have found : search.hits filter scene part threshold ≠ [] := fun nothing =>
      ((emptyIff filter exhaustive some).mp nothing left top placed).not_ge
        (atMost.trans_eq full.symm)
    obtain ⟨first, rest, same⟩ := List.exists_cons_of_ne_nil found
    have best := firstBest filter exhaustive same
    refine ⟨first, rest, same, le_antisymm ?_ (full.symm.le.trans (best.greatest _ _ placed))⟩
    rw [best.score]
    exact (scoreWithin _ _ _).2
  · exact roughFoundIff filter some placed isRough small
  · obtain ⟨rough, isFound, reached⟩ := roughFirst filter (by decide) fits
    exact fullFirstReached filter some placed isRough small isFound reached full atMost

end

/-! ### Pictures of stripes -/

theorem rowsWhole : ∀ row < 8, (windowAt 16 8 row : Window ℚ).blend (fun _ => 1) = 1 := by
  decide +kernel

/-- This is the brightness of a column of a striped picture that is scaled to half its width. -/
def shrunkStripe (width : Nat) (stripe : Nat → UInt8) (column : Nat) : UInt8 :=
  UInt8.ofNat (Scalar.nearest (Scalar.clamp (Scalar.ofNat 0) (Scalar.ofNat 255)
    ((windowAt width (width / 2) column : Window ℚ).blend fun x => Scalar.ofNat (stripe x).toNat)))

/-- If all of sixteen rows are alike then so are the scaled ones. -/
theorem shrunkStriped {picture : Picture} {stripe : Nat → UInt8} (wide : 2 ≤ picture.width)
    (high : picture.height = 16)
    (striped : ∀ x < picture.width, ∀ y < picture.height, picture.brightness x y = stripe x)
    {column row : Nat} (insideX : column < picture.width / 2) (insideY : row < 8) :
    (shrunk ℝ 2 picture).brightness column row = shrunkStripe picture.width stripe column := by
  have width : max (picture.width / 2) 1 = picture.width / 2 := max_eq_left (by omega)
  have height : max (picture.height / 2) 1 = 8 := by
    rw [high]
    rfl
  have whole : (windowAt picture.height 8 row : Window ℚ).blend (fun _ => 1) = 1 := by
    rw [high]
    exact rowsWhole row insideY
  rw [shrunk, width, height, brightnessExact (by omega) (by omega) insideX insideY,
    blendedStripes (by omega) (by omega) striped whole, shrunkStripe]

theorem cropStriped {scene : Picture} {stripe : Nat → UInt8}
    (striped : ∀ x < scene.width, ∀ y < scene.height, scene.brightness x y = stripe x)
    {left top width height : Nat} (insideX : left + width ≤ scene.width)
    (insideY : top + height ≤ scene.height) : ∀ x < width, ∀ y < height,
      (scene.crop left top width height).brightness x y = stripe (left + x) := by
  intro x inX y inY
  rw [brightnessCrop _ _ _ _ _ _ _ inX inY]
  exact striped _ (by omega) _ (by omega)

/-- A picture with unlike pixels in its first row is not flat. -/
theorem rowUnlike {picture : Picture} (high : 0 < picture.height) {first second : Nat}
    (inFirst : first < picture.width) (inSecond : second < picture.width)
    (unlike : picture.brightness first 0 ≠ picture.brightness second 0) :
    1 / 2 ≤ picture.spread := by
  have inRow {x : Nat} (inside : x < picture.width) :
      0 * picture.width + x < picture.width * picture.height := by
    have area := Nat.le_mul_of_pos_right picture.width high
    omega
  exact spreadUnlike _ _ (inRow inFirst) (inRow inSecond) unlike

/-! ### A found part -/

/-- A bright bar stands in this column. -/
def barStripe (x : Nat) : UInt8 := if x = 20 then 100 else 0

/-- In this scene there is nothing but the bar. -/
def bar : Picture := generate 24 16 fun x _ => barStripe x

/-- This part of the scene lies at its right side and has the bar in it. -/
def barPart : Picture := bar.crop 8 0 16 16

theorem barStriped : ∀ x < bar.width, ∀ y < bar.height, bar.brightness x y = barStripe x :=
  fun x insideX y insideY => brightnessGenerate 24 16 _ x y insideX insideY

theorem barShrunk {column row : Nat} (insideX : column < 12) (insideY : row < 8) :
    (shrunk ℝ 2 bar).brightness column row = shrunkStripe 24 barStripe column :=
  shrunkStriped (by decide) rfl barStriped insideX insideY

theorem barPartShrunk {column row : Nat} (insideX : column < 8) (insideY : row < 8) :
    (shrunk ℝ 2 barPart).brightness column row =
      shrunkStripe 16 (fun x => barStripe (8 + x)) column :=
  shrunkStriped (by decide) rfl (cropStriped barStriped (by decide) (by decide)) insideX insideY

theorem barSides : (shrunk ℝ 2 bar).width = 12 ∧ (shrunk ℝ 2 bar).height = 8 ∧
    (shrunk ℝ 2 barPart).width = 8 ∧ (shrunk ℝ 2 barPart).height = 8 :=
  ⟨scaleWidth ℝ bar _ _, scaleHeight ℝ bar _ _, scaleWidth ℝ barPart _ _,
    scaleHeight ℝ barPart _ _⟩

/-- The scaled part is found in the scaled scene where it comes from. -/
theorem barAgrees : (Correlation.of (shrunk ℝ 2 bar) (shrunk ℝ 2 barPart) :
    Correlation ℝ).score 4 0 = 1 := by
  obtain ⟨wide, high, partWide, partHigh⟩ := barSides
  have clear : ¬Faint (shrunk ℝ 2 barPart) := fun faint => by
    have large := faintLarge faint
    rw [partWide, partHigh] at large
    omega
  have same : ∀ column < 8, shrunkStripe 24 barStripe (4 + column) =
      shrunkStripe 16 (fun x => barStripe (8 + x)) (0 + column) := by
    decide +kernel
  rw [← ownScore (by omega) (by omega) clear]
  refine scoreAgrees (by omega) (by omega) (by omega) (by omega) fun column inX row inY => ?_
  rw [barShrunk (by omega) (by omega), barPartShrunk (by omega) (by omega)]
  exact same column (by omega)

/-- Left of the bar the scaled scene is black, but the scaled part is not. -/
theorem barApart {x : Nat} (left : x < 2) :
    (Correlation.of (shrunk ℝ 2 bar) (shrunk ℝ 2 barPart) : Correlation ℝ).score x 0 = 0 := by
  obtain ⟨wide, high, partWide, partHigh⟩ := barSides
  have black : ∀ column < 9, shrunkStripe 24 barStripe column = 0 := by decide +kernel
  have bright : shrunkStripe 16 (fun x => barStripe (8 + x)) 0 ≠
      shrunkStripe 16 (fun x => barStripe (8 + x)) 6 := by
    decide +kernel
  refine flatScore 0 (by omega) (by omega) (by omega) (by omega) ?_ fun column inX row inY => ?_
  · refine rowUnlike (by omega) (by omega : 0 < _) (by omega : 6 < _) ?_
    rwa [barPartShrunk (by decide) (by decide), barPartShrunk (by decide) (by decide)]
  · rw [barShrunk (by omega) (by omega)]
    exact black _ (by omega)

/-- The part is found in pictures of half the size, where it agrees best at its place. -/
theorem partFoundBar :
    ¬Faint barPart ∧ (9 / 10 : ℝ) ≤ 1 ∧ (standard : Search ℝ).factor 16 16 = 2 ∧
      FitsNear ℝ standard 2 bar barPart (9 / 10) 8 0 ∧
      FullFirst ((standard : Search ℝ).hits ℝ bar barPart (9 / 10)) := by
  obtain ⟨wide, high, partWide, partHigh⟩ := barSides
  have clear : ¬Faint barPart := fun faint => absurd (faintLarge faint) (by decide)
  have own : Placed (shrunk ℝ 2 bar) (shrunk ℝ 2 barPart) 4 0 :=
    ⟨by omega, by omega, by omega, by omega⟩
  have fits : FitsNear ℝ standard 2 bar barPart (9 / 10) 8 0 := by
    refine ⟨⟨4, 0, own, ?_⟩, fun rough best => ?_⟩
    · rw [barAgrees, leastRough, Scalar.larger]
      split <;> norm_num [standard, Scalar.ofNatReal]
    · have insideX := best.placed.insideX
      have insideY := best.placed.insideY
      have top : rough.y = 0 := by omega
      have near : 2 ≤ rough.x := by
        by_contra far
        have greatest := best.greatest 4 0 own
        rw [best.score, top, barAgrees, barApart (by omega)] at greatest
        norm_num at greatest
      exact ⟨by omega, by omega, by omega, by omega⟩
  have found := partFound ℝ bar (by decide : 0 < 16) (by decide : 0 < 16)
    (by decide : 8 + 16 ≤ bar.width) (by decide : 0 + 16 ≤ bar.height) clear
    (by norm_num : (9 / 10 : ℝ) ≤ 1)
  have factor : (standard : Search ℝ).factor 16 16 = 2 :=
    standardTwo le_rfl le_rfl (.inl (by decide))
  dsimp only at found
  rw [factor] at found
  exact ⟨clear, by norm_num, factor, fits, (found.2 (by decide)).2 fits⟩

/-! ### A missed part -/

/-- This scene has a single dim stripe, which fades when the scene is scaled down. -/
def dim : Picture := generate 17 16 fun x _ => if x = 8 then 2 else 0

/-- This part of it has the stripe at another place among its scaled pixels, where it stays. -/
def dimPart : Picture := dim.crop 1 0 16 16

theorem dimStriped : ∀ x < dim.width, ∀ y < dim.height,
    dim.brightness x y = if x = 8 then 2 else 0 :=
  fun x insideX y insideY => brightnessGenerate 17 16 _ x y insideX insideY

/-- The scaled scene is black. -/
theorem dimShrunk {column row : Nat} (insideX : column < 8) (insideY : row < 8) :
    (shrunk ℝ 2 dim).brightness column row = 0 := by
  have black : ∀ column < 8, shrunkStripe 17 (fun x => if x = 8 then 2 else 0) column = 0 := by
    decide +kernel
  exact (shrunkStriped (by decide) rfl dimStriped insideX insideY).trans (black column insideX)

/-- The scaled part has a column that is not black. -/
theorem dimPartShrunk : (shrunk ℝ 2 dimPart).brightness 0 0 = 0 ∧
    (shrunk ℝ 2 dimPart).brightness 3 0 = 1 := by
  have pixel {column : Nat} (inside : column < 8) : (shrunk ℝ 2 dimPart).brightness column 0 =
      shrunkStripe 16 (fun x => if 1 + x = 8 then 2 else 0) column :=
    shrunkStriped (by decide) rfl (cropStriped dimStriped (by decide) (by decide)) inside
      (by decide)
  exact ⟨(pixel (by decide)).trans (by decide +kernel),
    (pixel (by decide)).trans (by decide +kernel)⟩

theorem dimSides : (shrunk ℝ 2 dim).width = 8 ∧ (shrunk ℝ 2 dim).height = 8 ∧
    (shrunk ℝ 2 dimPart).width = 8 ∧ (shrunk ℝ 2 dimPart).height = 8 :=
  ⟨scaleWidth ℝ dim _ _, scaleHeight ℝ dim _ _, scaleWidth ℝ dimPart _ _,
    scaleHeight ℝ dimPart _ _⟩

/-- The scaled pictures do not agree, since one of them is black and the other is not. -/
theorem dimDisagrees : (Correlation.of (shrunk ℝ 2 dim) (shrunk ℝ 2 dimPart) :
    Correlation ℝ).score 0 0 = 0 := by
  obtain ⟨wide, high, partWide, partHigh⟩ := dimSides
  refine flatScore 0 (by omega) (by omega) (by omega) (by omega) ?_ fun column inX row inY => ?_
  · obtain ⟨black, bright⟩ := dimPartShrunk
    refine rowUnlike (by omega) (by omega : 0 < _) (by omega : 3 < _) ?_
    rw [black, bright]
    decide
  · exact dimShrunk (by omega) (by omega)

/-- The part has the full score and is found at its own place, but not in scaled pictures. -/
theorem partMissed :
    Placed dim dimPart 1 0 ∧ (Correlation.of dim dimPart : Correlation ℝ).score 1 0 = 1 ∧
    { (standard : Search ℝ) with maxFactor := 1 }.hits ℝ dim dimPart (9 / 10) ≠ [] ∧
    (standard : Search ℝ).hits ℝ dim dimPart (9 / 10) = [] := by
  obtain ⟨wide, high, partWide, partHigh⟩ := dimSides
  have factor : (standard : Search ℝ).factor dimPart.width dimPart.height = 2 :=
    standardTwo le_rfl le_rfl (.inl (by decide))
  have placed : Placed dim dimPart 1 0 := ⟨by decide, by decide, by decide, by decide⟩
  have full : (Correlation.of dim dimPart : Correlation ℝ).score 1 0 = 1 :=
    partScore (by decide) (by decide) (by decide) (by decide)
      fun faint => absurd (faintLarge faint) (by decide)
  refine ⟨placed, full, fun nothing => ?_, ?_⟩
  · have plain : { (standard : Search ℝ) with maxFactor := 1 }.factor 16 16 = 1 := by
      show max (halvedFactor _ 16 16 1) 1 = 1
      rw [halvedFactor, if_neg (by decide)]
      rfl
    have low := (emptyIff ℝ plain (by decide)).mp nothing 1 0 placed
    rw [full] at low
    norm_num at low
  · have noRough : roughHits ℝ standard 2 dim dimPart (9 / 10 : ℝ) = [] := by
      rw [roughHits, List.eq_nil_iff_forall_not_mem]
      intro rough isRough
      obtain ⟨⟨-, -, columns, rows⟩, score, enough⟩ :=
        (memAllHits (shrunkPlaced ℝ placed 2)).mp (Hit.memOfApart isRough)
      obtain ⟨zeroX, zeroY⟩ : rough.x = 0 ∧ rough.y = 0 := by omega
      rw [score, zeroX, zeroY, dimDisagrees, leastRough, Scalar.larger] at enough
      norm_num [standard, Scalar.ofNatReal] at enough
    rw [hitsOfRough ℝ standard placed (by rw [factor]; decide), factor, noRough,
      List.filterMap_nil, Hit.apartNil _ _ (by decide)]

end Search

end Picture

end DeskScript
