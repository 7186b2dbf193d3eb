/-
This file searches a picture in a larger picture.
-/

import DeskScript.Geometry
import DeskScript.Picture.Correlation
import DeskScript.Picture.Scale

namespace DeskScript.Picture

/-- A hit is a position of the searched picture in the scene and its score. -/
structure Hit (scalar : Type) where
  x : Nat
  y : Nat
  score : scalar

/-- A search is described by its limits. -/
structure Search (scalar : Type) where
  /-- No more hits than this are given. -/
  maxHits : Nat
  /-- The sides of a scaled picture are not shorter than this. -/
  minCoarseSide : Nat
  /-- Pictures are not scaled down by more than this. -/
  maxFactor : UInt32
  /-- Only this many hits among scaled pictures are looked at more closely. -/
  refineCandidates : Nat
  /-- The score of a hit among scaled pictures may be lower by this. -/
  coarseSlack : scalar

namespace Search

variable {scalar : Type} [Scalar scalar]

def standard : Search scalar :=
  ⟨32, 8, 8, 16, Scalar.ofNat 3 / Scalar.ofNat 10⟩

/-- A factor is halved until the sides of the scaled picture are long enough. -/
def halvedFactor (search : Search scalar) (width height : Nat) (factor : Nat) : Nat :=
  if 1 < factor ∧
      (width / factor < search.minCoarseSide ∨ height / factor < search.minCoarseSide) then
    search.halvedFactor width height (factor / 2)
  else factor
termination_by factor

/-- This is the factor by which the pictures are scaled down first. -/
def factor (search : Search scalar) (width height : Nat) : Nat :=
  max (search.halvedFactor width height (max search.maxFactor.toNat 1)) 1

/-- These are the positions from one corner to the other, row after row. -/
def positions (left right top bottom : Nat) : List (Nat × Nat) :=
  (List.range' top (bottom + 1 - top)).flatMap fun y =>
    (List.range' left (right + 1 - left)).map fun x => (x, y)

/-- These are the positions whose score is at least a threshold. -/
@[specialize] def hitsAt (correlation : Correlation scalar) (threshold : scalar)
    (places : List (Nat × Nat)) : List (Hit scalar) :=
  places.filterMap fun (x, y) =>
    let score := correlation.score x y
    if threshold ≤ score then some ⟨x, y, score⟩ else none

/-- This is the first of the positions with the highest score. -/
@[specialize] def bestAt (correlation : Correlation scalar) (places : List (Nat × Nat)) :
    Option (Hit scalar) :=
  places.foldl (fun best (x, y) =>
    let score := correlation.score x y
    match best with
    | none => some ⟨x, y, score⟩
    | some hit => if Scalar.exceeds score hit.score then some ⟨x, y, score⟩ else best) none

end Search

namespace Hit

variable {scalar : Type}

def box (hit : Hit scalar) (width height : Nat) : Rect :=
  ⟨Int32.ofNat hit.x, Int32.ofNat hit.y, UInt32.ofNat width, UInt32.ofNat height⟩

variable [Scalar scalar]

/-- The boxes of two hits overlap when they have more than half of their area in common. -/
def overlaps (width height : Nat) (first second : Hit scalar) : Bool :=
  Scalar.exceeds ((first.box width height).overlapRatio scalar (second.box width height)) half

/-- A hit is kept unless there are enough hits or it overlaps one that is kept. -/
def keep (width height limit : Nat) (kept : List (Hit scalar)) (hit : Hit scalar) :
    List (Hit scalar) :=
  if limit ≤ kept.length || kept.any fun other => other.overlaps width height hit then kept
  else kept ++ [hit]

/-- Of hits that overlap only the best one is kept, and the best hits come first. -/
def apart (width height limit : Nat) (hits : List (Hit scalar)) : List (Hit scalar) :=
  (hits.mergeSort fun first second => decide (second.score ≤ first.score)).foldl
    (keep width height limit) []

end Hit

namespace Search

variable {scalar : Type} [Scalar scalar]

/-- A hit among the scaled pictures is looked for again within twice the factor around it. -/
@[specialize] def refine (scene picture : Picture) (correlation : Correlation scalar)
    (factor : Nat) (threshold : scalar) (hit : Hit scalar) : Option (Hit scalar) :=
  let radius := (UInt32.ofNat (2 * factor)).toNat
  let x := hit.x * factor
  let y := hit.y * factor
  let places := positions (x - radius) (min (x + radius) (scene.width - picture.width))
    (y - radius) (min (y + radius) (scene.height - picture.height))
  (bestAt correlation places).filter fun hit => decide (threshold ≤ hit.score)

/-- This function searches in scaled pictures first and then around the hits found there. -/
@[specialize] def coarseToFine (filter : Type) [Scalar filter] (search : Search scalar)
    (scene picture : Picture) (correlation : Correlation scalar) (factor : Nat)
    (threshold : scalar) : List (Hit scalar) :=
  let scaled (picture : Picture) : Picture :=
    picture.scale filter (max (picture.width / factor) 1) (max (picture.height / factor) 1)
  let smallScene := scaled scene
  let small := scaled picture
  if smallScene.width < small.width ∨ smallScene.height < small.height then []
  else
    let coarse : Correlation scalar := .of smallScene small
    let places := positions 0 (smallScene.width - small.width) 0 (smallScene.height - small.height)
    let least := Scalar.larger (Scalar.ofNat 0) (threshold - search.coarseSlack)
    let candidates := Hit.apart small.width small.height search.refineCandidates
      (hitsAt coarse least places)
    candidates.filterMap (refine scene picture correlation factor threshold)

/--
These are the best positions of a picture in a scene. They score at least a threshold and do not
overlap. Large pictures are searched in scaled pictures first.
-/
@[specialize] def hits (filter : Type) [Scalar filter] (search : Search scalar)
    (scene picture : Picture) (threshold : scalar) : List (Hit scalar) :=
  if picture.width = 0 ∨ picture.height = 0 ∨ scene.width < picture.width ∨
      scene.height < picture.height then []
  else
    let factor := search.factor picture.width picture.height
    let correlation : Correlation scalar := .of scene picture
    let found :=
      if factor = 1 then
        hitsAt correlation threshold
          (positions 0 (scene.width - picture.width) 0 (scene.height - picture.height))
      else search.coarseToFine filter scene picture correlation factor threshold
    Hit.apart picture.width picture.height search.maxHits found

end Search

end DeskScript.Picture
