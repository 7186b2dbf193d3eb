/-
This file tells how well a picture agrees with each part of a larger picture.
-/

import DeskScript.Picture.Basic
import DeskScript.Scalar

namespace DeskScript.Picture

/-- The sum table of a picture has at (x, y) the sum over all pixels above y and left of x. -/
abbrev SumTable (scalar : Type) := Array (Array scalar)

section

variable {scalar : Type} [Scalar scalar]

/-- The next row of a sum table adds the running sum of a row of pixels to the row above. -/
@[specialize] def nextSums (width : Nat) (above : Array scalar) (value : Nat → scalar) :
    Array scalar :=
  let zero : scalar := Scalar.ofNat 0
  (width.fold (fun x _ (sums, running) =>
    let running := running + value x
    (sums.push (above.getD (x + 1) zero + running), running)) (#[zero], zero)).1

@[specialize] def sumTable (picture : Picture) (value : UInt8 → scalar) : SumTable scalar :=
  let blank := Array.replicate (picture.width + 1) (Scalar.ofNat 0 : scalar)
  (picture.height.fold (fun y _ (rows, above) =>
    let sums := nextSums picture.width above fun x => value (picture.brightness x y)
    (rows.push sums, sums)) (#[blank], blank)).1

@[inline] def SumTable.entry (table : SumTable scalar) (x y : Nat) : scalar :=
  (table.getD y #[]).getD x (Scalar.ofNat 0)

/-- This is the sum over the pixels of a rectangle. -/
@[specialize] def SumTable.window (table : SumTable scalar) (x y width height : Nat) : scalar :=
  table.entry (x + width) (y + height) - table.entry (x + width) y - table.entry x (y + height) +
    table.entry x y

@[inline] def level (brightness : UInt8) : scalar := Scalar.ofNat brightness.toNat

end

/-- A correlation holds what is needed to compare one picture with all parts of another. -/
structure Correlation (scalar : Type) where
  scene : Picture
  sums : SumTable scalar
  squares : SumTable scalar
  width : Nat
  height : Nat
  /-- These are the differences between the pixels and their mean. -/
  deviations : Array scalar
  mean : scalar
  /-- This is the root of the sum of the squares of the deviations. -/
  norm : scalar

namespace Correlation

variable {scalar : Type} [Scalar scalar]

@[specialize] def of (scene picture : Picture) : Correlation scalar :=
  let count := picture.pixels.size
  let zero : scalar := Scalar.ofNat 0
  let value : Nat → scalar := fun index => level (picture.pixels.getD index 0)
  let mean := Scalar.sumOf count value / Scalar.ofNat count
  let deviations := (Array.range count).map fun index => value index - mean
  let square : Nat → scalar := fun index =>
    deviations.getD index zero * deviations.getD index zero
  { scene
    sums := scene.sumTable level
    squares := scene.sumTable fun brightness => level brightness * level brightness
    width := picture.width
    height := picture.height
    deviations
    mean
    norm := Scalar.sqrt (Scalar.sumOf count square) }

/-- Variances and norms below this bound count as zero. -/
def leastVariance : scalar := Scalar.ofNat 1 / Scalar.ofNat 1000000

/-- This is the number of pixels times the variance of a part of the scene. -/
@[inline] def variance (correlation : Correlation scalar) (x y : Nat) : scalar :=
  let sum := correlation.sums.window x y correlation.width correlation.height
  let squares := correlation.squares.window x y correlation.width correlation.height
  Scalar.larger (Scalar.ofNat 0)
    (squares - sum * sum / Scalar.ofNat (correlation.width * correlation.height))

/-- This is the sum of the pixels of a part of the scene, every pixel times a deviation. -/
@[inline] def cross (correlation : Correlation scalar) (x y : Nat) : scalar :=
  let width := correlation.width
  Scalar.sumOf (width * correlation.height) fun index =>
    level (correlation.scene.brightness (x + index % width) (y + index / width)) *
      correlation.deviations.getD index (Scalar.ofNat 0)

/--
The score of a part of the scene is from zero to one. A picture of one brightness agrees only with
parts of one brightness, the better the nearer they are. Any other picture agrees with parts whose
pixels rise and fall together with its own.
-/
@[specialize] def score (correlation : Correlation scalar) (x y : Nat) : scalar :=
  let zero : scalar := Scalar.ofNat 0
  let one : scalar := Scalar.ofNat 1
  let count : scalar := Scalar.ofNat (correlation.width * correlation.height)
  let variance := correlation.variance x y
  let isFlat := Scalar.exceeds (leastVariance * count) variance
  if Scalar.exceeds leastVariance correlation.norm then
    if isFlat then
      let sum := correlation.sums.window x y correlation.width correlation.height
      let apart := Scalar.distance (sum / count) correlation.mean
      Scalar.clamp zero one (one - apart / Scalar.ofNat 255)
    else zero
  else if isFlat then zero
  else
    Scalar.clamp zero one (correlation.cross x y / (Scalar.sqrt variance * correlation.norm))

end Correlation

end DeskScript.Picture
