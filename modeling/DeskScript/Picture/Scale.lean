/-
This file scales pictures with a filter that is highest at the middle and falls in a straight line.
-/

import DeskScript.Picture.Basic
import DeskScript.Scalar

namespace DeskScript.Picture

/-- A window names the pixels that a scaled pixel is made of, and their shares. -/
structure Window (scalar : Type) where
  first : Nat
  shares : Array scalar

section

variable {scalar : Type} [Scalar scalar]

def half : scalar := Scalar.ofNat 1 / Scalar.ofNat 2

/-- The height of the filter falls from one at its middle to zero at its support. -/
@[inline] def filterHeight (support middle : scalar) (position : Nat) : scalar :=
  let one : scalar := Scalar.ofNat 1
  let away := Scalar.distance (Scalar.ofNat position) middle / support
  if one ≤ away then Scalar.ofNat 0 else one - away

/-- This is the window for one of `scaled` positions on a side of `side` pixels. -/
@[specialize] def windowAt (side scaled position : Nat) : Window scalar :=
  let ratio : scalar := Scalar.ofNat side / Scalar.ofNat scaled
  let support := Scalar.larger (Scalar.ofNat 1) ratio
  let center := (Scalar.ofNat position + half) * ratio
  let first := min (Scalar.wholePart (center - support)) (side - 1)
  let past := min (max (Scalar.wholeAbove (center + support)) (first + 1)) side
  let middle := center - half
  let heights := (Array.range (past - first)).map fun index =>
    filterHeight support middle (first + index)
  let total := Scalar.sumOf heights.size fun index => heights.getD index (Scalar.ofNat 0)
  ⟨first, heights.map fun height => height / total⟩

/-- This is the sum of the values in a window, every value times its share. -/
@[inline] def Window.blend (window : Window scalar) (value : Nat → scalar) : scalar :=
  Scalar.sumOf window.shares.size fun index =>
    value (window.first + index) * window.shares.getD index (Scalar.ofNat 0)

/-- The columns are scaled first, and their values are not rounded. -/
@[specialize] def scaledColumns (picture : Picture) (height : Nat) : Array (Array scalar) :=
  (Array.range height).map fun row =>
    let window : Window scalar := windowAt picture.height height row
    (Array.range picture.width).map fun column =>
      window.blend fun y => Scalar.ofNat (picture.brightness column y).toNat

end

/-- A picture that has the new size already stays as it is. -/
@[specialize] def scale (scalar : Type) [Scalar scalar] (picture : Picture) (width height : Nat) :
    Picture :=
  if picture.width = width ∧ picture.height = height then picture
  else
    let rows : Array (Array scalar) := picture.scaledColumns height
    let windows : Array (Window scalar) :=
      (Array.range width).map fun column => windowAt picture.width width column
    generate width height fun column row =>
      let values := rows.getD row #[]
      let value := (windows.getD column ⟨0, #[]⟩).blend fun x => values.getD x (Scalar.ofNat 0)
      UInt8.ofNat
        (Scalar.nearest (Scalar.clamp (Scalar.ofNat 0) (Scalar.ofNat 255) value))

end DeskScript.Picture
