/-
This file paints simple pictures.
-/

import DeskScript.Picture.Basic

namespace DeskScript

/-- A pattern gives a brightness to every position. -/
inductive Pattern where
  | plain (brightness : UInt8)
  /-- The brightness grows with the position and starts again after the greatest one. -/
  | ramp (perColumn perRow start : Int)
  /-- Square cells have brightnesses that look as if they were drawn by chance. -/
  | cells (side : Nat) (seed : UInt32)
  | copy (picture : Picture)
  deriving Inhabited

namespace Pattern

/-- This function mixes the place of a cell and the seed. -/
def mixed (column row seed : UInt32) : UInt32 :=
  let mixed := column * 73856093 ^^^ row * 19349663 ^^^ seed * 83492791
  let mixed := (mixed ^^^ (mixed >>> 15)) * 2246822519
  mixed ^^^ (mixed >>> 13)

def brightness : Pattern → Nat → Nat → UInt8
  | .plain brightness, _, _ => brightness
  | .ramp perColumn perRow start, x, y =>
      UInt8.ofNat ((perColumn * x + perRow * y + start) % 256).toNat
  | .cells side seed, x, y =>
      (mixed (UInt32.ofNat (x / side)) (UInt32.ofNat (y / side)) seed).toUInt8
  | .copy picture, x, y => picture.brightness x y

end Pattern

namespace Picture

/-- A canvas is dark all over. -/
def canvas (width height : Nat) : Picture := generate width height fun _ _ => 0

/-- This function fills a rectangle with a pattern as far as it lies in the picture. -/
def paint (picture : Picture) (left top width height : Int) (pattern : Pattern) : Picture :=
  generate picture.width picture.height fun x y =>
    if left ≤ x ∧ x < left + width ∧ top ≤ y ∧ y < top + height then
      pattern.brightness (x - left).toNat (y - top).toNat
    else picture.brightness x y

/-- This function cuts out the part of a rectangle that lies in the picture. -/
def cut (picture : Picture) (left top width height : Nat) : Picture :=
  let left := min left picture.width
  let top := min top picture.height
  picture.crop left top (min width (picture.width - left)) (min height (picture.height - top))

end Picture

end DeskScript
