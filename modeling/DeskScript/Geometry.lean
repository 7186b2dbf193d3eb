/-
This file holds positions and rectangles on a screen.
-/

import DeskScript.Scalar
import DeskScript.Shape.Basic

namespace DeskScript

/-- This is a sum that stays at an end of the range rather than go beyond it. -/
def saturatingAdd (first second : Int32) : Int32 :=
  let sum := first.toInt + second.toInt
  if sum < -2 ^ 31 then Int32.minValue
  else if 2 ^ 31 - 1 < sum then Int32.maxValue
  else Int32.ofInt sum

/-- A position is given in pixels of the screen. -/
structure Point where
  x : Int32
  y : Int32
  deriving DecidableEq, Inhabited

namespace Point

/-- A position that would leave the range of coordinates stays at its end. -/
def offset (point : Point) (right down : Int32) : Point :=
  ⟨saturatingAdd point.x right, saturatingAdd point.y down⟩

/-- This is the square of the distance between two positions, in 64 bits. -/
def distanceSquared (first second : Point) : Int64 :=
  let right := first.x.toInt64 - second.x.toInt64
  let down := first.y.toInt64 - second.y.toInt64
  right * right + down * down

def toJson (point : Point) : Json :=
  .object [("x", .whole point.x.toInt), ("y", .whole point.y.toInt)]

def ofJson (origin : Shape.Origin) (found : Json) : Shape.Result Point := do
  let fields ← Shape.Fields.of "struct Point" ["x", "y"] origin found
  let x := fields.required "x" Shape.int32
  let y := fields.required "y" Shape.int32
  fields.settle [x.state, y.state]
  return ⟨← x.value, ← y.value⟩

end Point

/-- A rectangle holds its left and upper edge but not its right and lower one. -/
structure Rect where
  x : Int32
  y : Int32
  width : UInt32
  height : UInt32
  deriving DecidableEq, Inhabited

namespace Rect

def left (rect : Rect) : Int := rect.x.toInt

def top (rect : Rect) : Int := rect.y.toInt

def right (rect : Rect) : Int := rect.left + rect.width.toNat

def bottom (rect : Rect) : Int := rect.top + rect.height.toNat

/-- The center of a rectangle that leaves the range of coordinates comes in again from below. -/
def center (rect : Rect) : Point :=
  ⟨Int32.ofInt (rect.left + rect.width.toNat / 2), Int32.ofInt (rect.top + rect.height.toNat / 2)⟩

def area (rect : Rect) : Nat := rect.width.toNat * rect.height.toNat

def contains (rect : Rect) (point : Point) : Bool :=
  rect.left ≤ point.x.toInt && point.x.toInt < rect.right && rect.top ≤ point.y.toInt &&
    point.y.toInt < rect.bottom

/-- This is the rectangle that two rectangles have in common, if they have any pixel in common. -/
def intersection (first second : Rect) : Option Rect :=
  let left := max first.left second.left
  let top := max first.top second.top
  let right := min first.right second.right
  let bottom := min first.bottom second.bottom
  if right ≤ left ∨ bottom ≤ top then none
  else
    some ⟨Int32.ofInt left, Int32.ofInt top, UInt32.ofNat (right - left).toNat,
      UInt32.ofNat (bottom - top).toNat⟩

/-- This is the common area as a share of the smaller area. -/
def overlapRatio (scalar : Type) [Scalar scalar] (first second : Rect) : scalar :=
  let smaller := min first.area second.area
  if smaller = 0 then Scalar.ofNat 0
  else
    match first.intersection second with
    | some common => Scalar.ofNat common.area / Scalar.ofNat smaller
    | none => Scalar.ofNat 0

/-- This function moves a rectangle, as far as the range of coordinates goes. -/
def translate (rect : Rect) (origin : Point) : Rect :=
  { rect with x := saturatingAdd rect.x origin.x, y := saturatingAdd rect.y origin.y }

def toJson (rect : Rect) : Json :=
  .object [("x", .whole rect.x.toInt), ("y", .whole rect.y.toInt),
    ("width", .nat rect.width.toNat), ("height", .nat rect.height.toNat)]

def ofJson (origin : Shape.Origin) (found : Json) : Shape.Result Rect := do
  let fields ← Shape.Fields.of "struct Rect" ["x", "y", "width", "height"] origin found
  let x := fields.required "x" Shape.int32
  let y := fields.required "y" Shape.int32
  let width := fields.required "width" Shape.uint32
  let height := fields.required "height" Shape.uint32
  fields.settle [x.state, y.state, width.state, height.state]
  return ⟨← x.value, ← y.value, ← width.value, ← height.value⟩

end Rect

end DeskScript
