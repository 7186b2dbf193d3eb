/-
This file holds gray pictures.
-/

namespace DeskScript

/-- A picture holds the brightness of its pixels, row after row from the top. -/
structure Picture where
  width : Nat
  height : Nat
  pixels : Array UInt8
  complete : pixels.size = width * height

namespace Picture

/-- A picture can be given by the brightness at every position. -/
def generate (width height : Nat) (brightness : Nat → Nat → UInt8) : Picture where
  width := width
  height := height
  pixels := Array.ofFn fun index : Fin (width * height) =>
    brightness (index.val % width) (index.val / width)
  complete := Array.size_ofFn

instance : Inhabited Picture := ⟨generate 0 0 fun _ _ => 0⟩

/-- This is the brightness at a position inside the picture. -/
@[inline] def brightness (picture : Picture) (x y : Nat) : UInt8 :=
  picture.pixels.getD (y * picture.width + x) 0

/-- This is the part of a picture that fills a rectangle inside it. -/
def crop (picture : Picture) (left top width height : Nat) : Picture :=
  generate width height fun x y => picture.brightness (left + x) (top + y)

theorem positionBelow (width height x y : Nat) (insideX : x < width) (insideY : y < height) :
    y * width + x < width * height := by
  calc y * width + x < y * width + width := by omega
    _ = (y + 1) * width := by rw [Nat.succ_mul]
    _ ≤ height * width := Nat.mul_le_mul_right width insideY
    _ = width * height := Nat.mul_comm height width

theorem brightnessGenerate (width height : Nat) (pixel : Nat → Nat → UInt8) (x y : Nat)
    (insideX : x < width) (insideY : y < height) :
    (generate width height pixel).brightness x y = pixel x y := by
  have below := positionBelow width height x y insideX insideY
  have column : (y * width + x) % width = x := by
    rw [Nat.add_comm, Nat.add_mul_mod_self_right, Nat.mod_eq_of_lt insideX]
  have row : (y * width + x) / width = y := by
    rw [Nat.add_comm, Nat.add_mul_div_right _ _ (by omega), Nat.div_eq_of_lt insideX, Nat.zero_add]
  simp [brightness, generate, below, column, row]

theorem brightnessCrop (picture : Picture) (left top width height x y : Nat)
    (insideX : x < width) (insideY : y < height) :
    (picture.crop left top width height).brightness x y =
      picture.brightness (left + x) (top + y) :=
  brightnessGenerate width height _ x y insideX insideY

end Picture

end DeskScript
