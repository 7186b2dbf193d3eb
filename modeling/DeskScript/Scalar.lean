/-
This file holds the arithmetic that scores and weights need, so that the same search runs on
doubles and can be reasoned about on exact numbers.
-/

namespace DeskScript

/-- A scalar type has the four operations, an order that can be tested, and square roots. -/
class Scalar (scalar : Type) extends Add scalar, Sub scalar, Mul scalar, Div scalar,
    LE scalar where
  decideLE : (first second : scalar) → Decidable (first ≤ second)
  /-- This is the scalar nearest to a natural number. -/
  ofNat : Nat → scalar
  sqrt : scalar → scalar
  /-- This is the greatest natural number that is no greater than the scalar, or else zero. -/
  wholePart : scalar → Nat

namespace Scalar

variable {scalar : Type} [Scalar scalar]

instance (first second : scalar) : Decidable (first ≤ second) := decideLE first second

/-- The first number is greater when it is not at most the second. -/
@[inline] def exceeds (first second : scalar) : Bool := !decide (first ≤ second)

/-- This is the greater of two numbers. -/
@[inline] def larger (first second : scalar) : scalar := if first ≤ second then second else first

/-- This function brings a number into a range. -/
@[inline] def clamp (low high value : scalar) : scalar :=
  if low ≤ value then if value ≤ high then value else high else low

/-- This is the distance between two numbers. -/
@[inline] def distance (first second : scalar) : scalar :=
  if first ≤ second then second - first else first - second

/-- This is the natural number nearest to a number, and a half goes up. -/
@[inline] def nearest (value : scalar) : Nat :=
  let whole := wholePart value
  let half : scalar := ofNat 1 / ofNat 2
  if half ≤ value - ofNat whole then whole + 1 else whole

/-- This is the least natural number that is no less than the scalar. -/
@[inline] def wholeAbove (value : scalar) : Nat :=
  let whole := wholePart value
  if value ≤ ofNat whole then whole else whole + 1

/-- The terms are added from the first to the last. -/
@[specialize] def sumOf (count : Nat) (term : Nat → scalar) : scalar :=
  count.fold (fun index _ total => total + term index) (ofNat 0)

theorem sumOfZero (term : Nat → scalar) : sumOf 0 term = ofNat 0 := rfl

theorem sumOfSucc (count : Nat) (term : Nat → scalar) :
    sumOf (count + 1) term = sumOf count term + term count := by
  simp [sumOf, Nat.fold_succ]

end Scalar

instance : Scalar Float where
  decideLE first second := inferInstanceAs (Decidable (first ≤ second))
  ofNat value := (UInt64.ofNat value).toFloat
  sqrt := Float.sqrt
  wholePart value := value.toUInt64.toNat

instance : Scalar Float32 where
  decideLE first second := inferInstanceAs (Decidable (first ≤ second))
  ofNat value := (UInt64.ofNat value).toFloat32
  sqrt := Float32.sqrt
  wholePart value := value.toUInt64.toNat

end DeskScript
