/-
This file shows where a step clicks on what it has found. The click is inside the match as long as
the middle of the match is a coordinate. Otherwise it is on the other side of the screen.
-/

import DeskScript.Proofs.Run.Phases
import Mathlib

namespace DeskScript

namespace Rect

/-- The middle of a rectangle can be given by coordinates. -/
structure MiddleFits (rect : Rect) : Prop where
  across : rect.left + rect.width.toNat / 2 < 2 ^ 31
  down : rect.top + rect.height.toNat / 2 < 2 ^ 31

/-- A middle that is no coordinate comes in again in front of the side that it belongs to. -/
theorem middleInsideIff (start : Int32) (length : UInt32) (positive : 0 < length) :
    start.toInt ≤ (Int32.ofInt (start.toInt + length.toNat / 2)).toInt ∧
      (Int32.ofInt (start.toInt + length.toNat / 2)).toInt < start.toInt + length.toNat ↔
    start.toInt + length.toNat / 2 < 2 ^ 31 := by
  have least := start.le_toInt
  have below := start.toInt_lt
  have lengthBelow := length.toNat_lt
  have some : 0 < length.toNat := UInt32.lt_iff_toNat_lt.mp positive
  constructor
  · rintro ⟨behind, -⟩
    by_contra far
    have wrapped : (Int32.ofInt (start.toInt + length.toNat / 2)).toInt =
        start.toInt + length.toNat / 2 - 2 ^ 32 := by
      rw [Int32.toInt_ofInt, ← Int.sub_mul_bmod_self_right _ 1]
      exact Int.bmod_eq_of_le (by simp; omega) (by simp; omega)
    omega
  · intro fits
    rw [Int32.toInt_ofInt_of_le (by omega) fits]
    omega

/-- A rectangle contains its center if the middle can be given by coordinates, and only then. -/
theorem centerInsideIff {rect : Rect} (wide : 0 < rect.width) (high : 0 < rect.height) :
    rect.contains rect.center = true ↔ rect.MiddleFits := by
  have across := middleInsideIff rect.x rect.width wide
  have down := middleInsideIff rect.y rect.height high
  rw [contains]
  simp only [Bool.and_eq_true, decide_eq_true_iff]
  exact ⟨fun ⟨⟨⟨left, right⟩, top⟩, bottom⟩ => ⟨across.mp ⟨left, right⟩, down.mp ⟨top, bottom⟩⟩,
    fun fits => ⟨⟨across.mpr fits.across, (down.mpr fits.down).1⟩, (down.mpr fits.down).2⟩⟩

end Rect

namespace Leaf

variable {device : Type}

theorem checkedAddZero (coordinate : Int32) : checkedAdd? coordinate 0 = some coordinate := by
  have least := coordinate.le_toInt
  have below := coordinate.toInt_lt
  have sum : coordinate.toInt + (0 : Int32).toInt = coordinate.toInt := Int.add_zero _
  rw [checkedAdd?, sum, if_pos ⟨least, below⟩, Int32.ofInt_toInt]

/-- A click without an offset is made at the center of the match. -/
theorem clickedAtCenter (place : Workplace device) (session : Session device) (notes : StepNotes)
    {sensing : Sensing} {click : MatchClick} (clicks : sensing.click = some click)
    (still : click.offset = ⟨0, 0⟩) (found : Match Float) :
    (useMatch place session notes sensing found).session.calls.toList = session.calls.toList ++
      [⟨session.context.now,
        .input (.click found.center.x found.center.y click.button click.clickCount)⟩] := by
  have bound := bindAllProceeds session (matchBindings found sensing.output)
  have clock := bindAllContext session (matchBindings found sensing.output)
  rw [useMatch, clicks]
  simp only [still, checkedAddZero]
  generalize List.foldl _ session _ = before at bound clock ⊢
  have pressed : Session.Proceeds before (before.input place _).1 _ := before.inputProceeds
    (.click found.center.x found.center.y click.button click.clickCount)
  have both := (bound.trans pressed).calls
  rw [clock] at both
  rw [input]
  generalize before.input place _ = answered at both ⊢
  obtain ⟨after, _ | fault | _⟩ := answered <;> exact both

/--
The click on a match of positive width and height is made at the center, which is computed from the
bounds. It is inside the bounds if the middle can be given by coordinates, and only then.
-/
theorem clickInsideIff (place : Workplace device) (session : Session device) (notes : StepNotes)
    (sensing : Sensing) (click : MatchClick) (clicks : sensing.click = some click)
    (still : click.offset = ⟨0, 0⟩) (found : Match Float) (wide : 0 < found.bounds.width)
    (high : 0 < found.bounds.height) :
    ∃ x y, (useMatch place session notes sensing found).session.calls.toList =
        session.calls.toList ++
          [⟨session.context.now, .input (.click x y click.button click.clickCount)⟩] ∧
      found.center = ⟨x, y⟩ ∧
      (found.bounds.contains ⟨x, y⟩ = true ↔ found.bounds.MiddleFits) :=
  ⟨found.center.x, found.center.y, clickedAtCenter place session notes clicks still found, rfl,
    Rect.centerInsideIff wide high⟩

/-- These devices show nothing and only list what is put in. -/
def listing : Workplace (Array InputAction) where
  devices := ⟨fun state _ => (state, .immediate), dryRun, fun state _ => (state, .nothing)⟩
  config := .standard
  origin := .epoch

/-- A step of this kind clicks on what it finds. -/
def clicking : Sensing := ⟨none, 0.8, 5000, none, some .plain⟩

/-- A run begins like this. -/
def atRest : Session (Array InputAction) := .start (.start "run" none 0) .empty #[]

theorem clickInsideIffButton :
    clicking.click = some .plain ∧ MatchClick.plain.offset = ⟨0, 0⟩ ∧
    (Rect.mk 10 20 100 50).MiddleFits ∧ (Rect.mk 10 20 100 50).contains ⟨60, 45⟩ = true ∧
    (useMatch listing atRest .empty clicking
      ⟨"button", 0.9, ⟨10, 20, 100, 50⟩⟩).session.calls.toList =
        [⟨0, .input (.click 60 45 .left 1)⟩] := by
  have fits : (Rect.mk 10 20 100 50).MiddleFits := ⟨by decide, by decide⟩
  obtain ⟨x, y, clicked, center, inside⟩ := clickInsideIff listing atRest .empty clicking
    .plain rfl rfl ⟨"button", 0.9, ⟨10, 20, 100, 50⟩⟩ (by decide) (by decide)
  cases center
  exact ⟨rfl, rfl, fits, inside.mpr fits, clicked⟩

/-- The middle of this match is one pixel to the right of all coordinates. -/
theorem edgeClickedOutside :
    (Rect.mk 2147483647 0 2 1).contains (Rect.mk 2147483647 0 2 1).center = false ∧
    (useMatch listing atRest .empty clicking
      ⟨"edge", 0.9, ⟨2147483647, 0, 2, 1⟩⟩).session.calls.toList =
        [⟨0, .input (.click (-2147483648) 0 .left 1)⟩] :=
  ⟨by decide, by decide⟩

end Leaf

end DeskScript
