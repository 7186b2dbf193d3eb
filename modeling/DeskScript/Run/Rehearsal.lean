/-
This file holds devices that follow a plan, so that a run can be rehearsed without a desktop.
-/

import DeskScript.Screen.Finder

namespace DeskScript

/-- A scene is what a run sees when it looks at the screen. -/
inductive Scene where
  | unavailable (unavailable : Unavailable)
  | still (finder : Finder) (files : PictureFiles)
  /-- Every look for one wording takes the next answer, and the last one is given again. -/
  | planned (answers : Table (List LookAnswer)) (delay : Nat)

namespace Scene

/-- A planned match is found only if it is good enough. -/
def plannedAnswer (threshold : Float) (answers : List LookAnswer) (used : Nat) : LookAnswer :=
  match answers[min used (answers.length - 1)]? with
  | some (.found found) => if found.qualifies threshold then .found found else .nothing
  | some answer => answer
  | none => .nothing

/-- Looks at a scene that is not available are not counted as calls. -/
def counts : Scene → DeviceCall → Bool
  | .unavailable _, .look _ => false
  | _, _ => true

def delay : Scene → Nat
  | .planned _ delay => delay
  | _ => 0

end Scene

/-- A rehearsal has a plan, and it keeps a list of what was asked of its devices. -/
structure Rehearsal where
  scene : Scene
  inputDelay : Nat
  /-- These input actions are not done. They are given by their number from one. -/
  refusals : List (Nat × InputAnswer)
  /-- The run is cancelled some time after the call with this number. -/
  cancellations : List (Nat × Nat)
  calls : Array DeviceCall
  inputs : Nat
  looks : Table Nat
  actions : Array InputAction
  images : ImageCache

namespace Rehearsal

def start (scene : Scene) (inputDelay : Nat) (refusals : List (Nat × InputAnswer)) : Rehearsal :=
  ⟨scene, inputDelay, refusals, [], #[], 0, .empty, #[], .empty⟩

/-- A new run starts with empty lists, but images that were read are kept. -/
def again (rehearsal : Rehearsal) (cancellations : List (Nat × Nat)) : Rehearsal :=
  { start rehearsal.scene rehearsal.inputDelay rehearsal.refusals with
    cancellations
    images := rehearsal.images }

/-- This is the shortest of the delays that are planned for a call. -/
def cancelDelay (rehearsal : Rehearsal) (number : Nat) : Option Nat :=
  ((rehearsal.cancellations.filter fun entry => entry.1 = number).map Prod.snd).min?

def note (rehearsal : Rehearsal) (call : DeviceCall) : Rehearsal × CallTiming :=
  if rehearsal.scene.counts call then
    let rehearsal := { rehearsal with calls := rehearsal.calls.push call }
    let delay := match call with
      | .input _ => rehearsal.inputDelay
      | .look _ => rehearsal.scene.delay
    (rehearsal, ⟨delay, rehearsal.cancelDelay rehearsal.calls.size⟩)
  else (rehearsal, .immediate)

/-- Only actions that are done are listed. -/
def input (rehearsal : Rehearsal) (action : InputAction) : Rehearsal × InputAnswer :=
  let rehearsal := { rehearsal with inputs := rehearsal.inputs + 1 }
  match rehearsal.refusals.lookup rehearsal.inputs with
  | some answer => (rehearsal, answer)
  | none => ({ rehearsal with actions := rehearsal.actions.push action }, .done)

def look (rehearsal : Rehearsal) (look : Look) : Rehearsal × LookAnswer :=
  match rehearsal.scene with
  | .unavailable unavailable => (rehearsal, .unavailable unavailable)
  | .still finder files =>
      let (images, found) := finder.look files rehearsal.images look
      ({ rehearsal with images }, Finder.answer found)
  | .planned answers _ =>
      let wording := look.target.wording
      match answers.find? wording with
      | none => (rehearsal, .nothing)
      | some answers =>
          let used := (rehearsal.looks.find? wording).getD 0
          ({ rehearsal with looks := rehearsal.looks.put wording (used + 1) },
            Scene.plannedAnswer look.threshold answers used)

def devices : Devices Rehearsal := ⟨note, input, look⟩

end Rehearsal

end DeskScript
