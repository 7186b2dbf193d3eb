/-
This file runs steps that hold no other steps.
-/

import DeskScript.Run.Session
import DeskScript.Step.Validity

namespace DeskScript

/-! ### Coordinates -/

/-- A text stands for a coordinate if it is a number whose size is that of a coordinate. -/
def coordinateOfResolved? (text : String) : Option Int32 :=
  let characters := Text.trimChars text.toList
  match Decimal.intWithin? 10 (2 ^ 31) characters with
  | some value => some (Int32.ofInt value)
  | none => do
      let value ← Decimal.float? characters
      let number ← Decimal.Dyadic.ofFloat? value
      if value.abs ≤ 2147483647 then return Int32.ofInt number.nearestWhole
      none

/-! ### How an action ends -/

/-- An action does its work, fails, or meets a device that breaks down. -/
inductive ActionEnd where
  | done
  | failed (failure : StepFailure)
  | brokeDown

/-- After an action there are a new state and the notes that were taken. -/
structure ActionRun (device : Type) where
  session : Session device
  notes : StepNotes
  ending : ActionEnd

namespace Leaf

variable {device : Type}

/-- The value of a coordinate must be a number after its placeholders have been replaced. -/
def coordinate (bindings : Bindings) (notes : StepNotes) (field : String) :
    Coordinate → Except StepFailure Int32 × StepNotes
  | .fixed value => (.ok value, notes)
  | .template template =>
      let (resolved, notes) := notes.resolve bindings template
      match coordinateOfResolved? resolved with
      | some value => (.ok value, notes)
      | none => (.error (.invalidValue field resolved "not an integer coordinate"), notes)

/-- The second coordinate is looked at only if the first one has a value. -/
def position (bindings : Bindings) (x y : Coordinate) :
    Except StepFailure (Int32 × Int32) × StepNotes :=
  match coordinate bindings .empty "x" x with
  | (.error failure, notes) => (.error failure, notes)
  | (.ok x, notes) =>
      match coordinate bindings notes "y" y with
      | (.error failure, notes) => (.error failure, notes)
      | (.ok y, notes) => (.ok (x, y), notes)

/-- These are the keys that are not blank after their placeholders have been replaced. -/
def pressedKeys (bindings : Bindings) : List String → StepNotes → List String × StepNotes
  | [], notes => ([], notes)
  | key :: rest, notes =>
      let (resolved, notes) := notes.resolve bindings key
      let (others, notes) := pressedKeys bindings rest notes
      (if Text.isBlankText resolved then others else resolved :: others, notes)

def input (place : Workplace device) (session : Session device) (notes : StepNotes)
    (action : InputAction) : ActionRun device :=
  let (session, answer) := session.input place action
  match answer with
  | .done => ⟨session, notes, .done⟩
  | .failed fault => ⟨session, notes, .failed (.input fault)⟩
  | .brokeDown => ⟨session, notes, .brokeDown⟩

/-! ### Waiting for a match -/

inductive PollEnd where
  | found (found : Match Float)
  | failed (failure : StepFailure)
  | brokeDown

/-- What a step waits for on the screen, and for how long, in milliseconds. -/
structure Wait where
  stepId : String
  look : Look
  timeout : Nat
  startedAt : Nat

def Wait.expired (wait : Wait) (attempts : Nat) : StepFailure :=
  .matchTimeout wait.stepId wait.look.target.wording wait.timeout attempts

/--
The screen is looked at until there is a match or the time is over. Between two looks the run sleeps
for the poll interval, but not longer than the rest of the time. Every sleep takes some time, so
there are never more rounds than milliseconds.
-/
def poll (place : Workplace device) (wait : Wait) :
    Nat → Nat → Session device → Session device × PollEnd
  | 0, attempts, session => (session, .failed (wait.expired attempts))
  | rounds + 1, attempts, session =>
      match session.context.checkpoint (some wait.stepId) with
      | some abort => (session, .failed (.aborted abort))
      | none =>
          match session.look place wait.look with
          | (session, .error reason) =>
              (session, .failed (.aborted (session.abort reason wait.stepId)))
          | (session, .ok .brokeDown) => (session, .brokeDown)
          | (session, .ok (.unavailable unavailable)) =>
              (session, .failed (.unavailable unavailable))
          | (session, .ok (.found found)) => (session, .found found)
          | (session, .ok .nothing) =>
              let elapsed := session.context.now - wait.startedAt
              if wait.timeout ≤ elapsed then (session, .failed (wait.expired (attempts + 1)))
              else
                match session.sleep (min place.config.pollWait (wait.timeout - elapsed)) with
                | (session, some reason) =>
                    (session, .failed (.aborted (session.abort reason wait.stepId)))
                | (session, none) => poll place wait rounds (attempts + 1) session

/-! ### Variables of a match -/

def outputX (output : String) : String := output ++ "_x"

def outputY (output : String) : String := output ++ "_y"

/-- Before a step looks for something its output variables are unbound. -/
def clearOutputs (session : Session device) : Option String → Session device
  | none => session
  | some output => ((session.unbind output).unbind (outputX output)).unbind (outputY output)

def coordinateText (value : Int32) : String := String.ofList (Decimal.intDigits value.toInt)

/-- These are the variables that a match binds, in the order in which they are bound. -/
def matchBindings (found : Match Float) (output : Option String) : List (String × String) :=
  let x := coordinateText found.center.x
  let y := coordinateText found.center.y
  [("matched_text", found.label), ("matched_x", x), ("matched_y", y),
    ("matched_confidence", Decimal.fixedPlaces 4 found.confidence)] ++
    match output with
    | none => []
    | some output => [(output, found.label), (outputX output, x), (outputY output, y)]

/-- A sum of two coordinates has to be a coordinate. -/
def checkedAdd? (first second : Int32) : Option Int32 :=
  let sum := first.toInt + second.toInt
  if -2 ^ 31 ≤ sum ∧ sum < 2 ^ 31 then some (Int32.ofInt sum) else none

def offsetFailure (center offset : Point) : StepFailure :=
  .invalidValue "click_on_match.offset" (InputAction.position offset.x offset.y)
    ("moves the click off the coordinate range from " ++ InputAction.position center.x center.y)

/-- A match binds its variables, and then the step may click on it. -/
def useMatch (place : Workplace device) (session : Session device) (notes : StepNotes)
    (sensing : Sensing) (found : Match Float) : ActionRun device :=
  let session := (matchBindings found sensing.output).foldl
    (fun session (name, value) => session.bind name value) session
  let notes := { notes with matchedText := some found.label }
  match sensing.click with
  | none => ⟨session, notes, .done⟩
  | some click =>
      let center := found.center
      match checkedAdd? center.x click.offset.x, checkedAdd? center.y click.offset.y with
      | some x, some y => input place session notes (.click x y click.button click.clickCount)
      | _, _ => ⟨session, notes, .failed (offsetFailure center click.offset)⟩

def sense (place : Workplace device) (stepId : String) (session : Session device)
    (notes : StepNotes) (target : Target) (sensing : Sensing) : ActionRun device :=
  let session := clearOutputs session sensing.output
  let timeout := sensing.timeout.toNat
  let wait : Wait :=
    ⟨stepId, ⟨target, sensing.region, sensing.threshold⟩, timeout, session.context.now⟩
  match poll place wait (timeout + 1) 0 session with
  | (session, .found found) => useMatch place session notes sensing found
  | (session, .failed failure) => ⟨session, notes, .failed failure⟩
  | (session, .brokeDown) => ⟨session, notes, .brokeDown⟩

/-! ### Actions -/

/-- This function does the work of an action once. -/
def act (place : Workplace device) (stepId : String) (session : Session device) :
    Action → ActionRun device
  | .click x y button count =>
      match position session.bindings x y with
      | (.error failure, notes) => ⟨session, notes, .failed failure⟩
      | (.ok (x, y), notes) => input place session notes (.click x y button count)
  | .move x y duration =>
      match position session.bindings x y with
      | (.error failure, notes) => ⟨session, notes, .failed failure⟩
      | (.ok (x, y), notes) => input place session notes (.move x y duration.toNat)
  | .type text interval =>
      let (text, notes) := StepNotes.empty.resolve session.bindings text
      input place session notes (.type text interval.toNat)
  | .hotkey keys =>
      match pressedKeys session.bindings keys .empty with
      | ([], notes) =>
          ⟨session, notes, .failed (.invalidValue "keys" ("+".intercalate keys)
            "no keys left after substitution")⟩
      | (pressed, notes) => input place session notes (.hotkey pressed)
  | .wait duration =>
      match session.sleep duration.toNat with
      | (session, some reason) =>
          ⟨session, .empty, .failed (.aborted (session.abort reason stepId))⟩
      | (session, none) => ⟨session, .empty, .done⟩
  | .waitImage template sensing =>
      let (template, notes) := StepNotes.empty.resolve session.bindings template
      sense place stepId session notes (.image template) sensing
  | .searchText query exact sensing =>
      let (query, notes) := StepNotes.empty.resolve session.bindings query
      sense place stepId session notes (.text query exact) sensing

/-! ### Attempts -/

/-- A failure that is not recoverable ends the run. Of the others the step or the rules decide. -/
def endsRun (config : EngineConfig) (header : StepHeader) (failure : StepFailure) : Bool :=
  !failure.isRecoverable ||
    match header.onError with
    | some .stop => true
    | some .continue_ => false
    | none => config.failurePolicy = .abortOnFailure

/-- A step that did its work is recorded, and then there is a pause. -/
def succeed (place : Workplace device) (step : Step) (depth : Nat) (startedAt : Time.Timestamp)
    (session : Session device) (notes : StepNotes) (attempt : Nat) : Flow device :=
  let session :=
    session.record place step depth .success notes none (UInt32.ofNat attempt) startedAt
  match session.sleep place.config.stepDelay.toNat with
  | (session, some reason) => .halt session (.aborted (session.abort reason step.id))
  | (session, none) => .goOn session

/-- A step that failed for good is recorded, and the run may end. -/
def fail (place : Workplace device) (step : Step) (depth : Nat) (startedAt : Time.Timestamp)
    (session : Session device) (notes : StepNotes) (failure : StepFailure) (attempt : Nat) :
    Flow device :=
  let session := session.record place step depth failure.outcome notes (some failure.message)
    (UInt32.ofNat attempt) startedAt
  if endsRun place.config step.header failure then
    .halt session (.failed failure.message (some step.id))
  else .goOn session

/-- After a recoverable failure the step is tried again as long as attempts are left. -/
def attempt (place : Workplace device) (step : Step) (action : Action) (depth : Nat)
    (startedAt : Time.Timestamp) : Nat → Nat → Session device → Flow device
  | left, number, session =>
      let run := act place step.id session action
      match run.ending with
      | .brokeDown => .halt run.session .brokeDown
      | .done => succeed place step depth startedAt run.session run.notes number
      | .failed (.aborted abort) =>
          .halt (run.session.record place step depth .aborted run.notes none
            (UInt32.ofNat number) startedAt) (.aborted abort)
      | .failed failure =>
          match left with
          | 0 => fail place step depth startedAt run.session run.notes failure number
          | left + 1 =>
              if failure.isRecoverable then
                attempt place step action depth startedAt left (number + 1) run.session
              else fail place step depth startedAt run.session run.notes failure number

/-- The number of further attempts never brings the count of attempts out of its range. -/
def furtherAttempts (header : StepHeader) : Nat := min header.retryCount.toNat (2 ^ 32 - 2)

end Leaf

end DeskScript
