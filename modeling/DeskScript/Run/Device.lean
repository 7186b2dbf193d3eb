/-
This file says what a run asks of the desktop: input actions and looks at the screen.
-/

import DeskScript.Match.Basic
import DeskScript.Step.Basic
import DeskScript.Time.Timestamp

namespace DeskScript

/-! ### Input -/

/-- An input action moves the mouse or presses buttons and keys. Times are in milliseconds. -/
inductive InputAction where
  | click (x y : Int32) (button : MouseButton) (count : UInt32)
  | move (x y : Int32) (duration : Nat)
  | type (text : String) (interval : Nat)
  | hotkey (keys : List String)
  deriving DecidableEq

namespace InputAction

def position (x y : Int32) : String :=
  "(" ++ toString x.toInt ++ ", " ++ toString y.toInt ++ ")"

def text : InputAction → String
  | .click x y button count =>
      "click " ++ button.tag ++ " x" ++ toString count.toNat ++ " at " ++ position x y
  | .move x y duration => "move to " ++ position x y ++ " over " ++ Time.durationText duration
  | .type text _ => "type " ++ Text.quoted text
  | .hotkey keys => "hotkey " ++ "+".intercalate keys

/-- This is the name of the kind of action. -/
def kind : InputAction → String
  | .click .. => "click"
  | .move .. => "move"
  | .type .. => "type"
  | .hotkey _ => "hotkey"

/-- An action is written with the name of its kind and with what it needs. -/
def toJson (action : InputAction) : Json :=
  let place (x y : Int32) : List (String × Json) :=
    [("x", .whole x.toInt), ("y", .whole y.toInt)]
  .object (("action", .string action.kind) ::
    match action with
    | .click x y button count =>
        place x y ++ [("button", .string button.tag), ("count", .nat count.toNat)]
    | .move x y duration => place x y ++ [("duration_ms", .nat duration)]
    | .type text interval => [("text", .string text), ("interval_ms", .nat interval)]
    | .hotkey keys => [("keys", .texts keys)])

end InputAction

/-- An input action may fail for one of several reasons, which a text explains. -/
inductive InputFault where
  | synthesis (text : String)
  | unknownKey (text : String)
  | clipboard (text : String)
  | unsupported (text : String)
  deriving DecidableEq

def InputFault.message : InputFault → String
  | .synthesis text => "Input synthesis failed: " ++ text
  | .unknownKey text => "Unknown key: " ++ text
  | .clipboard text => "Clipboard error: " ++ text
  | .unsupported text => "Unsupported action: " ++ text

/-! ### Looking -/

/-- A look searches the screen for an image or for a text. -/
inductive Target where
  | image (template : String)
  | text (query : String) (exact : Bool)
  deriving DecidableEq

/-- This is the name of an image or the wording of a text. -/
def Target.wording : Target → String
  | .image template => template
  | .text query _ => query

structure Look where
  target : Target
  region : Option Rect
  threshold : Float
  deriving DecidableEq

/-- A look is written with what it looks for, where, and how good a match has to be. -/
def Look.toJson (look : Look) : Json :=
  let limits := [("region", (look.region.map Rect.toJson).getD .null),
    ("threshold", Json.decimal look.threshold)]
  match look.target with
  | .image template => .object (("image", .string template) :: limits)
  | .text query exact =>
      .object (("text", .string query) :: ("exact", .bool exact) :: limits)

/-- The screen cannot be looked at for a reason. -/
structure Unavailable where
  reason : String
  deriving DecidableEq

def Unavailable.message (unavailable : Unavailable) : String :=
  "Matching backend unavailable: " ++ unavailable.reason

/-! ### Devices -/

inductive DeviceCall where
  | input (action : InputAction)
  | look (look : Look)
  deriving DecidableEq

/-- Of an input action only the kind is written. -/
def DeviceCall.toJson : DeviceCall → Json
  | .input action => .string action.kind
  | .look asked => asked.toJson

/-- A device may take its time, and while it is used the user may ask to cancel the run. -/
structure CallTiming where
  delay : Nat
  cancelAfter : Option Nat

def CallTiming.immediate : CallTiming := ⟨0, none⟩

/-- A device breaks down when it neither does its work nor gives a reason. -/
inductive InputAnswer where
  | done
  | failed (fault : InputFault)
  | brokeDown

inductive LookAnswer where
  | found (found : Match Float)
  | nothing
  | unavailable (unavailable : Unavailable)
  | brokeDown

/--
The devices of a run have a state. A call is noted first, and then it is answered unless the run
has been cancelled in the meantime.
-/
structure Devices (state : Type) where
  note : state → DeviceCall → state × CallTiming
  input : state → InputAction → state × InputAnswer
  look : state → Look → state × LookAnswer

/-! ### A device for trying out -/

/-- A dry run only lists the actions. A hotkey without keys is refused. -/
def dryRun (actions : Array InputAction) (action : InputAction) :
    Array InputAction × InputAnswer :=
  match action with
  | .hotkey [] => (actions, .failed (.unknownKey ""))
  | action => (actions.push action, .done)

end DeskScript
