/-
This file holds the steps of a script and the ways of walking through a tree of steps.
-/

import DeskScript.Condition
import DeskScript.Geometry

namespace DeskScript

/-! ### Step types -/

inductive StepType where
  | mouseClick
  | mouseMove
  | keyboardType
  | keyboardHotkey
  | waitTime
  | waitImage
  | textSearch
  | ifCondition
  | loop
  deriving DecidableEq, Inhabited

namespace StepType

def all : List StepType :=
  [.mouseClick, .mouseMove, .keyboardType, .keyboardHotkey, .waitTime, .waitImage, .textSearch,
    .ifCondition, .loop]

/-- The tag of a type is its name in a document. -/
def tag : StepType → String
  | .mouseClick => "mouse_click"
  | .mouseMove => "mouse_move"
  | .keyboardType => "keyboard_type"
  | .keyboardHotkey => "keyboard_hotkey"
  | .waitTime => "wait_time"
  | .waitImage => "wait_image"
  | .textSearch => "text_search"
  | .ifCondition => "if_condition"
  | .loop => "loop"

/-- The short name of a type is used in traces. -/
def shortName : StepType → String
  | .mouseClick => "click"
  | .mouseMove => "move"
  | .keyboardType => "type"
  | .keyboardHotkey => "hotkey"
  | .waitTime => "wait"
  | .waitImage => "wait_image"
  | .textSearch => "text_search"
  | .ifCondition => "if"
  | .loop => "loop"

/-- Placeholders are replaced in these fields. -/
def substitutedFields : StepType → List String
  | .mouseClick | .mouseMove => ["x", "y"]
  | .keyboardType => ["text"]
  | .keyboardHotkey => ["keys"]
  | .waitTime => []
  | .waitImage => ["template_ref"]
  | .textSearch => ["query_text"]
  | .ifCondition | .loop => ["condition.left", "condition.right"]

/-- A sensing step looks for something on the screen. -/
def isSensing : StepType → Bool
  | .waitImage | .textSearch => true
  | _ => false

def named : List (String × StepType) :=
  all.map fun type => (type.tag, type)

def ofTag? (tag : String) : Option StepType :=
  named.lookup tag

theorem ofTagTag (type : StepType) : ofTag? type.tag = some type := by
  cases type <;> rfl

end StepType

/-! ### Parts of steps -/

inductive MouseButton where
  | left
  | right
  | middle
  deriving DecidableEq, Inhabited

def MouseButton.tag : MouseButton → String
  | .left => "left"
  | .right => "right"
  | .middle => "middle"

/-- A step may say by itself whether its failure ends the run. -/
inductive ErrorHandling where
  | stop
  | continue_
  deriving DecidableEq

def ErrorHandling.tag : ErrorHandling → String
  | .stop => "stop"
  | .continue_ => "continue"

/-- A coordinate is a number or a template that has to become one. -/
inductive Coordinate where
  | fixed (value : Int32)
  | template (text : String)
  deriving DecidableEq

def Coordinate.text : Coordinate → String
  | .fixed value => String.ofList (Decimal.intDigits value.toInt)
  | .template text => text

/-- A sensing step may click on what it has found, at an offset from the center. -/
structure MatchClick where
  button : MouseButton
  clickCount : UInt32
  offset : Point
  deriving DecidableEq

def MatchClick.plain : MatchClick := ⟨.left, 1, ⟨0, 0⟩⟩

/-- These are the settings that both kinds of sensing steps have. -/
structure Sensing where
  region : Option Rect
  threshold : Float
  timeout : UInt64
  output : Option String
  click : Option MatchClick
  deriving DecidableEq

/-- An action is what a step without other steps in it does. Times are in milliseconds. -/
inductive Action where
  | click (x y : Coordinate) (button : MouseButton) (count : UInt32)
  | move (x y : Coordinate) (duration : UInt64)
  | type (text : String) (interval : UInt64)
  | hotkey (keys : List String)
  | wait (duration : UInt64)
  | waitImage (template : String) (sensing : Sensing)
  | searchText (query : String) (exact : Bool) (sensing : Sensing)
  deriving DecidableEq

def Action.stepType : Action → StepType
  | .click .. => .mouseClick
  | .move .. => .mouseMove
  | .type .. => .keyboardType
  | .hotkey _ => .keyboardHotkey
  | .wait _ => .waitTime
  | .waitImage .. => .waitImage
  | .searchText .. => .textSearch

/-- A loop runs a number of times, or as long as a condition holds. -/
inductive LoopMode where
  | count (times : UInt32)
  | while_ (condition : Condition)
  deriving DecidableEq

/-- The index variable of a loop holds the number of the iteration, from one on. -/
structure LoopRule where
  mode : LoopMode
  limit : UInt32
  indexVariable : Option String
  deriving DecidableEq

/-- Every step has an identity and says how failures of it are dealt with. -/
structure StepHeader where
  id : String
  label : Option String
  enabled : Bool
  onError : Option ErrorHandling
  retryCount : UInt32
  deriving DecidableEq

/-! ### Steps -/

/-- A step is an action, a branch with two lists of steps, or a loop around a list of steps. -/
inductive Step where
  | leaf (header : StepHeader) (action : Action)
  | branch (header : StepHeader) (condition : Condition) (whenTrue whenFalse : List Step)
  | loop (header : StepHeader) (rule : LoopRule) (body : List Step)

namespace Step

instance : Inhabited Step := ⟨.leaf ⟨"", none, true, none, 0⟩ (.wait 0)⟩

def header : Step → StepHeader
  | .leaf header _ => header
  | .branch header .. => header
  | .loop header .. => header

def withHeader (step : Step) (header : StepHeader) : Step :=
  match step with
  | .leaf _ action => .leaf header action
  | .branch _ condition whenTrue whenFalse => .branch header condition whenTrue whenFalse
  | .loop _ rule body => .loop header rule body

def id (step : Step) : String := step.header.id

def stepType : Step → StepType
  | .leaf _ action => action.stepType
  | .branch .. => .ifCondition
  | .loop .. => .loop

/-- This is the label of a step, or its type and the start of its identity. -/
def displayName (step : Step) : String :=
  match step.header.label.filter fun label => !label.isEmpty with
  | some label => label
  | none =>
      step.stepType.tag ++ " (" ++ String.ofList (step.id.toList.take 8) ++ ")"

mutual

/-- These are a step and all steps in it with their depth, every step before the ones in it. -/
def visit (depth : Nat) : Step → List (Nat × Step)
  | .leaf header action => [(depth, .leaf header action)]
  | .branch header condition whenTrue whenFalse =>
      (depth, .branch header condition whenTrue whenFalse) ::
        (visitAll (depth + 1) whenTrue ++ visitAll (depth + 1) whenFalse)
  | .loop header rule body => (depth, .loop header rule body) :: visitAll (depth + 1) body

def visitAll (depth : Nat) : List Step → List (Nat × Step)
  | [] => []
  | step :: rest => step.visit depth ++ visitAll depth rest

end

def conditionTemplates (condition : Condition) : List String :=
  [condition.left, condition.right]

/-- Placeholders are replaced in these texts when a step runs. -/
def templates : Step → List String
  | .leaf _ (.click x y _ _) => [x.text, y.text]
  | .leaf _ (.move x y _) => [x.text, y.text]
  | .leaf _ (.type text _) => [text]
  | .leaf _ (.hotkey keys) => keys
  | .leaf _ (.wait _) => []
  | .leaf _ (.waitImage template _) => [template]
  | .leaf _ (.searchText query _ _) => [query]
  | .branch _ condition _ _ => conditionTemplates condition
  | .loop _ rule _ =>
      match rule.mode with
      | .count _ => []
      | .while_ condition => conditionTemplates condition

/-! ### New steps -/

/-- A new step is enabled and leaves failures to the run. -/
def newHeader (id : String) : StepHeader := ⟨id, none, true, none, 0⟩

/-- A new sensing step looks everywhere on the screen. -/
def newSensing (threshold : Float) (timeout : UInt64) : Sensing :=
  ⟨none, threshold, timeout, none, none⟩

/-- Images have to be found with this confidence unless a step says otherwise. -/
def imageThreshold : Float := 0.9

/-- Texts have to be found with this confidence unless a step says otherwise. -/
def textThreshold : Float := 0.7

/-- A sensing step looks for ten seconds unless it says otherwise. -/
def sensingTimeout : UInt64 := 10000

/-- A loop runs at most this many times unless it says otherwise. -/
def loopLimit : UInt32 := 1000

def newClick (id : String) (x y : Coordinate) : Step :=
  .leaf (newHeader id) (.click x y .left 1)

def newMove (id : String) (x y : Coordinate) (duration : UInt64) : Step :=
  .leaf (newHeader id) (.move x y duration)

def newType (id text : String) : Step :=
  .leaf (newHeader id) (.type text 0)

def newHotkey (id : String) (keys : List String) : Step :=
  .leaf (newHeader id) (.hotkey keys)

def newWait (id : String) (duration : UInt64) : Step :=
  .leaf (newHeader id) (.wait duration)

def newWaitImage (id template : String) (timeout : UInt64) : Step :=
  .leaf (newHeader id) (.waitImage template (newSensing imageThreshold timeout))

def newTextSearch (id query : String) (timeout : UInt64) : Step :=
  .leaf (newHeader id) (.searchText query false (newSensing textThreshold timeout))

def newBranch (id : String) (condition : Condition) (whenTrue whenFalse : List Step) : Step :=
  .branch (newHeader id) condition whenTrue whenFalse

/-- The limit of a loop that counts is raised to its count. -/
def newRepeat (id : String) (times : UInt32) (body : List Step) : Step :=
  .loop (newHeader id) ⟨.count times, max loopLimit times, none⟩ body

def newWhile (id : String) (condition : Condition) (limit : UInt32) (body : List Step) : Step :=
  .loop (newHeader id) ⟨.while_ condition, limit, none⟩ body

end Step

end DeskScript
