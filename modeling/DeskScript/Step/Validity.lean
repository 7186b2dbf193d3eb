/-
This file says which steps can be run, and why others cannot.
-/

import DeskScript.Step.Basic

namespace DeskScript

/-- A field problem tells what is wrong with one field of a step. -/
inductive FieldProblem where
  | coordinate (field text : String)
  | zeroClicks
  | emptyText
  | noKeys
  | blankKey
  | zeroDuration
  | emptyTemplate
  | emptyQuery
  | threshold
  | zeroTimeout
  | emptyRegion
  | blankOutput
  | zeroMatchClicks
  | emptyLeftOperand
  | zeroLimit
  | zeroCount
  | countAboveLimit (count limit : UInt32)
  | emptyBody
  | blankIndex
  deriving DecidableEq

namespace FieldProblem

def field : FieldProblem → String
  | .coordinate field _ => field
  | .zeroClicks => "click_count"
  | .emptyText => "text"
  | .noKeys | .blankKey => "keys"
  | .zeroDuration => "duration_ms"
  | .emptyTemplate => "template_ref"
  | .emptyQuery => "query_text"
  | .threshold => "confidence_threshold"
  | .zeroTimeout => "timeout_ms"
  | .emptyRegion => "region"
  | .blankOutput => "output_variable"
  | .zeroMatchClicks => "click_on_match"
  | .emptyLeftOperand => "condition"
  | .zeroLimit => "max_iterations"
  | .zeroCount | .countAboveLimit .. => "iterations"
  | .emptyBody => "body"
  | .blankIndex => "index_variable"

def reason : FieldProblem → String
  | .coordinate _ text =>
      "\x60" ++ text ++ "\x60 is neither an integer nor a $\x7bvariable\x7d template"
  | .zeroClicks => "must be at least 1"
  | .emptyText | .emptyTemplate | .emptyQuery => "must not be empty"
  | .noKeys => "at least one key is required"
  | .blankKey => "key names must not be blank"
  | .zeroDuration | .zeroTimeout | .zeroCount => "must be positive"
  | .threshold => "must be within [0, 1]"
  | .emptyRegion => "width and height must be positive"
  | .blankOutput | .blankIndex => "must not be blank"
  | .zeroMatchClicks => "click_count must be at least 1"
  | .emptyLeftOperand => "left operand must not be empty"
  | .zeroLimit => "must be at least 1"
  | .countAboveLimit count limit =>
      toString count.toNat ++ " exceeds max_iterations " ++ toString limit.toNat
  | .emptyBody => "loop body must contain at least one step"

end FieldProblem

/-- A malformed step cannot even be read as a step of its type. -/
inductive MalformedReason where
  | emptyId
  | parameters (found : Json)
  | shape (fault : ShapeFault)

def MalformedReason.text : MalformedReason → String
  | .emptyId => "step id is empty"
  | .parameters found => "parameters must be an object, got " ++ found.compact
  | .shape fault => fault.message

/-- A step or a script is refused before it is run. -/
inductive StepFault where
  | unknownType (tag : String)
  | malformed (type : StepType) (reason : MalformedReason)
  | invalidField (id : String) (problem : FieldProblem)
  | duplicateId (id : String)
  | emptyName
  | variableName (name : String)

def StepFault.message : StepFault → String
  | .unknownType tag => "Unknown step type: " ++ tag
  | .malformed type reason => "Malformed " ++ type.tag ++ " step: " ++ reason.text
  | .invalidField id problem =>
      "Step " ++ id ++ " field \x60" ++ problem.field ++ "\x60 is invalid: " ++ problem.reason
  | .duplicateId id => "Duplicate step id: " ++ id
  | .emptyName => "Invalid macro: macro name is empty"
  | .variableName name => "Invalid macro: invalid variable name \x60" ++ name ++ "\x60"

/-- A check passes or reports a problem. -/
abbrev FieldCheck := Except FieldProblem Unit

namespace FieldCheck

/-- This check fails with a problem where a condition holds. -/
def refuse (condition : Bool) (problem : FieldProblem) : FieldCheck :=
  if condition then .error problem else .ok ()

end FieldCheck

/-- This is the number that a text stands for, if it is a coordinate. -/
def coordinateOfText? (text : String) : Option Int32 :=
  (Decimal.intWithin? 10 (2 ^ 31) (Text.trimChars text.toList)).map Int32.ofInt

def Coordinate.check (field : String) : Coordinate → FieldCheck
  | .fixed _ => .ok ()
  | .template text =>
      FieldCheck.refuse (!Template.hasPlaceholder text && (coordinateOfText? text).isNone)
        (.coordinate field text)

def Condition.check (condition : Condition) : FieldCheck :=
  FieldCheck.refuse (Text.isBlankText condition.left) .emptyLeftOperand

/-- This test asks whether a name was given but is blank. -/
def isBlankName (name : Option String) : Bool :=
  name.any Text.isBlankText

def Sensing.check (sensing : Sensing) : FieldCheck := do
  FieldCheck.refuse (!(0 ≤ sensing.threshold && sensing.threshold ≤ 1)) .threshold
  FieldCheck.refuse (sensing.timeout = 0) .zeroTimeout
  FieldCheck.refuse (sensing.region.any fun region => region.width = 0 || region.height = 0)
    .emptyRegion
  FieldCheck.refuse (isBlankName sensing.output) .blankOutput
  FieldCheck.refuse (sensing.click.any fun click => click.clickCount = 0) .zeroMatchClicks

def Action.check : Action → FieldCheck
  | .click x y _ count => do
      x.check "x"
      y.check "y"
      FieldCheck.refuse (count = 0) .zeroClicks
  | .move x y _ => do
      x.check "x"
      y.check "y"
  | .type text _ => FieldCheck.refuse text.isEmpty .emptyText
  | .hotkey keys => do
      FieldCheck.refuse keys.isEmpty .noKeys
      FieldCheck.refuse (keys.any Text.isBlankText) .blankKey
  | .wait duration => FieldCheck.refuse (duration = 0) .zeroDuration
  | .waitImage template sensing => do
      FieldCheck.refuse (Text.isBlankText template) .emptyTemplate
      sensing.check
  | .searchText query _ sensing => do
      FieldCheck.refuse (Text.isBlankText query) .emptyQuery
      sensing.check

def LoopMode.check (limit : UInt32) : LoopMode → FieldCheck
  | .count times => do
      FieldCheck.refuse (times = 0) .zeroCount
      FieldCheck.refuse (limit < times) (.countAboveLimit times limit)
  | .while_ condition => condition.check

def LoopRule.check (rule : LoopRule) (bodyIsEmpty : Bool) : FieldCheck := do
  FieldCheck.refuse (rule.limit = 0) .zeroLimit
  rule.mode.check rule.limit
  FieldCheck.refuse bodyIsEmpty .emptyBody
  FieldCheck.refuse (isBlankName rule.indexVariable) .blankIndex

namespace Step

/-- This check looks at the fields of a step but not at the steps in it. -/
def checkFields : Step → FieldCheck
  | .leaf _ action => action.check
  | .branch _ condition _ _ => condition.check
  | .loop _ rule body => rule.check body.isEmpty

/-- A step needs an identity, and its fields have to make sense. -/
def checkOwn (step : Step) : Except StepFault Unit :=
  if Text.isBlankText step.id then .error (.malformed step.stepType .emptyId)
  else
    match step.checkFields with
    | .ok () => .ok ()
    | .error problem => .error (.invalidField step.id problem)

/-- This check reports the first fault of the given steps. -/
def checkEach : List (Nat × Step) → Except StepFault Unit
  | [] => .ok ()
  | (_, step) :: rest =>
      match step.checkOwn with
      | .ok () => checkEach rest
      | .error fault => .error fault

/-- A step is valid when it and all steps in it pass the check of their own fields. -/
def validate (step : Step) : Except StepFault Unit :=
  checkEach (step.visit 0)

end Step

end DeskScript
