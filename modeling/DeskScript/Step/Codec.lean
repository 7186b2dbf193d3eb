/-
This file writes steps as JSON values and reads them.
-/

import DeskScript.Step.Validity

namespace DeskScript

/-! ### Writing -/

/-- A value that is absent is left out. -/
def optionalMember (key : String) (value : Option Json) : List (String × Json) :=
  (value.map fun value => (key, value)).toList

def Coordinate.toJson : Coordinate → Json
  | .fixed value => .whole value.toInt
  | .template text => .string text

def MatchClick.toJson (click : MatchClick) : Json :=
  .object [("button", .string click.button.tag), ("click_count", .nat click.clickCount.toNat),
    ("offset", click.offset.toJson)]

/-- A field of one kind of sensing step comes before the output variable. -/
def Sensing.members (sensing : Sensing) (own : List (String × Json)) : List (String × Json) :=
  optionalMember "region" (sensing.region.map Rect.toJson) ++
    [("confidence_threshold", .decimal sensing.threshold),
      ("timeout_ms", .nat sensing.timeout.toNat)] ++
    own ++ optionalMember "output_variable" (sensing.output.map .string) ++
    optionalMember "click_on_match" (sensing.click.map MatchClick.toJson)

def Action.members : Action → List (String × Json)
  | .click x y button count =>
      [("x", x.toJson), ("y", y.toJson), ("button", .string button.tag),
        ("click_count", .nat count.toNat)]
  | .move x y duration =>
      [("x", x.toJson), ("y", y.toJson), ("duration_ms", .nat duration.toNat)]
  | .type text interval => [("text", .string text), ("interval_ms", .nat interval.toNat)]
  | .hotkey keys => [("keys", .texts keys)]
  | .wait duration => [("duration_ms", .nat duration.toNat)]
  | .waitImage template sensing => ("template_ref", .string template) :: sensing.members []
  | .searchText query exact sensing =>
      ("query_text", .string query) :: sensing.members [("exact_match", .bool exact)]

/-- A loop has either a number of iterations or a condition. -/
def LoopRule.members (rule : LoopRule) : List (String × Json) :=
  (match rule.mode with
    | .count times => [("iterations", .nat times.toNat)]
    | .while_ condition => [("condition", condition.toJson)]) ++
    ("max_iterations", .nat rule.limit.toNat) ::
      optionalMember "index_variable" (rule.indexVariable.map .string)

/-- Parts of the header that say nothing unusual are left out. -/
def StepHeader.members (header : StepHeader) : List (String × Json) :=
  ("id", .string header.id) :: optionalMember "label" (header.label.map .string) ++
    (if header.enabled then [] else [("enabled", .bool false)]) ++
    optionalMember "on_error" (header.onError.map fun handling => .string handling.tag) ++
    if header.retryCount = 0 then [] else [("retry_count", .nat header.retryCount.toNat)]

namespace Step

def headMembers (step : Step) : List (String × Json) :=
  step.header.members ++ [("type", .string step.stepType.tag)]

mutual

def toJson : Step → Json
  | .leaf header action => .object (headMembers (.leaf header action) ++ action.members)
  | .branch header condition whenTrue whenFalse =>
      .object (headMembers (.branch header condition whenTrue whenFalse) ++
        [("condition", condition.toJson), ("true_branch", .array (toJsonAll whenTrue)),
          ("false_branch", .array (toJsonAll whenFalse))])
  | .loop header rule body =>
      .object (headMembers (.loop header rule body) ++ rule.members ++
        [("body", .array (toJsonAll body))])

def toJsonAll : List Step → List Json
  | [] => []
  | step :: rest => step.toJson :: toJsonAll rest

end

end Step

/-! ### Reading -/

def StepType.ofJson : Json → Shape.Result StepType
  | .string tag =>
      match StepType.ofTag? tag with
      | some type => .ok type
      | none => .error (.unknownVariant tag (StepType.all.map StepType.tag))
  | .number (.whole value) =>
      if value < 0 then .error (.wrongType (.whole value) "variant identifier")
      else
        match StepType.all[value.toNat]? with
        | some type => .ok type
        | none => .error (.wrongValue (.whole value) "variant index 0 <= i < 9")
  | found => .error (.wrongType found "variant identifier")

def MouseButton.named : List (String × MouseButton) :=
  [("left", .left), ("right", .right), ("middle", .middle)]

def MouseButton.ofJson (origin : Shape.Origin) : Json → Shape.Result MouseButton :=
  Shape.variant origin MouseButton.named

def ErrorHandling.named : List (String × ErrorHandling) :=
  [("stop", .stop), ("continue", .continue_)]

def ErrorHandling.ofJson (origin : Shape.Origin) : Json → Shape.Result ErrorHandling :=
  Shape.variant origin ErrorHandling.named

/-- A coordinate is a number in range or a text. -/
def Coordinate.ofJson : Json → Shape.Result Coordinate
  | .string text => .ok (.template text)
  | found =>
      match Shape.int32 found with
      | .ok value => .ok (.fixed value)
      | .error _ => .error (.noAlternative "Coordinate")

/-- Either part of an offset may be left out. -/
def MatchClick.offsetOfJson (origin : Shape.Origin) (found : Json) : Shape.Result Point := do
  let fields ← Shape.Fields.of "struct Offset" ["x", "y"] origin found
  let x := fields.optional "x" Shape.int32 0
  let y := fields.optional "y" Shape.int32 0
  fields.settle [x.state, y.state]
  return ⟨← x.value, ← y.value⟩

def MatchClick.ofJson (origin : Shape.Origin) (found : Json) : Shape.Result MatchClick := do
  let fields ← Shape.Fields.of "struct MatchClick" ["button", "click_count", "offset"] origin found
  let button := fields.optional "button" (MouseButton.ofJson origin) MatchClick.plain.button
  let count := fields.optional "click_count" Shape.uint32 MatchClick.plain.clickCount
  let offset := fields.optional "offset" (MatchClick.offsetOfJson origin) MatchClick.plain.offset
  fields.settle [button.state, count.state, offset.state]
  return ⟨← button.value, ← count.value, ← offset.value⟩

/-- This function reads the part of a step that all steps have. -/
def StepHeader.ofFields (fields : Shape.Fields) : Shape.Result StepHeader := do
  let id := fields.required "id" Shape.text
  let label := fields.optional "label" (Shape.optional Shape.text) none
  let enabled := fields.optional "enabled" Shape.flag true
  let onError :=
    fields.optional "on_error" (Shape.optional (ErrorHandling.ofJson fields.origin)) none
  let retryCount := fields.optional "retry_count" Shape.uint32 0
  fields.settle [id.state, label.state, enabled.state, onError.state, retryCount.state]
  return ⟨← id.value, ← label.value, ← enabled.value, ← onError.value, ← retryCount.value⟩

/-- These are the fields that both kinds of sensing steps have. -/
structure SensingSlots where
  region : Shape.Slot (Option Rect)
  threshold : Shape.Slot Float
  timeout : Shape.Slot UInt64
  output : Shape.Slot (Option String)
  click : Shape.Slot (Option MatchClick)

def SensingSlots.of (fields : Shape.Fields) (threshold : Float) : SensingSlots :=
  ⟨fields.optional "region" (Shape.optional (Rect.ofJson .setAside)) none,
    fields.optional "confidence_threshold" Shape.float threshold,
    fields.optional "timeout_ms" Shape.uint64 Step.sensingTimeout,
    fields.optional "output_variable" (Shape.optional Shape.text) none,
    fields.optional "click_on_match" (Shape.optional (MatchClick.ofJson .setAside)) none⟩

def SensingSlots.states (slots : SensingSlots) : List Shape.SlotState :=
  [slots.region.state, slots.threshold.state, slots.timeout.state, slots.output.state,
    slots.click.state]

def SensingSlots.value (slots : SensingSlots) : Shape.Result Sensing := do
  return ⟨← slots.region.value, ← slots.threshold.value, ← slots.timeout.value,
    ← slots.output.value, ← slots.click.value⟩

namespace Action

def clickOfFields (fields : Shape.Fields) : Shape.Result Action := do
  let x := fields.required "x" Coordinate.ofJson
  let y := fields.required "y" Coordinate.ofJson
  let button := fields.optional "button" (MouseButton.ofJson .setAside) default
  let count := fields.optional "click_count" Shape.uint32 1
  fields.settle [x.state, y.state, button.state, count.state]
  return .click (← x.value) (← y.value) (← button.value) (← count.value)

def moveOfFields (fields : Shape.Fields) : Shape.Result Action := do
  let x := fields.required "x" Coordinate.ofJson
  let y := fields.required "y" Coordinate.ofJson
  let duration := fields.optional "duration_ms" Shape.uint64 0
  fields.settle [x.state, y.state, duration.state]
  return .move (← x.value) (← y.value) (← duration.value)

def typeOfFields (fields : Shape.Fields) : Shape.Result Action := do
  let text := fields.required "text" Shape.text
  let interval := fields.optional "interval_ms" Shape.uint64 0
  fields.settle [text.state, interval.state]
  return .type (← text.value) (← interval.value)

def hotkeyOfFields (fields : Shape.Fields) : Shape.Result Action := do
  let keys := fields.required "keys" (Shape.list Shape.text)
  fields.settle [keys.state]
  return .hotkey (← keys.value)

def waitOfFields (fields : Shape.Fields) : Shape.Result Action := do
  let duration := fields.required "duration_ms" Shape.uint64
  fields.settle [duration.state]
  return .wait (← duration.value)

def waitImageOfFields (fields : Shape.Fields) : Shape.Result Action := do
  let template := fields.required "template_ref" Shape.text
  let sensing := SensingSlots.of fields Step.imageThreshold
  fields.settle (template.state :: sensing.states)
  return .waitImage (← template.value) (← sensing.value)

def searchTextOfFields (fields : Shape.Fields) : Shape.Result Action := do
  let query := fields.required "query_text" Shape.text
  let exact := fields.optional "exact_match" Shape.flag false
  let sensing := SensingSlots.of fields Step.textThreshold
  fields.settle (query.state :: exact.state :: sensing.states)
  return .searchText (← query.value) (← exact.value) (← sensing.value)

end Action

namespace Step

/-- The steps in a step have been read for every member that might hold them. -/
abbrev Branches := List (String × Shape.Result (List Step))

/-- This is the slot of a member that holds steps. -/
def branchSlot (branches : Branches) (name : String) : Shape.Slot (List Step) :=
  ⟨name, branches.lookup name, some []⟩

def branchOfFields (header : StepHeader) (fields : Shape.Fields) (branches : Branches) :
    Shape.Result Step := do
  let condition := fields.required "condition" (Condition.ofJson .setAside)
  let whenTrue := branchSlot branches "true_branch"
  let whenFalse := branchSlot branches "false_branch"
  fields.settle [condition.state, whenTrue.state, whenFalse.state]
  return .branch header (← condition.value) (← whenTrue.value) (← whenFalse.value)

/-- A loop counts or has a condition, and not both. -/
def loopMode : Option UInt32 → Option Condition → Shape.Result LoopMode
  | some times, none => .ok (.count times)
  | none, some condition => .ok (.while_ condition)
  | some _, some _ =>
      .error (.refused "loop takes either \x60iterations\x60 or \x60condition\x60, not both")
  | none, none => .error (.refused "loop requires \x60iterations\x60 or \x60condition\x60")

def loopOfFields (header : StepHeader) (fields : Shape.Fields) (branches : Branches) :
    Shape.Result Step := do
  let times := fields.optional "iterations" (Shape.optional Shape.uint32) none
  let condition := fields.optional "condition" (Shape.optional (Condition.ofJson .setAside)) none
  let limit := fields.optional "max_iterations" Shape.uint32 loopLimit
  let index := fields.optional "index_variable" (Shape.optional Shape.text) none
  let body := branchSlot branches "body"
  fields.settle [times.state, condition.state, limit.state, index.state, body.state]
  let mode ← loopMode (← times.value) (← condition.value)
  return .loop header ⟨mode, ← limit.value, ← index.value⟩ (← body.value)

/-- The fields that a step has besides its header depend on its type. -/
def ofFields (header : StepHeader) (type : StepType) (fields : Shape.Fields)
    (branches : Branches) : Shape.Result Step :=
  match type with
  | .mouseClick => (Action.clickOfFields fields).map (.leaf header)
  | .mouseMove => (Action.moveOfFields fields).map (.leaf header)
  | .keyboardType => (Action.typeOfFields fields).map (.leaf header)
  | .keyboardHotkey => (Action.hotkeyOfFields fields).map (.leaf header)
  | .waitTime => (Action.waitOfFields fields).map (.leaf header)
  | .waitImage => (Action.waitImageOfFields fields).map (.leaf header)
  | .textSearch => (Action.searchTextOfFields fields).map (.leaf header)
  | .ifCondition => branchOfFields header fields branches
  | .loop => loopOfFields header fields branches

/--
The header is read first, then the type, and then the fields of that type. What is not in the
header is set aside until the type is known.
-/
def ofMembers (origin : Shape.Origin) (members : List (String × Json)) (branches : Branches) :
    Shape.Result Step := do
  let fields : Shape.Fields := ⟨"struct MacroStep", [], .object, members, origin⟩
  let header ← StepHeader.ofFields fields
  let type := fields.required "type" StepType.ofJson
  fields.settle [type.state]
  ofFields header (← type.value) fields branches

mutual

/-- A step has to be written as an object. -/
def ofJson (origin : Shape.Origin) : Json → Shape.Result Step
  | .object members => ofMembers origin members (branchesOf members)
  | found => .error (.wrongType found "struct MacroStep")

def branchesOf : List (String × Json) → Branches
  | [] => []
  | (key, found) :: rest => (key, listOfJson .setAside found) :: branchesOf rest

def listOfJson (origin : Shape.Origin) : Json → Shape.Result (List Step)
  | .array items => listOfItems origin items
  | found => .error (.wrongType found "a sequence")

def listOfItems (origin : Shape.Origin) : List Json → Shape.Result (List Step)
  | [] => .ok []
  | item :: rest =>
      match ofJson origin item with
      | .error fault => .error fault
      | .ok step =>
          match listOfItems origin rest with
          | .error fault => .error fault
          | .ok steps => .ok (step :: steps)

end

end Step

end DeskScript
