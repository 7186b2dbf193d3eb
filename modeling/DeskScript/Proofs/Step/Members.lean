/-
This file shows that the parts of a step are read back as they were written, and that the members of
written steps have different keys.
-/

import DeskScript.Proofs.Shape.Slots
import DeskScript.Step.Codec

namespace DeskScript

open Shape

/-! ### Records within steps -/

theorem Rect.ofToJson (origin : Origin) (rect : Rect) :
    Rect.ofJson origin rect.toJson.canonical = .ok rect := by
  obtain ⟨fields, isRecord, shows⟩ := Fields.ofCanonical "struct Rect"
    ["x", "y", "width", "height"] ["x", "y", "width", "height"] origin
    [("x", .whole rect.x.toInt), ("y", .whole rect.y.toInt),
      ("width", .nat rect.width.toNat), ("height", .nat rect.height.toNat)] (by simp)
  have x := shows.required "x" int32 _ rect.x (by simp) rfl (int32OfWhole rect.x)
  have y := shows.required "y" int32 _ rect.y (by simp) rfl (int32OfWhole rect.y)
  have width := shows.required "width" uint32 _ rect.width (by simp) rfl (uint32OfNat rect.width)
  have height :=
    shows.required "height" uint32 _ rect.height (by simp) rfl (uint32OfNat rect.height)
  have settled := shows.settled [_, _, _, _] ⟨x.settled, y.settled, width.settled, height.settled⟩
  rw [Rect.ofJson, Rect.toJson, isRecord]
  simp only [bind, Except.bind, settled, x.read, y.read, width.read, height.read]
  rfl

theorem MatchClick.offsetOfToJson (origin : Origin) (offset : Point) :
    MatchClick.offsetOfJson origin offset.toJson.canonical = .ok offset := by
  obtain ⟨fields, isRecord, shows⟩ := Fields.ofCanonical "struct Offset" ["x", "y"] ["x", "y"]
    origin [("x", .whole offset.x.toInt), ("y", .whole offset.y.toInt)] (by simp)
  have x := shows.optional "x" int32 0 _ offset.x (by simp) rfl (int32OfWhole offset.x)
  have y := shows.optional "y" int32 0 _ offset.y (by simp) rfl (int32OfWhole offset.y)
  have settled := shows.settled [_, _] ⟨x.settled, y.settled⟩
  rw [MatchClick.offsetOfJson, Point.toJson, isRecord]
  simp only [bind, Except.bind, settled, x.read, y.read]
  rfl

theorem MouseButton.ofTag (origin : Origin) (button : MouseButton) :
    MouseButton.ofJson origin (Json.string button.tag).canonical = .ok button :=
  variantOfName origin _ _ _ (by cases button <;> rfl)

theorem ErrorHandling.ofTag (origin : Origin) (handling : ErrorHandling) :
    ErrorHandling.ofJson origin (Json.string handling.tag).canonical = .ok handling :=
  variantOfName origin _ _ _ (by cases handling <;> rfl)

theorem MatchClick.ofToJson (origin : Origin) (click : MatchClick) :
    MatchClick.ofJson origin click.toJson.canonical = .ok click := by
  obtain ⟨fields, isRecord, shows⟩ := Fields.ofCanonical "struct MatchClick"
    ["button", "click_count", "offset"] ["button", "click_count", "offset"] origin
    [("button", .string click.button.tag), ("click_count", .nat click.clickCount.toNat),
      ("offset", click.offset.toJson)] (by simp)
  have button := shows.optional "button" (MouseButton.ofJson origin) plain.button _ click.button
    (by simp) rfl (MouseButton.ofTag origin click.button)
  have count := shows.optional "click_count" uint32 plain.clickCount _ click.clickCount (by simp)
    rfl (uint32OfNat click.clickCount)
  have offset := shows.optional "offset" (offsetOfJson origin) plain.offset _ click.offset
    (by simp) rfl (offsetOfToJson origin click.offset)
  have settled := shows.settled [_, _, _] ⟨button.settled, count.settled, offset.settled⟩
  rw [MatchClick.ofJson, MatchClick.toJson, isRecord]
  simp only [bind, Except.bind, settled, button.read, count.read, offset.read]
  rfl

theorem Operator.ofTag (origin : Origin) (operator : Operator) :
    Operator.ofJson origin (Json.string operator.tag).canonical = .ok operator :=
  variantOfName origin _ _ _ (namedTag operator)

/-- A right operand that was left out is empty. -/
theorem Condition.ofToJson (origin : Origin) (condition : Condition) :
    Condition.ofJson origin condition.toJson.canonical = .ok condition := by
  have keys : (([("left", Json.string condition.left),
      ("operator", Json.string condition.operator.tag)] ++
      if condition.right.isEmpty then [] else [("right", Json.string condition.right)]).map
        Prod.fst).Nodup := by
    rw [List.map_append]
    exact List.Nodup.sublist ((keysOfUnless "right" _ _).append_left _) (by simp)
  obtain ⟨fields, isRecord, shows⟩ := Fields.ofCanonical "struct Condition"
    ["left", "operator", "right"] ["left", "operator", "right"] origin _ keys
  have left := shows.required "left" Shape.text _ condition.left (by simp) rfl
    (textOfString condition.left)
  have operator := shows.required "operator" (Operator.ofJson origin) _ condition.operator
    (by simp) rfl (Operator.ofTag origin condition.operator)
  have right := shows.unlessUsual "right" Shape.text "" _ condition.right condition.right.isEmpty
    (by simp) (by cases empty : condition.right.isEmpty <;> simp [Json.member?, lookUp?])
    String.isEmpty_iff.mp fun _ => textOfString condition.right
  have settled := shows.settled [_, _, _] ⟨left.settled, operator.settled, right.settled⟩
  rw [Condition.ofJson, Condition.toJson, isRecord]
  simp only [bind, Except.bind, settled, left.read, operator.read, right.read]
  rfl

theorem Coordinate.ofToJson (coordinate : Coordinate) :
    Coordinate.ofJson coordinate.toJson.canonical = .ok coordinate := by
  cases coordinate with
  | fixed value =>
      have reads := int32OfWhole value
      rw [canonicalWhole] at reads
      rw [toJson, canonicalWhole, ofJson]
      · rw [reads]
      · intro text equal
        cases equal
  | template text => rfl

/-! ### Looking members up -/

theorem memberOptional (key other : String) (value : Option Json) :
    Json.member? (optionalMember other value) key = if key = other then value else none := by
  cases value <;> simp [optionalMember, Json.member?, lookUp?]

theorem memberAppend (key : String) (first second : List (String × Json)) :
    Json.member? (first ++ second) key =
      (Json.member? first key).or (Json.member? second key) :=
  lookUpAppend key first second

theorem memberCons (key other : String) (item : Json) (rest : List (String × Json)) :
    Json.member? ((other, item) :: rest) key =
      if key = other then some item else Json.member? rest key := rfl

theorem memberNil (key : String) : Json.member? [] key = none := rfl

theorem memberUnless (key other : String) (usual : Prop) [Decidable usual] (item : Json) :
    Json.member? (if usual then [] else [(other, item)]) key =
      if usual then none else if key = other then some item else none := by
  split <;> rfl

theorem memberOfLeft (key : String) (first second : List (String × Json))
    (absent : key ∉ second.map Prod.fst) :
    Json.member? (first ++ second) key = Json.member? first key := by
  rw [memberAppend, show Json.member? second key = none from lookUpNone key second absent,
    Option.or_none]

theorem memberOfRight (key : String) (first second : List (String × Json))
    (absent : key ∉ first.map Prod.fst) :
    Json.member? (first ++ second) key = Json.member? second key := by
  rw [memberAppend, show Json.member? first key = none from lookUpNone key first absent,
    Option.none_or]

theorem keysOfOptional (key : String) (value : Option Json) :
    ((optionalMember key value).map Prod.fst).Sublist [key] :=
  keysOfOption key id value

/-! ### Names of fields -/

namespace StepHeader

/-- These are the names of the fields of a header. -/
def names : List String := ["id", "label", "enabled", "on_error", "retry_count"]

theorem keysOfMembers (header : StepHeader) :
    (header.members.map Prod.fst).Sublist names := by
  simp only [members, List.map_append, List.map_cons, List.cons_append]
  exact (((((keysOfOptional "label" _).append (keysOfUnless "enabled" _ _)).append
    (keysOfOptional "on_error" _)).append (keysOfUnless "retry_count" _ _)).cons_cons "id")

end StepHeader

namespace StepType

/-- These are the names of the fields that only steps of a type have. -/
def ownNames : StepType → List String
  | .mouseClick => ["x", "y", "button", "click_count"]
  | .mouseMove => ["x", "y", "duration_ms"]
  | .keyboardType => ["text", "interval_ms"]
  | .keyboardHotkey => ["keys"]
  | .waitTime => ["duration_ms"]
  | .waitImage =>
      ["template_ref", "region", "confidence_threshold", "timeout_ms", "output_variable",
        "click_on_match"]
  | .textSearch =>
      ["query_text", "region", "confidence_threshold", "timeout_ms", "exact_match",
        "output_variable", "click_on_match"]
  | .ifCondition => ["condition", "true_branch", "false_branch"]
  | .loop => ["iterations", "condition", "max_iterations", "index_variable", "body"]

/-- The fields of a step have different names. -/
theorem namesNodup (type : StepType) :
    (StepHeader.names ++ ["type"] ++ type.ownNames).Nodup := by
  cases type <;> simp [StepHeader.names, ownNames]

theorem headerNotOwn (type : StepType) (name : String) (inside : name ∈ StepHeader.names) :
    name ∉ type.ownNames := fun own =>
  (List.nodup_append.mp type.namesNodup).2.2 name (List.mem_append_left _ inside) name own rfl

theorem typeNotOwn (type : StepType) : "type" ∉ type.ownNames := fun own =>
  (List.nodup_append.mp type.namesNodup).2.2 "type" (by simp) "type" own rfl

end StepType

/-! ### Members of steps -/

theorem Sensing.keysOfMembers (sensing : Sensing) (own : List (String × Json)) :
    ((sensing.members own).map Prod.fst).Sublist
      (["region", "confidence_threshold", "timeout_ms"] ++ own.map Prod.fst ++
        ["output_variable", "click_on_match"]) := by
  simp only [members, List.map_append, List.append_assoc]
  exact (keysOfOptional "region" _).append ((List.Sublist.refl _).append
    ((List.Sublist.refl _).append
      ((keysOfOptional "output_variable" _).append (keysOfOptional "click_on_match" _))))

theorem Action.keysOfMembers (action : Action) :
    (action.members.map Prod.fst).Sublist action.stepType.ownNames := by
  cases action with
  | click x y button count => exact List.Sublist.refl _
  | move x y duration => exact List.Sublist.refl _
  | type text interval => exact List.Sublist.refl _
  | hotkey keys => exact List.Sublist.refl _
  | wait duration => exact List.Sublist.refl _
  | waitImage template sensing => exact (sensing.keysOfMembers []).cons_cons "template_ref"
  | searchText query exact_ sensing =>
      exact (sensing.keysOfMembers [("exact_match", .bool exact_)]).cons_cons "query_text"

theorem LoopRule.keysOfMembers (rule : LoopRule) :
    (rule.members.map Prod.fst).Sublist
      ["iterations", "condition", "max_iterations", "index_variable"] := by
  obtain ⟨mode, limit, indexVariable⟩ := rule
  have others := (keysOfOptional "index_variable" (indexVariable.map .string)).cons_cons
    "max_iterations"
  cases mode with
  | count times => exact (others.cons "condition").cons_cons "iterations"
  | while_ condition => exact (others.cons_cons "condition").cons "iterations"

namespace Step

/-- These are the members of a step that only steps of its type have. -/
def ownMembers : Step → List (String × Json)
  | .leaf _ action => action.members
  | .branch _ condition whenTrue whenFalse =>
      [("condition", condition.toJson), ("true_branch", .array (toJsonAll whenTrue)),
        ("false_branch", .array (toJsonAll whenFalse))]
  | .loop _ rule body => rule.members ++ [("body", .array (toJsonAll body))]

def members (step : Step) : List (String × Json) := step.headMembers ++ step.ownMembers

theorem toJsonMembers (step : Step) : step.toJson = .object step.members := by
  cases step with
  | leaf header action => rw [toJson, members, ownMembers]
  | branch header condition whenTrue whenFalse => rw [toJson, members, ownMembers]
  | loop header rule body => rw [toJson, members, ownMembers, List.append_assoc]

theorem keysOfHead (step : Step) :
    (step.headMembers.map Prod.fst).Sublist (StepHeader.names ++ ["type"]) := by
  rw [headMembers, List.map_append]
  exact step.header.keysOfMembers.append (List.Sublist.refl _)

theorem keysOfOwn (step : Step) :
    (step.ownMembers.map Prod.fst).Sublist step.stepType.ownNames := by
  cases step with
  | leaf header action => exact action.keysOfMembers
  | branch header condition whenTrue whenFalse => exact List.Sublist.refl _
  | loop header rule body =>
      rw [ownMembers, List.map_append]
      exact rule.keysOfMembers.append (List.Sublist.refl ["body"])

/-- No key comes twice in a written step. -/
theorem keysNodup (step : Step) : (step.members.map Prod.fst).Nodup := by
  rw [members, List.map_append]
  exact List.Nodup.sublist (step.keysOfHead.append step.keysOfOwn) step.stepType.namesNodup

/-- A field of the header is found among the members of the header. -/
theorem headerMember (step : Step) (name : String) (inside : name ∈ StepHeader.names) :
    Json.member? step.members name = Json.member? step.header.members name := by
  have notType : name ∉ [("type", Json.string step.stepType.tag)].map Prod.fst := by
    simp only [List.map_cons, List.map_nil, List.mem_singleton]
    intro same
    subst same
    simp [StepHeader.names] at inside
  rw [members, memberOfLeft, headMembers, memberOfLeft _ _ _ notType]
  exact fun own => step.stepType.headerNotOwn name inside (step.keysOfOwn.subset own)

theorem typeMember (step : Step) :
    Json.member? step.members "type" = some (.string step.stepType.tag) := by
  have notHeader : "type" ∉ step.header.members.map Prod.fst := fun inside => by
    have named := step.header.keysOfMembers.subset inside
    simp [StepHeader.names] at named
  rw [members, memberOfLeft, headMembers, memberOfRight _ _ _ notHeader]
  · rfl
  · exact fun own => step.stepType.typeNotOwn (step.keysOfOwn.subset own)

/-- A field of the type is found among the members of the type. -/
theorem ownMember (step : Step) (name : String) (inside : name ∈ step.stepType.ownNames) :
    Json.member? step.members name = Json.member? step.ownMembers name := by
  have notHead : name ∉ step.headMembers.map Prod.fst := fun head =>
    (List.nodup_append.mp step.stepType.namesNodup).2.2 name (step.keysOfHead.subset head) name
      inside rfl
  rw [members, memberOfRight _ _ _ notHead]

end Step

end DeskScript
