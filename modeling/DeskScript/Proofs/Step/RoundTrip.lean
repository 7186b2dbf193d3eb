/-
This file shows that every step is read back as it was written, with all steps in it, and says what
the parts of a step are that has been read, where its members are known.
-/

import DeskScript.Proofs.Step.Members

namespace DeskScript

open Shape

/-! ### Headers -/

theorem StepHeader.ofMembers (header : StepHeader) (fields : Fields)
    (shows : fields.Shows header.members names) :
    StepHeader.ofFields fields = .ok header := by
  have id := shows.required "id" text (.string header.id) header.id (by simp [names])
    rfl (textOfString header.id)
  have label := shows.ofOption "label" text .string header.label (by simp [names])
    (by simp [members, memberAppend, memberCons, memberOptional, memberUnless])
    (fun _ equal => by cases equal) textOfString
  have enabled := shows.unlessUsual "enabled" flag true (.bool false) header.enabled
    header.enabled (by simp [names])
    (by simp [members, memberAppend, memberCons, memberOptional, memberUnless]) (fun same => same)
    (fun same => by rw [same]; rfl)
  have onError := shows.ofOption "on_error" (ErrorHandling.ofJson fields.origin)
    (fun handling => .string handling.tag) header.onError (by simp [names])
    (by simp [members, memberAppend, memberCons, memberOptional, memberUnless])
    (fun _ equal => by cases equal) (ErrorHandling.ofTag fields.origin)
  have retryCount := shows.unlessUsual "retry_count" uint32 0 _ header.retryCount
    (header.retryCount = 0) (by simp [names])
    (by simp [members, memberAppend, memberCons, memberOptional, memberUnless])
    of_decide_eq_true fun _ => uint32OfNat header.retryCount
  have settled := shows.settled [_, _, _, _, _]
    ⟨id.settled, label.settled, enabled.settled, onError.settled, retryCount.settled⟩
  rw [StepHeader.ofFields]
  simp only [bind, Except.bind, settled, id.read, label.read, enabled.read, onError.read,
    retryCount.read]
  rfl

/-! ### Sensing -/

/-- These are the names of the fields that both kinds of sensing steps have. -/
def Sensing.names : List String :=
  ["region", "confidence_threshold", "timeout_ms", "output_variable", "click_on_match"]

/-- The slots of a sensing step hold its settings. -/
structure SensingSlots.Hold (slots : SensingSlots) (sensing : Sensing) : Prop where
  region : slots.region.Holds sensing.region
  threshold : slots.threshold.Holds sensing.threshold
  timeout : slots.timeout.Holds sensing.timeout
  output : slots.output.Holds sensing.output
  click : slots.click.Holds sensing.click

namespace SensingSlots

theorem Hold.settled {slots : SensingSlots} {sensing : Sensing} (hold : slots.Hold sensing) :
    slots.states.Forall SlotState.Settled :=
  ⟨hold.region.settled, hold.threshold.settled, hold.timeout.settled, hold.output.settled,
    hold.click.settled⟩

theorem Hold.read {slots : SensingSlots} {sensing : Sensing} (hold : slots.Hold sensing) :
    slots.value = .ok sensing := by
  simp only [value, bind, Except.bind, hold.region.read, hold.threshold.read, hold.timeout.read,
    hold.output.read, hold.click.read]
  rfl

theorem ofMembers (sensing : Sensing) (threshold : Float) (fields : Fields)
    (shows : fields.Shows (sensing.members []) Sensing.names) :
    (SensingSlots.of fields threshold).Hold sensing where
  region := shows.ofOption "region" (Rect.ofJson .setAside) Rect.toJson sensing.region
    (by simp [Sensing.names])
    (by simp [Sensing.members, memberAppend, memberCons, memberOptional])
    (fun _ equal => by cases equal) (Rect.ofToJson .setAside)
  threshold := shows.optional "confidence_threshold" Shape.float threshold
    (.decimal sensing.threshold) sensing.threshold (by simp [Sensing.names])
    (by simp [Sensing.members, memberAppend, memberCons, memberOptional]) rfl
  timeout := shows.optional "timeout_ms" uint64 Step.sensingTimeout (.nat sensing.timeout.toNat)
    sensing.timeout (by simp [Sensing.names])
    (by simp [Sensing.members, memberAppend, memberCons, memberOptional])
    (uint64OfNat sensing.timeout)
  output := shows.ofOption "output_variable" text .string sensing.output (by simp [Sensing.names])
    (by simp [Sensing.members, memberAppend, memberCons, memberOptional])
    (fun _ equal => by cases equal) textOfString
  click := shows.ofOption "click_on_match" (MatchClick.ofJson .setAside) MatchClick.toJson
    sensing.click (by simp [Sensing.names])
    (by simp [Sensing.members, memberAppend, memberCons, memberOptional])
    (fun _ equal => by cases equal) (MatchClick.ofToJson .setAside)

end SensingSlots

/-! ### Actions -/

theorem Shape.listOfTexts (values : List String) :
    Shape.list text (Json.texts values).canonical = .ok values :=
  listOfItems text .string values fun value _ => textOfString value

namespace Action

variable {fields : Fields}

theorem clickOfMembers (x y : Coordinate) (button : MouseButton) (count : UInt32)
    (shows : fields.Shows (click x y button count).members StepType.mouseClick.ownNames) :
    clickOfFields fields = .ok (.click x y button count) := by
  have x := shows.required "x" Coordinate.ofJson _ x (by simp [StepType.ownNames]) rfl
    x.ofToJson
  have y := shows.required "y" Coordinate.ofJson _ y (by simp [StepType.ownNames]) rfl
    y.ofToJson
  have button := shows.optional "button" (MouseButton.ofJson .setAside) default _ button
    (by simp [StepType.ownNames]) rfl (MouseButton.ofTag .setAside button)
  have count := shows.optional "click_count" uint32 1 _ count (by simp [StepType.ownNames]) rfl
    (uint32OfNat count)
  have settled := shows.settled [_, _, _, _] ⟨x.settled, y.settled, button.settled, count.settled⟩
  rw [clickOfFields]
  simp only [bind, Except.bind, settled, x.read, y.read, button.read, count.read]
  rfl

theorem moveOfMembers (x y : Coordinate) (duration : UInt64)
    (shows : fields.Shows (move x y duration).members StepType.mouseMove.ownNames) :
    moveOfFields fields = .ok (.move x y duration) := by
  have x := shows.required "x" Coordinate.ofJson _ x (by simp [StepType.ownNames]) rfl
    x.ofToJson
  have y := shows.required "y" Coordinate.ofJson _ y (by simp [StepType.ownNames]) rfl
    y.ofToJson
  have duration := shows.optional "duration_ms" uint64 0 _ duration
    (by simp [StepType.ownNames]) rfl (uint64OfNat duration)
  have settled := shows.settled [_, _, _] ⟨x.settled, y.settled, duration.settled⟩
  rw [moveOfFields]
  simp only [bind, Except.bind, settled, x.read, y.read, duration.read]
  rfl

theorem typeOfMembers (text : String) (interval : UInt64)
    (shows : fields.Shows (type text interval).members StepType.keyboardType.ownNames) :
    typeOfFields fields = .ok (.type text interval) := by
  have text := shows.required "text" Shape.text _ text (by simp [StepType.ownNames]) rfl
    (textOfString text)
  have interval := shows.optional "interval_ms" uint64 0 _ interval
    (by simp [StepType.ownNames]) rfl (uint64OfNat interval)
  have settled := shows.settled [_, _] ⟨text.settled, interval.settled⟩
  rw [typeOfFields]
  simp only [bind, Except.bind, settled, text.read, interval.read]
  rfl

theorem hotkeyOfMembers (keys : List String)
    (shows : fields.Shows (hotkey keys).members StepType.keyboardHotkey.ownNames) :
    hotkeyOfFields fields = .ok (.hotkey keys) := by
  have keys := shows.required "keys" (Shape.list Shape.text) _ keys
    (by simp [StepType.ownNames]) rfl (listOfTexts keys)
  have settled := shows.settled [_] keys.settled
  rw [hotkeyOfFields]
  simp only [bind, Except.bind, settled, keys.read]
  rfl

theorem waitOfMembers (duration : UInt64)
    (shows : fields.Shows (wait duration).members StepType.waitTime.ownNames) :
    waitOfFields fields = .ok (.wait duration) := by
  have duration := shows.required "duration_ms" uint64 _ duration
    (by simp [StepType.ownNames]) rfl (uint64OfNat duration)
  have settled := shows.settled [_] duration.settled
  rw [waitOfFields]
  simp only [bind, Except.bind, settled, duration.read]
  rfl

theorem waitImageOfMembers (template : String) (sensing : Sensing)
    (shows : fields.Shows (waitImage template sensing).members StepType.waitImage.ownNames) :
    waitImageOfFields fields = .ok (.waitImage template sensing) := by
  have template := shows.required "template_ref" Shape.text _ template
    (by simp [StepType.ownNames]) rfl (textOfString template)
  have part := shows.part (sensing.members []) Sensing.names
    (by simp [Sensing.names, StepType.ownNames])
    (by simp [Sensing.names, members, memberCons])
  have hold := SensingSlots.ofMembers sensing Step.imageThreshold fields part
  have settled := shows.settled (_ :: _) ((List.forall_cons _ _ _).mpr ⟨template.settled, hold.settled⟩)
  rw [waitImageOfFields]
  simp only [bind, Except.bind, settled, template.read, hold.read]
  rfl

theorem searchTextOfMembers (query : String) (exactly : Bool) (sensing : Sensing)
    (shows : fields.Shows (searchText query exactly sensing).members
      StepType.textSearch.ownNames) :
    searchTextOfFields fields = .ok (.searchText query exactly sensing) := by
  have query := shows.required "query_text" Shape.text _ query
    (by simp [StepType.ownNames]) rfl (textOfString query)
  have exactly_ := shows.optional "exact_match" flag false (.bool exactly) exactly
    (by simp [StepType.ownNames])
    (by simp [members, Sensing.members, memberAppend, memberCons, memberOptional]) rfl
  have part := shows.part (sensing.members []) Sensing.names
    (by simp [Sensing.names, StepType.ownNames])
    (by simp [Sensing.names, members, Sensing.members, memberAppend, memberCons])
  have hold := SensingSlots.ofMembers sensing Step.textThreshold fields part
  have settled := shows.settled (_ :: _ :: _) ((List.forall_cons _ _ _).mpr
    ⟨query.settled, (List.forall_cons _ _ _).mpr ⟨exactly_.settled, hold.settled⟩⟩)
  rw [searchTextOfFields]
  simp only [bind, Except.bind, settled, query.read, exactly_.read, hold.read]
  rfl

/-- Every action is read back from its members. -/
theorem ofMembers (header : StepHeader) (action : Action) (branches : Step.Branches)
    (shows : fields.Shows action.members action.stepType.ownNames) :
    Step.ofFields header action.stepType fields branches = .ok (.leaf header action) := by
  cases action with
  | click x y button count =>
      simp only [stepType, Step.ofFields, clickOfMembers x y button count shows]
      rfl
  | move x y duration =>
      simp only [stepType, Step.ofFields, moveOfMembers x y duration shows]
      rfl
  | type text interval =>
      simp only [stepType, Step.ofFields, typeOfMembers text interval shows]
      rfl
  | hotkey keys =>
      simp only [stepType, Step.ofFields, hotkeyOfMembers keys shows]
      rfl
  | wait duration =>
      simp only [stepType, Step.ofFields, waitOfMembers duration shows]
      rfl
  | waitImage template sensing =>
      simp only [stepType, Step.ofFields, waitImageOfMembers template sensing shows]
      rfl
  | searchText query exactly sensing =>
      simp only [stepType, Step.ofFields, searchTextOfMembers query exactly sensing shows]
      rfl

end Action

namespace Step

/-! ### Steps with steps in them -/

/-- The steps in a member have been read from the member. -/
theorem lookupBranchesOf (members : List (String × Json)) (name : String) :
    (branchesOf members).lookup name =
      (Json.member? members name).map (listOfJson .setAside) := by
  induction members with
  | nil => rfl
  | cons head rest inductionHypothesis =>
      obtain ⟨key, found⟩ := head
      rw [branchesOf, List.lookup_cons, memberCons, inductionHypothesis]
      by_cases same : name = key
      · simp [same]
      · rw [if_neg same, beq_eq_false_iff_ne.mpr same]

theorem branchSlotHolds (members : List (String × Json)) (name : String) (found : Json)
    (steps : List Step) (present : Json.member? members name = some found)
    (reads : listOfJson .setAside found = .ok steps) :
    (branchSlot (branchesOf members) name).Holds steps := by
  constructor <;>
    simp [branchSlot, lookupBranchesOf, SlotState.Settled, Slot.state, Slot.value, present, reads]

/-- Header and type of a step are found, so reading it comes down to the members of its own. -/
theorem ofJsonOfOwn (origin : Origin) (step : Step)
    (own : ∀ fields : Fields, fields.Shows step.ownMembers step.stepType.ownNames →
      fields.members = Json.canonicalMembers [] step.members →
      ofFields step.header step.stepType fields (branchesOf fields.members) = .ok step) :
    ofJson origin step.toJson.canonical = .ok step := by
  have shows (names : List String) :=
    Fields.showsCanonical "struct MacroStep" [] names origin step.members step.keysNodup
  have members : (⟨"struct MacroStep", [], .object, Json.canonicalMembers [] step.members,
    origin⟩ : Fields).members = Json.canonicalMembers [] step.members := rfl
  rw [toJsonMembers, Json.canonical, ofJson, ofMembers, ← members]
  generalize (⟨"struct MacroStep", [], .object, Json.canonicalMembers [] step.members,
    origin⟩ : Fields) = fields at shows members ⊢
  have header := step.header.ofMembers fields ((shows StepHeader.names).part step.header.members
    StepHeader.names (fun _ inside => inside) step.headerMember)
  have type := (shows ["type"]).required "type" StepType.ofJson _ step.stepType (by simp)
    step.typeMember (by
      rw [canonicalString, StepType.ofJson, StepType.ofTagTag])
  have settled := (shows ["type"]).settled [_] type.settled
  simp only [bind, Except.bind, header, settled, type.read]
  exact own fields ((shows step.stepType.ownNames).part step.ownMembers step.stepType.ownNames
    (fun _ inside => inside) step.ownMember) members

theorem branchOfMembers (header : StepHeader) (condition : Condition)
    (whenTrue whenFalse : List Step) (fields : Fields)
    (shows : fields.Shows (branch header condition whenTrue whenFalse).ownMembers
      StepType.ifCondition.ownNames)
    (trueReads : listOfJson .setAside (Json.array (toJsonAll whenTrue)).canonical = .ok whenTrue)
    (falseReads :
      listOfJson .setAside (Json.array (toJsonAll whenFalse)).canonical = .ok whenFalse) :
    branchOfFields header fields (branchesOf fields.members) =
      .ok (.branch header condition whenTrue whenFalse) := by
  have condition_ := shows.required "condition" (Condition.ofJson .setAside) _ condition
    (by simp [StepType.ownNames]) rfl (Condition.ofToJson .setAside condition)
  have whenTrue_ := branchSlotHolds fields.members "true_branch" _ whenTrue
    (by rw [shows.found "true_branch" (by simp [StepType.ownNames])]; rfl) trueReads
  have whenFalse_ := branchSlotHolds fields.members "false_branch" _ whenFalse
    (by rw [shows.found "false_branch" (by simp [StepType.ownNames])]; rfl) falseReads
  have settled := shows.settled [_, _, _]
    ⟨condition_.settled, whenTrue_.settled, whenFalse_.settled⟩
  rw [branchOfFields]
  simp only [bind, Except.bind, settled, condition_.read, whenTrue_.read, whenFalse_.read]
  rfl

/-- A loop has a count or a condition, and the other one is left out. -/
def countOf : LoopMode → Option UInt32
  | .count times => some times
  | .while_ _ => none

def conditionOf : LoopMode → Option Condition
  | .count _ => none
  | .while_ condition => some condition

theorem loopModeOfParts (mode : LoopMode) : loopMode (countOf mode) (conditionOf mode) = .ok mode := by
  cases mode <;> rfl

theorem loopOfMembers (header : StepHeader) (rule : LoopRule) (body : List Step) (fields : Fields)
    (shows : fields.Shows (loop header rule body).ownMembers StepType.loop.ownNames)
    (bodyReads : listOfJson .setAside (Json.array (toJsonAll body)).canonical = .ok body) :
    loopOfFields header fields (branchesOf fields.members) = .ok (.loop header rule body) := by
  obtain ⟨mode, limit, index⟩ := rule
  have times := shows.ofOption "iterations" uint32 (fun times => .nat times.toNat) (countOf mode)
    (by simp [StepType.ownNames])
    (by cases mode <;>
      simp [ownMembers, LoopRule.members, memberAppend, memberCons, memberNil, memberOptional,
        countOf])
    (fun _ equal => by cases equal) uint32OfNat
  have condition := shows.ofOption "condition" (Condition.ofJson .setAside) Condition.toJson
    (conditionOf mode) (by simp [StepType.ownNames])
    (by cases mode <;>
      simp [ownMembers, LoopRule.members, memberAppend, memberCons, memberNil, memberOptional,
        conditionOf])
    (fun _ equal => by cases equal) (Condition.ofToJson .setAside)
  have limit_ := shows.optional "max_iterations" uint32 loopLimit (.nat limit.toNat) limit
    (by simp [StepType.ownNames])
    (by cases mode <;>
      simp [ownMembers, LoopRule.members, memberCons])
    (uint32OfNat limit)
  have index_ := shows.ofOption "index_variable" Shape.text .string index
    (by simp [StepType.ownNames])
    (by cases mode <;>
      simp [ownMembers, LoopRule.members, memberAppend, memberCons, memberNil, memberOptional])
    (fun _ equal => by cases equal) textOfString
  have body_ := branchSlotHolds fields.members "body" _ body
    (by
      rw [shows.found "body" (by simp [StepType.ownNames])]
      cases mode <;>
        simp [ownMembers, LoopRule.members, memberAppend, memberCons, memberOptional])
    bodyReads
  have settled := shows.settled [_, _, _, _, _]
    ⟨times.settled, condition.settled, limit_.settled, index_.settled, body_.settled⟩
  rw [loopOfFields]
  simp only [bind, Except.bind, settled, times.read, condition.read, limit_.read, index_.read,
    body_.read, loopModeOfParts]
  rfl

/-! ### All steps -/

mutual

/-- Every step is read back as it was written. -/
theorem ofToJson (origin : Origin) : ∀ step : Step,
    ofJson origin step.toJson.canonical = .ok step
  | .leaf header action => ofJsonOfOwn origin (.leaf header action) fun _ shows _ =>
      action.ofMembers header _ shows
  | .branch header condition whenTrue whenFalse =>
      ofJsonOfOwn origin (.branch header condition whenTrue whenFalse) fun fields shows _ =>
        branchOfMembers header condition whenTrue whenFalse fields shows
          (listOfToJson .setAside whenTrue) (listOfToJson .setAside whenFalse)
  | .loop header rule body => ofJsonOfOwn origin (.loop header rule body) fun fields shows _ =>
      loopOfMembers header rule body fields shows (listOfToJson .setAside body)

theorem listOfToJson (origin : Origin) : ∀ steps : List Step,
    listOfJson origin (Json.array (toJsonAll steps)).canonical = .ok steps
  | [] => rfl
  | step :: rest => by
      have first := ofToJson origin step
      have others := listOfToJson origin rest
      rw [Json.canonical, listOfJson] at others ⊢
      rw [toJsonAll, Json.canonicalItems, listOfItems, first, others]

end

end Step

/-! ### Slots -/

namespace Shape

theorem valueOfRequired {α : Type} {fields : Fields} {name : String} {read : Json → Result α}
    {item : Json} (found : Json.member? fields.members name = some item) :
    (fields.required name read).value = read item := by
  rw [Fields.required, Slot.value, found]
  rfl

theorem valueOfOptional {α : Type} {fields : Fields} {name : String} {read : Json → Result α}
    {fallback : α} {item : Json} (found : Json.member? fields.members name = some item) :
    (fields.optional name read fallback).value = read item := by
  rw [Fields.optional, Slot.value, found]
  rfl

theorem valueOfMissing {α : Type} {fields : Fields} {name : String} {read : Json → Result α}
    {fallback : α} (missing : Json.member? fields.members name = none) :
    (fields.optional name read fallback).value = .ok fallback := by
  rw [Fields.optional, Slot.value, missing]
  rfl

end Shape

/-! ### Headers and settings -/

/-- These parts of a header have been read from its fields. -/
structure StepHeader.ReadFrom (fields : Shape.Fields) (header : StepHeader) : Prop where
  id : (fields.required "id" Shape.text).value = .ok header.id
  enabled : (fields.optional "enabled" Shape.flag true).value = .ok header.enabled
  retryCount : (fields.optional "retry_count" Shape.uint32 0).value = .ok header.retryCount

theorem StepHeader.readFrom {fields : Shape.Fields} {header : StepHeader}
    (done : StepHeader.ofFields fields = .ok header) : header.ReadFrom fields := by
  obtain ⟨_, -, done⟩ := okOfBind done
  obtain ⟨id, isId, done⟩ := okOfBind done
  obtain ⟨label, -, done⟩ := okOfBind done
  obtain ⟨enabled, isEnabled, done⟩ := okOfBind done
  obtain ⟨onError, -, done⟩ := okOfBind done
  obtain ⟨retryCount, isRetryCount, done⟩ := okOfBind done
  cases done
  exact ⟨isId, isEnabled, isRetryCount⟩

/-- These parts of the settings of a sensing step have been read from its fields. -/
structure Sensing.ReadFrom (fields : Shape.Fields) (sensing : Sensing) : Prop where
  output : (fields.optional "output_variable" (Shape.optional Shape.text) none).value =
    .ok sensing.output
  click : (fields.optional "click_on_match" (Shape.optional (MatchClick.ofJson .setAside))
    none).value = .ok sensing.click

theorem Sensing.readFrom {fields : Shape.Fields} {threshold : Float} {sensing : Sensing}
    (done : (SensingSlots.of fields threshold).value = .ok sensing) : sensing.ReadFrom fields := by
  obtain ⟨region, -, done⟩ := okOfBind done
  obtain ⟨found, -, done⟩ := okOfBind done
  obtain ⟨timeout, -, done⟩ := okOfBind done
  obtain ⟨output, isOutput, done⟩ := okOfBind done
  obtain ⟨click, isClick, done⟩ := okOfBind done
  cases done
  exact ⟨isOutput, isClick⟩

namespace Step

/-! ### Steps -/

/-- A step has been read from its members when its header, type and own fields have been. -/
theorem membersRead {origin : Shape.Origin} {members : List (String × Json)} {branches : Branches}
    {step : Step} (done : ofMembers origin members branches = .ok step) :
    ∃ header type,
      header.ReadFrom ⟨"struct MacroStep", [], .object, members, origin⟩ ∧
      (Shape.Fields.required ⟨"struct MacroStep", [], .object, members, origin⟩ "type"
        StepType.ofJson).value = .ok type ∧
      ofFields header type ⟨"struct MacroStep", [], .object, members, origin⟩ branches =
        .ok step := by
  obtain ⟨header, isHeader, done⟩ := okOfBind done
  obtain ⟨_, -, done⟩ := okOfBind done
  obtain ⟨type, isType, done⟩ := okOfBind done
  exact ⟨header, type, StepHeader.readFrom isHeader, isType, done⟩

/-- These fields of a step have been read whose type is written as a tag. -/
theorem typedRead {origin : Shape.Origin} {members : List (String × Json)} {type : StepType}
    {step : Step} (isType : Json.member? members "type" = some (.string type.tag))
    (done : ofJson origin (.object members) = .ok step) :
    ∃ header, header.ReadFrom ⟨"struct MacroStep", [], .object, members, origin⟩ ∧
      ofFields header type ⟨"struct MacroStep", [], .object, members, origin⟩
        (branchesOf members) = .ok step := by
  obtain ⟨header, found, isHeader, isFound, done⟩ := membersRead done
  rw [Shape.valueOfRequired isType, StepType.ofJson, StepType.ofTagTag] at isFound
  cases isFound
  exact ⟨header, isHeader, done⟩

/-- The steps on a way of a branch have been read from a member of the branch. -/
theorem wayRead {members : List (String × Json)} {key : String} {found : Json} {steps : List Step}
    (isFound : Json.member? members key = some found)
    (done : (branchSlot (branchesOf members) key).value = .ok steps) :
    listOfJson .setAside found = .ok steps := by
  rw [branchSlot, Shape.Slot.value, lookupBranchesOf, isFound] at done
  exact done

theorem branchRead {header : StepHeader} {fields : Shape.Fields} {branches : Branches}
    {step : Step} (done : branchOfFields header fields branches = .ok step) :
    ∃ condition whenTrue whenFalse,
      (fields.required "condition" (Condition.ofJson .setAside)).value = .ok condition ∧
      (branchSlot branches "true_branch").value = .ok whenTrue ∧
      (branchSlot branches "false_branch").value = .ok whenFalse ∧
      step = .branch header condition whenTrue whenFalse := by
  obtain ⟨_, -, done⟩ := okOfBind done
  obtain ⟨condition, isCondition, done⟩ := okOfBind done
  obtain ⟨whenTrue, isTrue, done⟩ := okOfBind done
  obtain ⟨whenFalse, isFalse, done⟩ := okOfBind done
  cases done
  exact ⟨condition, whenTrue, whenFalse, isCondition, isTrue, isFalse, rfl⟩

end Step

end DeskScript
