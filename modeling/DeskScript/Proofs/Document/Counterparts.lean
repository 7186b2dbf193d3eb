/-
This file shows what is loaded for one step of a document of the first version. Its counterpart is
enabled exactly if it was, but the probe of a condition on the screen is always enabled.
-/

import DeskScript.Proofs.Document.ConditionsKept

namespace DeskScript

/-! ### Lists of steps -/

namespace Identity

theorem identifyItemsAppend (first second : List Json) (source : IdSource) :
    (identifyItems (first ++ second) source).1 =
      (identifyItems first source).1 ++
        (identifyItems second (identifyItems first source).2).1 := by
  induction first generalizing source with
  | nil => rfl
  | cons item rest inductionHypothesis =>
      rw [List.cons_append, identifyItemsCons, inductionHypothesis]
      rfl

/-- The source goes on to the second list where the first one has left it. -/
theorem itemsAppendSource (first second : List Json) (source : IdSource) :
    (identifyItems (first ++ second) source).2 =
      (identifyItems second (identifyItems first source).2).2 := by
  induction first generalizing source with
  | nil => rfl
  | cons item rest inductionHypothesis => exact inductionHypothesis _

end Identity

namespace Step

theorem listOfAppend {origin : Shape.Origin} {first second : List Json} {steps : List Step}
    (done : listOfItems origin (first ++ second) = .ok steps) :
    ∃ one other, listOfItems origin first = .ok one ∧ listOfItems origin second = .ok other ∧
      steps = one ++ other := by
  induction first generalizing steps with
  | nil => exact ⟨[], steps, rfl, done, rfl⟩
  | cons item rest inductionHypothesis =>
      obtain ⟨step, further, isStep, isRest, rfl⟩ := itemsRead done
      obtain ⟨one, other, isOne, isOther, rfl⟩ := inductionHypothesis isRest
      refine ⟨step :: one, other, ?_, isOther, rfl⟩
      rw [listOfItems, isStep]
      dsimp only
      rw [isOne]

/-- A step has the header and the type that were read for it. -/
theorem ofFieldsParts {header : StepHeader} {type : StepType} {fields : Shape.Fields}
    {branches : Branches} {step : Step} (done : ofFields header type fields branches = .ok step) :
    step.header = header ∧ step.stepType = type := by
  cases type with
  | ifCondition =>
      obtain ⟨condition, whenTrue, whenFalse, -, -, -, rfl⟩ := branchRead done
      exact ⟨rfl, rfl⟩
  | loop =>
      repeat obtain ⟨_, -, done⟩ := okOfBind done
      cases done
      exact ⟨rfl, rfl⟩
  | _ =>
      obtain ⟨action, isAction, rfl⟩ := okOfMap done
      repeat obtain ⟨_, -, isAction⟩ := okOfBind isAction
      cases isAction
      exact ⟨rfl, rfl⟩

end Step

namespace Upgrade

/-- These items of an upgraded document have been read as these steps. -/
def ReadAs (items : List Json) (steps : List Step) : Prop :=
  ∃ origin source, Step.listOfItems origin
    (Identity.identifyItems (Json.canonicalItems items) source).1 = .ok steps

namespace ReadAs

theorem empty {steps : List Step} (read : ReadAs [] steps) : steps = [] := by
  obtain ⟨origin, source, done⟩ := read
  exact (Except.ok.inj done).symm

theorem append {first second : List Json} {steps : List Step}
    (read : ReadAs (first ++ second) steps) :
    ∃ one other, ReadAs first one ∧ ReadAs second other ∧ steps = one ++ other := by
  obtain ⟨origin, source, done⟩ := read
  rw [Json.canonicalItemsMap, List.map_append, Identity.identifyItemsAppend,
    ← Json.canonicalItemsMap, ← Json.canonicalItemsMap] at done
  obtain ⟨one, other, isOne, isOther, rfl⟩ := Step.listOfAppend done
  exact ⟨one, other, ⟨origin, _, isOne⟩, ⟨origin, _, isOther⟩, rfl⟩

theorem single {members : Members} {steps : List Step} (read : ReadAs [.object members] steps) :
    ∃ origin source step, steps = [step] ∧ Step.ofJson origin
      (Identity.identifyStep (.object (Json.canonicalMembers [] members)) source).1 = .ok step := by
  obtain ⟨origin, source, done⟩ := read
  obtain ⟨step, further, isStep, isRest, rfl⟩ := itemsRead done
  exact ⟨origin, source, step, by rw [← Except.ok.inj isRest], isStep⟩

end ReadAs

/-! ### Counterparts of steps -/

/--
This step has the identity of a step of the first version, if one was written, and the counterpart
of its type. It is enabled if that step was.
-/
structure Counterpart (old : Members) (step : Step) : Prop where
  id : textOr old "step_id" "" ≠ "" → step.id = textOr old "step_id" ""
  type : step.stepType.tag = Outline.counterpart (textOr old "step_type" "")
  enabled : step.header.enabled = flagOr old "enabled" true

theorem enabledKept (old more : Members) (id : String)
    (unnamed : Json.member? more "enabled" = none) :
    Json.member? (common old id ++ more) "enabled" =
      ((Json.member? old "enabled").bind Json.bool?).map Json.bool := by
  have absent {members : Members} {key : String} (has : HasKeys members [key])
      (other : "enabled" ∉ [key]) : lookUp? "enabled" members = none := has.absent other
  rw [Json.member?] at unnamed
  simp only [common, Json.member?, lookUpAppend]
  rw [absent (Shape.keysOfUnless "id" _ _) (by decide),
    absent (Shape.keysOfUnless "label" _ _) (by decide),
    absent (Shape.keysOfUnless "retry_count" _ _) (by decide), unnamed]
  cases (lookUp? "enabled" old).bind Json.bool? <;> rfl

/-- What comes behind the common members of a step changes neither its identity nor its flag. -/
theorem counterpartRead {old more : Members} {keys : List String} {type : StepType}
    {origin : Shape.Origin} {source : IdSource} {step : Step} (has : HasKeys more keys)
    (distinct : (commonKeys ++ keys).Nodup)
    (isType : Json.member? more "type" = some (.string type.tag))
    (isCounterpart : type.tag = Outline.counterpart (textOr old "step_type" ""))
    (done : Step.ofJson origin (Identity.identifyStep (.object (Json.canonicalMembers []
      (common old (textOr old "step_id" "") ++ more))) source).1 = .ok step) :
    Counterpart old step := by
  have apart {key : String} (isCommon : key ∈ commonKeys) : Json.member? more key = none :=
    has.absent (List.disjoint_of_nodup_append distinct isCommon)
  have found := ((keysOfCommon old (textOr old "step_id" "")).append has).canonical distinct
  obtain ⟨final, isFinal, kept, keptId⟩ := Identity.objectIdentified
    (Json.canonicalMembers [] (common old (textOr old "step_id" "") ++ more)) source
  have isTag : Json.member? final "type" = some (.string type.tag) := by
    obtain ⟨later, same⟩ := kept "type" (by decide)
    rw [same, found, memberBehindCommon old more _ (by decide), isType]
    rfl
  rw [isFinal] at done
  obtain ⟨header, isHeader, isStep⟩ := Step.typedRead isTag done
  obtain ⟨sameHeader, sameType⟩ := Step.ofFieldsParts isStep
  refine ⟨fun written => ?_, sameType ▸ isCounterpart, ?_⟩
  · have isId := memberOfText (identityKept old more _ (apart (by decide))) written
    have isFound := keptId (.string (textOr old "step_id" "")) (by rw [found, isId]; rfl)
    have read := isHeader.id
    rw [Shape.valueOfRequired isFound] at read
    rw [Step.id, sameHeader]
    exact (Except.ok.inj read).symm
  · -- What is not a flag is left out, and a step without a flag is enabled in both versions.
    obtain ⟨later, isEnabled⟩ := kept "enabled" (by decide)
    rw [found, enabledKept old more _ (apart (by decide))] at isEnabled
    have read := isHeader.enabled
    rw [sameHeader, flagOr]
    cases isFlag : (Json.member? old "enabled").bind Json.bool? with
    | none =>
        rw [isFlag] at isEnabled
        rw [Shape.valueOfMissing isEnabled] at read
        exact (Except.ok.inj read).symm
    | some enabled =>
        rw [isFlag] at isEnabled
        rw [Shape.valueOfOptional isEnabled] at read
        exact (Except.ok.inj read).symm

theorem leafTag {type : String} (known : type ∈ stepTypes) :
    ∃ found : StepType, found.tag = Outline.counterpart type := by
  have tags : ∀ type ∈ stepTypes, ∃ found ∈ StepType.all, found.tag = Outline.counterpart type := by
    decide
  obtain ⟨found, -, isTag⟩ := tags type known
  exact ⟨found, isTag⟩

/-- A step has been read from the members to which a step of the first version was upgraded. -/
inductive LoadedFor (old : Members) (step : Step) : Prop where
  | leaf {members : Members} {origin : Shape.Origin} {source : IdSource}
      (isOwn : leaf (textOr old "step_id" "") (textOr old "step_type" "") old = .ok members)
      (done : Step.ofJson origin (Identity.identifyStep (.object (Json.canonicalMembers []
        (common old (textOr old "step_id" "") ++ members))) source).1 = .ok step)
  | branch {condition : Json} {whenTrue whenFalse : List Json} {origin : Shape.Origin}
      {source : IdSource} (isBranch : textOr old "step_type" "" = "if_condition")
      (done : Step.ofJson origin (Identity.identifyStep (.object (Json.canonicalMembers []
        (branchMembers old (textOr old "step_id" "") condition whenTrue whenFalse))) source).1 =
          .ok step)

theorem LoadedFor.counterpart {old : Members} {step : Step} (loaded : LoadedFor old step) :
    Counterpart old step := by
  cases loaded with
  | leaf isOwn done =>
      have own := leafMembers isOwn
      obtain ⟨type, isTag⟩ := leafTag (leafKnown isOwn).1
      exact counterpartRead own.keys (by decide) (isTag ▸ own.type) isTag done
  | @branch condition whenTrue whenFalse _ _ isBranch done =>
      have own : HasKeys [("type", .string StepType.ifCondition.tag), ("condition", condition),
          ("true_branch", .array whenTrue), ("false_branch", .array whenFalse)] branchKeys :=
        List.Sublist.refl branchKeys
      exact counterpartRead own (by decide) rfl (by rw [isBranch]; rfl) done

/-- A step without steps in it is loaded as one step. -/
theorem leafLoaded {old members : Members} {steps : List Step}
    (isOwn : leaf (textOr old "step_id" "") (textOr old "step_type" "") old = .ok members)
    (read : ReadAs [.object (common old (textOr old "step_id" "") ++ members)] steps) :
    ∃ step, steps = [step] ∧ LoadedFor old step := by
  obtain ⟨origin, source, step, rfl, done⟩ := read.single
  exact ⟨step, rfl, .leaf isOwn done⟩

/-- A branch is loaded as a branch, and so are the steps on its ways. -/
theorem branchLoaded {old : Members} {condition : Json} {whenTrue whenFalse : List Json}
    {steps : List Step} (isBranch : textOr old "step_type" "" = "if_condition") (read : ReadAs
      [.object (branchMembers old (textOr old "step_id" "") condition whenTrue whenFalse)] steps) :
    ∃ header found ofTrue ofFalse, steps = [.branch header found ofTrue ofFalse] ∧
      LoadedFor old (.branch header found ofTrue ofFalse) ∧ ReadAs whenTrue ofTrue ∧
      ReadAs whenFalse ofFalse := by
  obtain ⟨origin, source, step, rfl, done⟩ := read.single
  have loaded : LoadedFor old step := .branch isBranch done
  obtain ⟨final, isFinal, kept, -⟩ := Identity.objectIdentified (Json.canonicalMembers []
    (branchMembers old (textOr old "step_id" "") condition whenTrue whenFalse)) source
  obtain ⟨_, isType⟩ := kept "type" (by decide)
  obtain ⟨ofTrueSource, isTrue⟩ := kept "true_branch" (by decide)
  obtain ⟨ofFalseSource, isFalse⟩ := kept "false_branch" (by decide)
  rw [branchFound _ _ _ _ _ (by decide)] at isType isTrue isFalse
  have isTag : Json.member? final "type" = some (.string StepType.ifCondition.tag) := isType
  rw [isFinal] at done
  obtain ⟨header, -, isStep⟩ := Step.typedRead isTag done
  obtain ⟨found, ofTrue, ofFalse, -, readTrue, readFalse, rfl⟩ := Step.branchRead isStep
  exact ⟨header, found, ofTrue, ofFalse, rfl, loaded,
    ⟨.setAside, ofTrueSource, Step.wayRead isTrue readTrue⟩,
    ⟨.setAside, ofFalseSource, Step.wayRead isFalse readFalse⟩⟩

/-- A probe is enabled, whatever its condition was. -/
theorem probeLoaded {old members : Members} {type : StepType} {steps : List Step}
    (isSensing : type.isSensing = true)
    (isProbe : ProbeMembers (textOr old "step_id" "") type.tag members)
    (read : ReadAs [.object members] steps) :
    ∃ header action sensing, steps = [.leaf header action] ∧
      ProbeRead (textOr old "step_id" "") type header action sensing := by
  obtain ⟨origin, source, step, rfl, done⟩ := read.single
  rw [probeIdentified isProbe] at done
  have pair := @canonicalPair old _ _ _ isProbe [] []
  obtain ⟨header, action, sensing, rfl, isRead⟩ := probeRead isSensing pair done
  exact ⟨header, action, sensing, rfl, isRead⟩

end Upgrade

end DeskScript
