/-
This file shows that a condition on the screen becomes two steps of a script that stand next to each
other: a probe, and a branch that asks what the probe has found. The branch decides whether the
output variable of the probe has a value. The name of the variable can be written in a placeholder
as it is.
-/

import DeskScript.Document.Upgrade
import DeskScript.Proofs.Document.Adjacent
import DeskScript.Proofs.Document.StepsKept
import DeskScript.Proofs.Placeholder

namespace DeskScript

namespace Template

/-! ### Plain names -/

/-- A plain name can be written in a placeholder as it is. -/
structure PlainName (name : String) : Prop where
  written : name ≠ ""
  unclosed : '\x7d' ∉ name.toList
  unblank : ∀ character ∈ name.toList, Text.isBlank character = false

theorem dropUnblank {characters : List Char}
    (unblank : ∀ character ∈ characters, Text.isBlank character = false) :
    characters.dropWhile Text.isBlank = characters := by
  cases characters with
  | nil => rfl
  | cons first rest =>
      rw [List.dropWhile_cons, unblank first List.mem_cons_self]
      rfl

theorem nameOfPlain {name : String} (plain : PlainName name) : nameOf name.toList = name := by
  rw [nameOf, Text.trimChars, dropUnblank plain.unblank, dropUnblank, List.reverse_reverse,
    String.ofList_toList]
  intro character member
  exact plain.unblank character (List.mem_reverse.mp member)

theorem partsPlaceholder {name : String} (written : name ≠ "") (unclosed : '\x7d' ∉ name.toList) :
    parts (Upgrade.placeholder name).toList = [.placeholder name.toList] := by
  have characters : (Upgrade.placeholder name).toList =
      '$' :: '\x7b' :: (name.toList ++ ['\x7d']) := by
    simp [Upgrade.placeholder]
  have named : name.toList ≠ [] := by
    intro empty
    exact written (String.toList_eq_nil_iff.mp empty)
  rw [characters, partsAt named unclosed, parts]

/-- A placeholder becomes the value of its name, and nothing where there is none. -/
theorem resolvePlaceholder {name : String} (plain : PlainName name) (bindings : Bindings) :
    (resolve (Upgrade.placeholder name) bindings).value = (bindings.find? name).getD "" := by
  rw [resolve, partsPlaceholder plain.written plain.unclosed, List.flatMap_singleton, partText, nameOfPlain plain,
    String.ofList_toList]

end Template

/-! ### Conditions on a variable -/

/-- A condition that asks whether a variable has a value holds when its value is not empty. -/
theorem Condition.existsDecides {condition : Condition} {name : String}
    (plain : Template.PlainName name) (isLeft : condition.left = Upgrade.placeholder name)
    (isOperator : condition.operator = .exists_) (bindings : Bindings) :
    (condition.evaluate bindings).result = !((bindings.find? name).getD "").isEmpty := by
  rw [evaluate, isLeft, isOperator, Template.resolvePlaceholder plain]
  rfl

namespace Upgrade

/-- The letters and digits of ASCII are not blank. -/
theorem alphanumUnblank {character : Char} (alphanum : character.isAlphanum = true) :
    Text.isBlank character = false := by
  have code : (48 ≤ character.toNat ∧ character.toNat ≤ 57) ∨
      (65 ≤ character.toNat ∧ character.toNat ≤ 90) ∨
      (97 ≤ character.toNat ∧ character.toNat ≤ 122) := by
    have ranges : (decide (65 ≤ character.val ∧ character.val ≤ 90) ||
        (decide (97 ≤ character.val) && decide (character.val ≤ 122)) ||
        (decide (48 ≤ character.val) && decide (character.val ≤ 57))) = true := alphanum
    simp only [Bool.or_eq_true, Bool.and_eq_true, decide_eq_true_eq,
      UInt32.le_iff_toNat_le] at ranges
    rcases ranges with (upper | lower) | digit
    · exact .inr (.inl upper)
    · exact .inr (.inr lower)
    · exact .inl digit
  simp only [Text.isBlank, Bool.or_eq_false_iff, Bool.and_eq_false_iff, decide_eq_false_iff_not]
  omega

theorem probeCharacters (id : String) : ∀ character ∈ (probeName id).toList,
    character.isAlphanum = true ∨ character = '_' := by
  intro character member
  rw [probeName, String.toList_append, List.mem_append] at member
  rcases member with ofPrefix | ofId
  · have fixed : "probe_".toList.all fun character => character.isAlphanum || character = '_' := by
      decide
    simpa using List.all_eq_true.mp fixed character ofPrefix
  · rw [String.toList_ofList] at ofId
    exact .inl (List.mem_filter.mp (List.mem_of_mem_take ofId)).2

theorem probeNamePlain (id : String) : Template.PlainName (probeName id) where
  written := by
    intro empty
    have written : (probeName id).toList ≠ [] := by
      rw [probeName, String.toList_append]
      exact nofun
    exact written (String.toList_eq_nil_iff.mpr empty)
  unclosed member := by
    rcases probeCharacters id _ member with alphanum | underscore
    · cases alphanum
    · cases underscore
  unblank character member := by
    rcases probeCharacters id character member with alphanum | underscore
    · exact alphanumUnblank alphanum
    · rw [underscore]
      decide

/-! ### Members of the two steps -/

/-- These members of a probe and of a branch come from a condition on the screen. -/
structure PairMembers (id type : String) (probe branch : Members) : Prop where
  probeId : Json.member? probe "id" = some (.string (id ++ "-probe"))
  probeType : Json.member? probe "type" = some (.string type)
  output : Json.member? probe "output_variable" = some (.string (probeName id))
  unset : ∀ key ∉ probeKeys, Json.member? probe key = none
  branchId : id ≠ "" → Json.member? branch "id" = some (.string id)
  branchType : Json.member? branch "type" = some (.string "if_condition")
  condition : Json.member? branch "condition" = some (probeCondition id)

theorem memberOfText {members : Members} {key text : String} (isText : textOr members key "" = text)
    (written : text ≠ "") : Json.member? members key = some (.string text) := by
  rw [textOr] at isText
  cases isFound : Json.member? members key with
  | none =>
      rw [isFound] at isText
      exact absurd isText.symm written
  | some found =>
      rw [isFound] at isText
      cases found with
      | string other => rw [show other = text from isText]
      | _ => exact absurd isText.symm written

theorem branchFound (old : Members) (id : String) (condition : Json)
    (whenTrue whenFalse : List Json) {key : String} (uncommon : key ∉ commonKeys) :
    Json.member? (Json.canonicalMembers []
      (branchMembers old id condition whenTrue whenFalse)) key =
        (Json.member? [("type", .string "if_condition"), ("condition", condition),
          ("true_branch", .array whenTrue), ("false_branch", .array whenFalse)] key).map
            Json.canonical := by
  rw [(keysOfBranch old id condition whenTrue whenFalse).canonical (by decide), branchMembers,
    memberBehindCommon old _ id uncommon]

theorem canonicalPair {old probe : Members} {id type : String}
    (isProbe : ProbeMembers id type probe) (whenTrue whenFalse : List Json) :
    PairMembers id type (Json.canonicalMembers [] probe) (Json.canonicalMembers []
      (branchMembers old id (probeCondition id) whenTrue whenFalse)) where
  probeId := by
    rw [isProbe.keys.canonical (by decide), isProbe.id]
    rfl
  probeType := by
    rw [isProbe.keys.canonical (by decide), isProbe.type]
    rfl
  output := by
    rw [isProbe.keys.canonical (by decide), isProbe.output]
    rfl
  unset key unlisted := by
    rw [isProbe.keys.canonical (by decide), isProbe.keys.absent unlisted]
    rfl
  branchId written := by
    have isId : textOr (branchMembers old id (probeCondition id) whenTrue whenFalse) "id" "" = id :=
      identityKept old _ id rfl
    rw [(keysOfBranch old id _ whenTrue whenFalse).canonical (by decide),
      memberOfText isId written]
    rfl
  branchType := branchFound old id _ whenTrue whenFalse (by decide)
  condition := branchFound old id _ whenTrue whenFalse (by decide)

/-- No steps are in the members of a probe. -/
theorem probeHoldsNone {id type : String} {probe : Members} (isProbe : ProbeMembers id type probe)
    (entry : String × Json) (inside : entry ∈ Json.canonicalMembers [] probe) :
    Identity.holdsSteps entry.1 = false := by
  have listed : ∀ key ∈ probeKeys, Identity.holdsSteps key = false := by decide
  rcases Json.ofMemCanonicalMembers [] probe entry inside with absurdly | ⟨item, member, -⟩
  · exact absurd absurdly List.not_mem_nil
  · exact listed _ (isProbe.keys.subset (List.mem_map.mpr ⟨_, member, rfl⟩))

/-- A probe keeps its identity. -/
theorem probeIdentified {id type : String} {probe : Members} (isProbe : ProbeMembers id type probe)
    (source : IdSource) :
    Identity.identifyStep (.object (Json.canonicalMembers [] probe)) source =
      (.object (Json.canonicalMembers [] probe), source) := by
  have present : (Json.member? (Json.canonicalMembers [] probe) "id").isSome := by
    rw [isProbe.keys.canonical (by decide), isProbe.id]
    rfl
  rw [Identity.identifyStep, Identity.identifyMembersFixed _ source fun entry inside holds => by
    rw [probeHoldsNone isProbe entry inside] at holds
    cases holds]
  dsimp only
  rw [Identity.identifyFixed _ source present]

/-! ### Places -/

/-- Steps on a way of an upgraded branch are steps of every list with this branch. -/
theorem adjacentOnWay {first second condition : Json} {old : Members} {id : String}
    {whenTrue whenFalse items front back : List Json}
    (isWay : items = whenTrue ∨ items = whenFalse)
    (adjacent : Adjacent first second (Json.canonicalItems items)) :
    Adjacent first second (Json.canonicalItems
      (front ++ .object (branchMembers old id condition whenTrue whenFalse) :: back)) := by
  rw [Json.canonicalItemsMap (front ++ _), List.map_append]
  refine Adjacent.behind ?_ _
  have isBranch := branchFound old id condition whenTrue whenFalse (by decide : "type" ∉ commonKeys)
  rcases isWay with rfl | rfl
  · exact .inside isBranch (by decide : "true_branch" ∈ wayKeys)
      (branchFound old id condition items whenFalse (by decide)) adjacent
  · exact .inside isBranch (by decide : "false_branch" ∈ wayKeys)
      (branchFound old id condition whenTrue items (by decide)) adjacent

/-- The two steps stand next to each other in an upgraded list. -/
theorem adjacentUpgraded {old : Members} {type : String} {items news : List Json}
    (occurs : Occurs (.object old) items) (isScreen : Outline.probeType old = some type)
    (done : stepItems items = .ok news) :
    ∃ probe whenTrue whenFalse, ProbeMembers (textOr old "step_id" "") type probe ∧
      Adjacent (.object (Json.canonicalMembers [] probe))
        (.object (Json.canonicalMembers [] (branchMembers old (textOr old "step_id" "")
          (probeCondition (textOr old "step_id" "")) whenTrue whenFalse)))
        (Json.canonicalItems news) := by
  have isBranch : textOr old "step_type" "" = "if_condition" := by
    by_contra other
    rw [Outline.probeType, if_neg other] at isScreen
    cases isScreen
  induction occurs generalizing news with
  | here member =>
      obtain ⟨front, upgraded, back, isUpgraded, rfl⟩ := stepItemsParts done member
      obtain ⟨whenTrue, whenFalse, result, -, -, isCondition, rfl⟩ :=
        branchUpgraded isBranch isUpgraded
      have probes := conditionUpgraded isBranch isCondition
      rw [isScreen] at probes
      cases probes with
      | @probe _ probe isProbe =>
          refine ⟨probe, whenTrue, whenFalse, isProbe, ?_⟩
          rw [Json.canonicalItemsMap, List.map_append]
          exact Adjacent.behind .here _
  | @inside items inner members key member isOuter isKey isWay occurs inductionHypothesis =>
      obtain ⟨front, upgraded, back, isUpgraded, rfl⟩ := stepItemsParts done member
      obtain ⟨whenTrue, whenFalse, result, isTrue, isFalse, -, rfl⟩ :=
        branchUpgraded isOuter isUpgraded
      have isList : branchOf (branchesOf members) key = stepItems inner := by
        rw [branchOfMember, isWay]
        rfl
      have shape : front ++ (result.probe ++ [.object (branchMembers members
          (textOr members "step_id" "") result.condition whenTrue whenFalse)] ++ back) =
          front ++ result.probe ++ .object (branchMembers members (textOr members "step_id" "")
            result.condition whenTrue whenFalse) :: back := by
        simp
      rw [shape]
      rcases List.mem_pair.mp isKey with rfl | rfl
      · obtain ⟨probe, ofTrue, ofFalse, isProbe, adjacent⟩ :=
          inductionHypothesis (isList.symm.trans isTrue)
        exact ⟨probe, ofTrue, ofFalse, isProbe, adjacentOnWay (.inl rfl) adjacent⟩
      · obtain ⟨probe, ofTrue, ofFalse, isProbe, adjacent⟩ :=
          inductionHypothesis (isList.symm.trans isFalse)
        exact ⟨probe, ofTrue, ofFalse, isProbe, adjacentOnWay (.inr rfl) adjacent⟩

/-! ### Reading the two steps -/

/-- A step that looks at the screen has been read with its settings. -/
theorem sensingRead {header : StepHeader} {type : StepType} {fields : Shape.Fields}
    {branches : Step.Branches} {step : Step} (isSensing : type.isSensing = true)
    (done : Step.ofFields header type fields branches = .ok step) :
    ∃ action sensing, step = .leaf header action ∧ action.stepType = type ∧
      Leaf.sensing? action = some sensing ∧ sensing.ReadFrom fields := by
  cases type with
  | waitImage =>
      obtain ⟨action, isAction, rfl⟩ := okOfMap done
      obtain ⟨_, -, isAction⟩ := okOfBind isAction
      obtain ⟨template, -, isAction⟩ := okOfBind isAction
      obtain ⟨sensing, isSensing, isAction⟩ := okOfBind isAction
      cases isAction
      exact ⟨_, sensing, rfl, rfl, rfl, Sensing.readFrom isSensing⟩
  | textSearch =>
      obtain ⟨action, isAction, rfl⟩ := okOfMap done
      obtain ⟨_, -, isAction⟩ := okOfBind isAction
      obtain ⟨query, -, isAction⟩ := okOfBind isAction
      obtain ⟨exactly, -, isAction⟩ := okOfBind isAction
      obtain ⟨sensing, isSensing, isAction⟩ := okOfBind isAction
      cases isAction
      exact ⟨_, sensing, rfl, rfl, rfl, Sensing.readFrom isSensing⟩
  | _ => cases isSensing

/-- A probe has been read with what it looks for and what it does otherwise. -/
structure ProbeRead (id : String) (type : StepType) (header : StepHeader) (action : Action)
    (sensing : Sensing) : Prop where
  isId : header.id = id ++ "-probe"
  enabled : header.enabled = true
  single : header.retryCount = 0
  isType : action.stepType = type
  isSensing : Leaf.sensing? action = some sensing
  output : sensing.output = some (probeName id)
  noClick : sensing.click = none

theorem probeRead {id : String} {probe branch : Members} {type : StepType} {origin : Shape.Origin}
    {step : Step} (isSensing : type.isSensing = true) (pair : PairMembers id type.tag probe branch)
    (done : Step.ofJson origin (.object probe) = .ok step) :
    ∃ header action sensing, step = .leaf header action ∧
      ProbeRead id type header action sensing := by
  obtain ⟨header, isHeader, done⟩ := Step.typedRead pair.probeType done
  obtain ⟨action, sensing, rfl, isType, isAction, isRead⟩ := sensingRead isSensing done
  have isId := isHeader.id
  have enabled := isHeader.enabled
  have single := isHeader.retryCount
  have output := isRead.output
  have click := isRead.click
  rw [Shape.valueOfRequired pair.probeId] at isId
  rw [Shape.valueOfOptional pair.output] at output
  rw [Shape.valueOfMissing (pair.unset _ (by decide))] at enabled single click
  exact ⟨header, action, sensing, rfl,
    { isId := (Except.ok.inj isId).symm
      enabled := (Except.ok.inj enabled).symm
      single := (Except.ok.inj single).symm
      isType
      isSensing := isAction
      output := (Except.ok.inj output).symm
      noClick := (Except.ok.inj click).symm }⟩

/-- The branch asks whether the variable of the probe has a value. It keeps its identity. -/
theorem branchRead {id type : String} {probe branch : Members} {origin : Shape.Origin}
    {step : Step} {source : IdSource} (pair : PairMembers id type probe branch)
    (done : Step.ofJson origin (Identity.identifyStep (.object branch) source).1 = .ok step) :
    ∃ header whenTrue whenFalse,
      step = .branch header ⟨placeholder (probeName id), .exists_, ""⟩ whenTrue whenFalse ∧
      (id ≠ "" → header.id = id) := by
  obtain ⟨final, isFinal, kept, keptId⟩ := Identity.objectIdentified branch source
  obtain ⟨_, isType⟩ := kept "type" (by decide)
  obtain ⟨_, isCondition⟩ := kept "condition" (by decide)
  rw [pair.branchType] at isType
  rw [pair.condition] at isCondition
  rw [isFinal] at done
  have isTag : Json.member? final "type" = some (.string StepType.ifCondition.tag) := isType
  obtain ⟨header, isHeader, done⟩ := Step.typedRead isTag done
  obtain ⟨condition, whenTrue, whenFalse, read, -, -, rfl⟩ := Step.branchRead done
  rw [Shape.valueOfRequired isCondition] at read
  cases read
  refine ⟨header, whenTrue, whenFalse, rfl, fun written => ?_⟩
  have isId := isHeader.id
  rw [Shape.valueOfRequired (keptId _ (pair.branchId written))] at isId
  exact (Except.ok.inj isId).symm

/-- This probe and this branch have been read for a condition on the screen. -/
structure PairRead (old : Members) (pair : ProbedBranch) : Prop where
  probeId : pair.probe.id = textOr old "step_id" "" ++ "-probe"
  probeType : Outline.probeType old = some pair.action.stepType.tag
  branchId : textOr old "step_id" "" ≠ "" → pair.header.id = textOr old "step_id" ""

theorem pairRead {old probe branch : Members} {type : StepType} {origin : Shape.Origin}
    {one other : Step} {later : IdSource} (isScreen : Outline.probeType old = some type.tag)
    (isSensing : type.isSensing = true)
    (pair : PairMembers (textOr old "step_id" "") type.tag probe branch)
    (isOne : Step.ofJson origin (.object probe) = .ok one)
    (isOther : Step.ofJson origin (Identity.identifyStep (.object branch) later).1 = .ok other) :
    ∃ found : ProbedBranch, one = found.probeStep ∧ other = found.branchStep ∧
      PairRead old found := by
  obtain ⟨probeHeader, action, sensing, rfl, isProbe⟩ := probeRead isSensing pair isOne
  obtain ⟨header, whenTrue, whenFalse, rfl, isBranchId⟩ := branchRead pair isOther
  let found : ProbedBranch := {
    probe := probeHeader
    action
    sensing
    output := probeName (textOr old "step_id" "")
    header
    condition := ⟨placeholder (probeName (textOr old "step_id" "")), .exists_, ""⟩
    whenTrue
    whenFalse
    isSensing := isProbe.isSensing
    isOutput := isProbe.output
    noClick := isProbe.noClick
    enabled := isProbe.enabled
    single := isProbe.single
    decides := Condition.existsDecides (probeNamePlain _) rfl rfl }
  exact ⟨found, rfl, rfl, isProbe.isId, isProbe.isType ▸ isScreen, isBranchId⟩

end Upgrade

end DeskScript
