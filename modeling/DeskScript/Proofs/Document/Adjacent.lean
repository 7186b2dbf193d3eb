/-
This file follows two steps that stand next to each other in a document until the steps have been
read. They stay next to each other when steps get their identities.
-/

import DeskScript.Proofs.Run.Neighbours
import DeskScript.Proofs.Script.Identity
import DeskScript.Proofs.Step.RoundTrip

namespace DeskScript

/-! ### Steps next to each other -/

/-- The steps on the ways of a branch are found in these members. -/
def wayKeys : List String := ["true_branch", "false_branch"]

/-- Two steps of a document stand next to each other in a list of steps or on a way in it. -/
inductive Adjacent (first second : Json) : List Json → Prop where
  | here {rest : List Json} : Adjacent first second (first :: second :: rest)
  | later {item : Json} {rest : List Json} (adjacent : Adjacent first second rest) :
      Adjacent first second (item :: rest)
  | inside {members : List (String × Json)} {key : String} {items rest : List Json}
      (isBranch : Json.member? members "type" = some (.string "if_condition"))
      (isKey : key ∈ wayKeys) (isWay : Json.member? members key = some (.array items))
      (adjacent : Adjacent first second items) : Adjacent first second (.object members :: rest)

namespace Adjacent

variable {first second : Json}

theorem behind {items : List Json} (adjacent : Adjacent first second items) (front : List Json) :
    Adjacent first second (front ++ items) := by
  induction front with
  | nil => exact adjacent
  | cons item rest inductionHypothesis => exact .later inductionHypothesis

end Adjacent

/-! ### Identities -/

namespace Identity

theorem wayHoldsSteps : ∀ key ∈ wayKeys, holdsSteps key = true ∧ key ≠ "id" := by decide

/-- A member that holds steps gets identities, and any other member stays as it is. -/
theorem memberIdentified (members : List (String × Json)) (source : IdSource) (key : String) :
    ∃ later, Json.member? (identifyMembers members source).1 key =
      (Json.member? members key).map fun found =>
        if holdsSteps key then (identifySteps found later).1 else found := by
  induction members generalizing source with
  | nil => exact ⟨source, rfl⟩
  | cons head rest inductionHypothesis =>
      obtain ⟨first, found⟩ := head
      rw [identifyMembers]
      by_cases same : key = first
      · refine ⟨source, ?_⟩
        rw [Json.member?, Json.member?, lookUp?, lookUp?, if_pos same, if_pos same, ← same]
        split <;> rfl
      · obtain ⟨later, kept⟩ := inductionHypothesis
          (if holdsSteps first then identifySteps found source else (found, source)).2
        refine ⟨later, ?_⟩
        rw [Json.member?, Json.member?, lookUp?, lookUp?, if_neg same, if_neg same]
        exact kept

/-- Only the identity is new where there was none. -/
theorem identifyOther (members : List (String × Json)) (source : IdSource) {key : String}
    (other : key ≠ "id") :
    Json.member? (identify members source).1 key = Json.member? members key := by
  rw [identify]
  split
  · rfl
  · exact Table.findPutEntryOther _ _ _ _ other

/-- A step with members keeps them, and it keeps its identity if it has one. -/
theorem objectIdentified (members : List (String × Json)) (source : IdSource) :
    ∃ final, (identifyStep (.object members) source).1 = .object final ∧
      (∀ key, key ≠ "id" → ∃ later, Json.member? final key =
        (Json.member? members key).map fun found =>
          if holdsSteps key then (identifySteps found later).1 else found) ∧
      ∀ item, Json.member? members "id" = some item → Json.member? final "id" = some item := by
  refine ⟨(identify (identifyMembers members source).1 (identifyMembers members source).2).1, rfl,
    fun key other => ?_, fun item isItem => ?_⟩
  · rw [identifyOther _ _ other]
    exact memberIdentified members source key
  · obtain ⟨later, isId⟩ := memberIdentified members source "id"
    have present : Json.member? (identifyMembers members source).1 "id" = some item := by
      rw [isId, isItem]
      rfl
    rw [identifyFixed _ _ (by rw [present]; rfl)]
    exact present

theorem identifyItemsCons (item : Json) (rest : List Json) (source : IdSource) :
    (identifyItems (item :: rest) source).1 =
      (identifyStep item source).1 :: (identifyItems rest (identifyStep item source).2).1 := rfl

theorem adjacentIdentified {first second : Json} {items : List Json}
    (fixed : ∀ source, identifyStep first source = (first, source))
    (adjacent : Adjacent first second items) (source : IdSource) :
    ∃ later, Adjacent first (identifyStep second later).1 (identifyItems items source).1 := by
  induction adjacent generalizing source with
  | here =>
      rw [identifyItemsCons, identifyItemsCons, fixed]
      exact ⟨source, .here⟩
  | later _ inductionHypothesis =>
      rw [identifyItemsCons]
      obtain ⟨later, adjacent⟩ := inductionHypothesis _
      exact ⟨later, .later adjacent⟩
  | @inside members key items rest isBranch isKey isWay _ inductionHypothesis =>
      rw [identifyItemsCons]
      obtain ⟨final, isFinal, kept, -⟩ := objectIdentified members source
      obtain ⟨_, isType⟩ := kept "type" (by decide)
      obtain ⟨inner, isInner⟩ := kept key (wayHoldsSteps key isKey).2
      obtain ⟨later, adjacent⟩ := inductionHypothesis inner
      rw [isBranch] at isType
      rw [isWay, Option.map_some, if_pos (wayHoldsSteps key isKey).1, identifySteps] at isInner
      rw [isFinal]
      exact ⟨later, .inside isType isKey isInner adjacent⟩

end Identity

/-! ### Reading -/

theorem itemsRead {item : Json} {rest : List Json} {origin : Shape.Origin} {steps : List Step}
    (done : Step.listOfItems origin (item :: rest) = .ok steps) :
    ∃ step further, Step.ofJson origin item = .ok step ∧
      Step.listOfItems origin rest = .ok further ∧ steps = step :: further := by
  rw [Step.listOfItems] at done
  split at done
  · cases done
  rename_i step isStep
  split at done
  · cases done
  rename_i further isRest
  cases done
  exact ⟨step, further, isStep, isRest, rfl⟩

/-- The steps on a way of a branch are among the lists in the branch that has been read. -/
theorem branchWayRead {members : List (String × Json)} {key : String} {items : List Json}
    {origin : Shape.Origin} {step : Step}
    (isBranch : Json.member? members "type" = some (.string "if_condition"))
    (isKey : key ∈ wayKeys) (isWay : Json.member? members key = some (.array items))
    (done : Step.ofJson origin (.object members) = .ok step) :
    ∃ steps ∈ step.lists, Step.listOfItems .setAside items = .ok steps := by
  have isType : Json.member? members "type" = some (.string StepType.ifCondition.tag) := isBranch
  obtain ⟨header, -, isStep⟩ := Step.typedRead isType done
  obtain ⟨condition, whenTrue, whenFalse, -, isTrue, isFalse, rfl⟩ := Step.branchRead isStep
  rcases List.mem_cons.mp isKey with rfl | isFalseKey
  · exact ⟨whenTrue, List.mem_cons_self, Step.wayRead isWay isTrue⟩
  · rw [List.mem_singleton.mp isFalseKey] at isWay
    exact ⟨whenFalse, List.mem_cons_of_mem _ List.mem_cons_self, Step.wayRead isWay isFalse⟩

/-- Steps that stand next to each other are read as such steps. -/
theorem adjacentRead {first second : Json} {items : List Json} {origin : Shape.Origin}
    {steps : List Step} (adjacent : Adjacent first second items)
    (done : Step.listOfItems origin items = .ok steps) :
    ∃ origin' one other, Step.ofJson origin' first = .ok one ∧
      Step.ofJson origin' second = .ok other ∧ Step.Neighbours one other steps := by
  induction adjacent generalizing origin steps with
  | @here rest =>
      obtain ⟨one, further, isOne, isRest, rfl⟩ := itemsRead done
      obtain ⟨other, others, isOther, -, rfl⟩ := itemsRead isRest
      exact ⟨origin, one, other, isOne, isOther, .here⟩
  | @later item rest _ inductionHypothesis =>
      obtain ⟨step, further, -, isRest, rfl⟩ := itemsRead done
      obtain ⟨origin', one, other, isOne, isOther, neighbours⟩ := inductionHypothesis isRest
      exact ⟨origin', one, other, isOne, isOther, .later neighbours⟩
  | @inside members key items rest isBranch isKey isWay _ inductionHypothesis =>
      obtain ⟨step, further, isStep, -, rfl⟩ := itemsRead done
      obtain ⟨inner, isList, isInner⟩ := branchWayRead isBranch isKey isWay isStep
      obtain ⟨origin', one, other, isOne, isOther, neighbours⟩ := inductionHypothesis isInner
      exact ⟨origin', one, other, isOne, isOther, .inside isList neighbours⟩

end DeskScript
