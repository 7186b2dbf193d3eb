/-
This file says which members the steps of an upgraded document have. No key is written twice, so
that the members can be looked up in the canonical form of a step.
-/

import DeskScript.Proofs.Document.Outline
import DeskScript.Proofs.Shape.Slots

namespace DeskScript

namespace Upgrade

open Shape (keysOfOption keysOfUnless)

/-! ### Keys -/

/-- Steps of every type have some of these keys, in this order. -/
def commonKeys : List String := ["id", "label", "enabled", "on_error", "retry_count"]

/-- Steps without steps in them have some of these keys, in this order. -/
def leafKeys : List String :=
  ["type", "x", "y", "button", "click_count", "duration_ms", "text", "interval_ms", "keys",
    "template_ref", "query_text", "timeout_ms", "exact_match", "confidence_threshold", "region",
    "click_on_match"]

/-- A probe has some of these keys, in this order. -/
def probeKeys : List String :=
  ["id", "label", "on_error", "output_variable", "timeout_ms", "type", "template_ref", "query_text",
    "exact_match", "confidence_threshold", "region"]

def branchKeys : List String := ["type", "condition", "true_branch", "false_branch"]

/-- The keys of an object are some keys in this order. -/
abbrev HasKeys (members : Members) (keys : List String) : Prop :=
  (members.map Prod.fst).Sublist keys

theorem HasKeys.append {first second : Members} {keys others : List String}
    (one : HasKeys first keys) (other : HasKeys second others) :
    HasKeys (first ++ second) (keys ++ others) := by
  rw [HasKeys, List.map_append]
  exact List.Sublist.append one other

/-- In front of some members there are further ones. -/
theorem HasKeys.behind {members : Members} {keys : List String} (has : HasKeys members keys)
    (front : Members) : HasKeys (front ++ members) (front.map Prod.fst ++ keys) :=
  .append (List.Sublist.refl _) has

theorem HasKeys.absent {members : Members} {keys : List String} (has : HasKeys members keys)
    {key : String} (unlisted : key ∉ keys) : Json.member? members key = none :=
  lookUpNone key members fun member => unlisted (has.subset member)

/-- Where no key is listed twice, members may be looked up in the canonical form. -/
theorem HasKeys.canonical {members : Members} {keys : List String} (has : HasKeys members keys)
    (distinct : keys.Nodup) (key : String) :
    Json.member? (Json.canonicalMembers [] members) key =
      (Json.member? members key).map Json.canonical :=
  Json.memberCanonical key members (has.nodup distinct)

theorem keysOfCommon (old : Members) (id : String) : HasKeys (common old id) commonKeys := by
  have ids : HasKeys (if id.isEmpty then [] else [("id", .string id)]) ["id"] :=
    keysOfUnless "id" _ _
  have label : HasKeys (if (textOr old "name" "").isEmpty then []
      else [("label", .string (textOr old "name" ""))]) ["label"] := keysOfUnless "label" _ _
  have enabled : HasKeys ((((Json.member? old "enabled").bind Json.bool?).map fun enabled =>
      ("enabled", Json.bool enabled)).toList) ["enabled"] := keysOfOption "enabled" .bool _
  have retryCount : HasKeys (if retries old = 0 then []
      else [("retry_count", .nat (retries old))]) ["retry_count"] := keysOfUnless "retry_count" _ _
  have handling : HasKeys [("on_error", .string
      (if textOr old "error_handling" "stop" = "continue" then "continue" else "stop"))]
      ["on_error"] := List.Sublist.refl _
  exact (((ids.append label).append enabled).append handling).append retryCount

theorem keysOfRegion {old members : Members} (read : region old = .ok members) :
    HasKeys members ["region"] := by
  rw [region] at read
  split at read
  · cases read
    exact List.nil_sublist _
  · cases read
    exact List.nil_sublist _
  · cases read
    exact List.Sublist.refl _
  · cases read

theorem keysOfClick (old : Members) : HasKeys (matchClick old) ["click_on_match"] := by
  rw [matchClick]
  split
  · exact List.Sublist.refl _
  · exact List.nil_sublist _

/-! ### Steps without steps in them -/

theorem pointMembers {old members read : Members} {type : String}
    (upgraded : (do checkOrigin old type; return read) = .ok members) : members = read := by
  obtain ⟨_, -, same⟩ := okOfBind upgraded
  cases same
  rfl

theorem regionMembers {old members : Members} {read : Members → Members}
    (upgraded : (do return read (← region old)) = .ok members) :
    ∃ more, HasKeys more ["region"] ∧ members = read more := by
  obtain ⟨more, isRegion, same⟩ := okOfBind upgraded
  cases same
  exact ⟨more, keysOfRegion isRegion, rfl⟩

/-- A step without steps in it has the counterpart of its type. -/
structure LeafMembers (type : String) (members : Members) : Prop where
  keys : HasKeys members leafKeys
  type : Json.member? members "type" = some (.string (Outline.counterpart type))

theorem leafMembers {id type : String} {old members : Members}
    (upgraded : leaf id type old = .ok members) : LeafMembers type members := by
  rw [leaf] at upgraded
  split at upgraded
  · rename_i isType
    rw [pointMembers upgraded, isType]
    exact ⟨show ["type", "x", "y", "button", "click_count"].Sublist leafKeys by decide, rfl⟩
  split at upgraded
  · rename_i isType
    rw [pointMembers upgraded, isType]
    exact ⟨show ["type", "x", "y", "duration_ms"].Sublist leafKeys by decide, rfl⟩
  split at upgraded
  · rename_i isType
    cases upgraded
    rw [isType]
    exact ⟨show ["type", "text", "interval_ms"].Sublist leafKeys by decide, rfl⟩
  split at upgraded
  · rename_i isType
    cases upgraded
    rw [isType]
    exact ⟨show ["type", "keys"].Sublist leafKeys by decide, rfl⟩
  split at upgraded
  · rename_i isType
    cases upgraded
    rw [isType]
    exact ⟨show ["type", "duration_ms"].Sublist leafKeys by decide, rfl⟩
  split at upgraded
  · rename_i isType
    obtain ⟨more, keys, rfl⟩ := regionMembers upgraded
    rw [isType]
    exact ⟨(keys.behind _).trans (show ["type", "template_ref", "timeout_ms",
      "confidence_threshold", "region"].Sublist leafKeys by decide), rfl⟩
  split at upgraded
  · rename_i isType
    obtain ⟨more, keys, rfl⟩ := regionMembers upgraded
    rw [isType]
    exact ⟨((keys.behind _).append (keysOfClick old)).trans (show ["type", "query_text",
      "timeout_ms", "exact_match", "confidence_threshold", "region", "click_on_match"].Sublist
        leafKeys by decide), rfl⟩
  split at upgraded <;> cases upgraded

/-! ### Branches -/

/-- These are the members of an upgraded branch. -/
def branchMembers (old : Members) (id : String) (condition : Json)
    (whenTrue whenFalse : List Json) : Members :=
  common old id ++ [("type", .string "if_condition"), ("condition", condition),
    ("true_branch", .array whenTrue), ("false_branch", .array whenFalse)]

theorem keysOfBranch (old : Members) (id : String) (condition : Json)
    (whenTrue whenFalse : List Json) :
    HasKeys (branchMembers old id condition whenTrue whenFalse) (commonKeys ++ branchKeys) :=
  (keysOfCommon old id).append (List.Sublist.refl branchKeys)

/-! ### Conditions -/

/-- A probe has the identity of its step with an ending, and an output variable. -/
structure ProbeMembers (stepId probeType : String) (members : Members) : Prop where
  keys : HasKeys members probeKeys
  id : Json.member? members "id" = some (.string (stepId ++ "-probe"))
  type : Json.member? members "type" = some (.string probeType)
  output : Json.member? members "output_variable" = some (.string (probeName stepId))

/-- This condition asks whether the output variable of a probe has a value. -/
def probeCondition (stepId : String) : Json :=
  .object [("left", .string (placeholder (probeName stepId))), ("operator", .string "exists")]

/-- A condition on the screen has one probe, and other conditions have none. -/
inductive Probes (stepId : String) : Option String → UpgradedCondition → Prop where
  | nothing {condition : Json} : Probes stepId none ⟨[], condition⟩
  | probe {probeType : String} {members : Members}
      (isProbe : ProbeMembers stepId probeType members) :
      Probes stepId (some probeType) ⟨[.object members], probeCondition stepId⟩

/-- The parts of a probe that depend on its type have some of these keys, in this order. -/
def probeOwnKeys : List String :=
  ["type", "template_ref", "query_text", "exact_match", "confidence_threshold"]

theorem keysOfImageProbe (old : Members) : HasKeys (imageProbe old) probeOwnKeys :=
  show ["type", "template_ref", "confidence_threshold"].Sublist probeOwnKeys by decide

theorem keysOfTextProbe (old : Members) : HasKeys (textProbe old) probeOwnKeys :=
  show ["type", "query_text", "exact_match", "confidence_threshold"].Sublist probeOwnKeys by decide

theorem probeUpgraded {stepId conditionType probeType : String} {own old : Members}
    {result : UpgradedCondition} (keys : HasKeys own probeOwnKeys)
    (isType : Json.member? own "type" = some (.string probeType))
    (upgraded : probe stepId conditionType own old = .ok result) :
    Probes stepId (some probeType) result := by
  obtain ⟨more, isRegion, same⟩ := okOfBind upgraded
  cases same
  rw [List.append_assoc]
  have typeFound : Json.member? (own ++ more) "type" = some (.string probeType) := by
    rw [Json.member?, lookUpAppend, ← Json.member?, isType]
    rfl
  exact .probe ⟨(keys.append (keysOfRegion isRegion)).behind _, rfl, typeFound, rfl⟩

theorem comparisonUpgraded {stepId operator : String} {old : Members} {result : UpgradedCondition}
    (upgraded : comparison stepId operator old = .ok result) : Probes stepId none result := by
  rw [comparison] at upgraded
  split at upgraded
  · cases upgraded
  · cases upgraded
    exact .nothing

def variableConditions : List String :=
  ["variable_equals", "variable_contains", "variable_greater", "variable_less"]

def screenConditions : List String := ["image_exists", "text_exists"]

/-- A condition compares a variable or has a probe look at the screen. -/
inductive ConditionParts (stepId : String) (old : Members) (result : UpgradedCondition) : Prop where
  | compares (operator : String)
      (isType : textOr old "condition_type" "image_exists" ∈ variableConditions)
      (unprobed : Outline.probeType old = none)
      (done : comparison stepId operator (objectOf old "condition_value") = .ok result)
  | looks (type probeType : String) (own : Members)
      (isType : textOr old "condition_type" "image_exists" ∈ screenConditions)
      (probed : Outline.probeType old = some probeType) (keys : HasKeys own probeOwnKeys)
      (ownType : Json.member? own "type" = some (.string probeType))
      (done : probe stepId type own (objectOf old "condition_value") = .ok result)

theorem conditionParts {stepId : String} {old : Members} {result : UpgradedCondition}
    (isBranch : textOr old "step_type" "" = "if_condition")
    (done : condition stepId old = .ok result) : ConditionParts stepId old result := by
  have compared {operator type : String}
      (isType : textOr old "condition_type" "image_exists" = type)
      (isVariable : type ∈ variableConditions)
      (done : comparison stepId operator (objectOf old "condition_value") = .ok result) :
      ConditionParts stepId old result := by
    have offScreen : ∀ type ∈ variableConditions, type ≠ "image_exists" ∧ type ≠ "text_exists" := by
      decide
    refine .compares operator (isType ▸ isVariable) ?_ done
    rw [Outline.probeType, if_pos isBranch, isType]
    simp only [if_neg (offScreen type isVariable).1, if_neg (offScreen type isVariable).2]
  rw [condition] at done
  split at done
  · exact compared ‹_› (by decide) done
  split at done
  · exact compared ‹_› (by decide) done
  split at done
  · exact compared ‹_› (by decide) done
  split at done
  · exact compared ‹_› (by decide) done
  split at done
  · rename_i isType
    refine .looks _ "wait_image" _ (by rw [isType]; decide) ?_ (keysOfImageProbe _) rfl done
    rw [Outline.probeType, if_pos isBranch, isType]
    rfl
  split at done
  · rename_i isType
    refine .looks _ "text_search" _ (by rw [isType]; decide) ?_ (keysOfTextProbe _) rfl done
    rw [Outline.probeType, if_pos isBranch, isType]
    rfl
  · cases done

theorem conditionUpgraded {stepId : String} {old : Members} {result : UpgradedCondition}
    (isBranch : textOr old "step_type" "" = "if_condition")
    (done : condition stepId old = .ok result) :
    Probes stepId (Outline.probeType old) result := by
  cases conditionParts isBranch done with
  | compares operator isType unprobed done =>
      rw [unprobed]
      exact comparisonUpgraded done
  | looks type probeType own isType probed keys ownType done =>
      rw [probed]
      exact probeUpgraded keys ownType done

end Upgrade

end DeskScript
