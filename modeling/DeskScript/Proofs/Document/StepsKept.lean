/-
This file shows that no document is upgraded without one of its steps. A step that cannot be
upgraded is a fault, wherever it is.
-/

import DeskScript.Proofs.Document.UpgradedOutline

namespace DeskScript

namespace Upgrade

/-! ### Steps without a counterpart -/

/-- Steps of these types have a counterpart. A loop names its steps, and is not among them. -/
def stepTypes : List String :=
  ["mouse_click", "mouse_move", "keyboard_type", "keyboard_hotkey", "wait_time", "wait_image",
    "ocr_text", "if_condition"]

/-- A region is left out or a list of four values. -/
def RegionReadable (old : Members) : Prop :=
  ∀ found, Json.member? old "region" = some found →
    found = .null ∨ ∃ x y width height, found = .array [x, y, width, height]

/-- A condition has an unknown type, compares a variable without a name, or looks at no region. -/
inductive Unmappable (old : Members) : Prop where
  | unknown (unlisted : textOr old "condition_type" "image_exists" ∉
      variableConditions ++ screenConditions)
  | unnamed (isType : textOr old "condition_type" "image_exists" ∈ variableConditions)
      (noName : textOr (objectOf old "condition_value") "variable" "" = "")
  | unseen (isType : textOr old "condition_type" "image_exists" ∈ screenConditions)
      (unreadable : ¬RegionReadable (objectOf old "condition_value"))

/-- A faulty step has no counterpart. -/
inductive Faulty : Json → Prop where
  | shape {found : Json} (noObject : ∀ members, found ≠ .object members) : Faulty found
  | untyped {members : Members}
      (missing : (Json.member? members "step_type").bind Json.text? = none) :
      Faulty (.object members)
  | type {members : Members} (unknown : textOr members "step_type" "" ∉ stepTypes) :
      Faulty (.object members)
  | pointer {members : Members}
      (isPointer : textOr members "step_type" "" ∈ ["mouse_click", "mouse_move"])
      (origin : textOr members "relative_to" "screen" ≠ "screen") : Faulty (.object members)
  | condition {members : Members} (isBranch : textOr members "step_type" "" = "if_condition")
      (unmappable : Unmappable members) : Faulty (.object members)

/-- A step occurs in a list of steps, or on a way of a branch in it. -/
inductive Occurs (found : Json) : List Json → Prop where
  | here {items : List Json} (member : found ∈ items) : Occurs found items
  | inside {items inner : List Json} {members : Members} {key : String}
      (member : .object members ∈ items)
      (isBranch : textOr members "step_type" "" = "if_condition")
      (isKey : key ∈ ["true_steps", "false_steps"])
      (isWay : Json.member? members key = some (.array inner)) (occurs : Occurs found inner) :
      Occurs found items

theorem regionRead {old members : Members} (read : region old = .ok members) :
    RegionReadable old := by
  intro found isRegion
  rw [region, isRegion] at read
  split at read
  · rename_i absent
    cases absent
  · rename_i isNull
    cases isNull
    exact .inl rfl
  · rename_i x y width height isList
    cases isList
    exact .inr ⟨x, y, width, height, rfl⟩
  · cases read

theorem conditionMappable {id : String} {old : Members} {result : UpgradedCondition}
    (isBranch : textOr old "step_type" "" = "if_condition")
    (done : condition id old = .ok result) : ¬Unmappable old := by
  have apart : ∀ type ∈ variableConditions, type ∉ screenConditions := by decide
  intro unmappable
  cases conditionParts isBranch done with
  | compares operator isType unprobed done =>
      cases unmappable with
      | unknown unlisted => exact unlisted (List.mem_append_left _ isType)
      | unnamed _ noName =>
          rw [comparison, noName] at done
          cases done
      | unseen onScreen => exact apart _ isType onScreen
  | looks type probeType own isType probed keys ownType done =>
      cases unmappable with
      | unknown unlisted => exact unlisted (List.mem_append_right _ isType)
      | unnamed compared => exact apart _ compared isType
      | unseen _ unreadable =>
          obtain ⟨more, isRegion, -⟩ := okOfBind done
          exact unreadable (regionRead isRegion)

theorem originChecked {old members read : Members} {type : String}
    (done : (do checkOrigin old type; return read) = .ok members) :
    textOr old "relative_to" "screen" = "screen" := by
  obtain ⟨_, checked, -⟩ := okOfBind done
  rw [checkOrigin] at checked
  split at checked
  · assumption
  · cases checked

/-- A step that is upgraded has a known type, and a pointer goes to a point on the screen. -/
theorem leafKnown {id type : String} {old members : Members}
    (done : leaf id type old = .ok members) :
    type ∈ stepTypes ∧
      (type ∈ ["mouse_click", "mouse_move"] → textOr old "relative_to" "screen" = "screen") := by
  rw [leaf] at done
  split at done
  · rename_i isType
    exact ⟨by rw [isType]; decide, fun _ => originChecked done⟩
  split at done
  · rename_i isType
    exact ⟨by rw [isType]; decide, fun _ => originChecked done⟩
  rename_i noClick noMove
  have noPointer : type ∉ ["mouse_click", "mouse_move"] := by simp [noClick, noMove]
  refine ⟨?_, fun isPointer => absurd isPointer noPointer⟩
  repeat
    split at done
    · rename_i isType
      rw [isType]
      decide
  split at done <;> cases done

/-! ### Faults -/

theorem stepNotFaulty {found : Json} {upgraded : List Json} (done : step found = .ok upgraded) :
    ¬Faulty found := by
  intro faulty
  cases found with
  | object members =>
      cases faulty with
      | shape noObject => exact noObject members rfl
      | untyped missing =>
          rw [step, stepOfMembers, missing] at done
          cases done
      | type unknown =>
          cases stepParts done with
          | branch isBranch => exact unknown (by rw [isBranch]; decide)
          | leaf _ isOwn => exact unknown (leafKnown isOwn).1
      | pointer isPointer origin =>
          cases stepParts done with
          | branch isBranch => exact absurd isPointer (by rw [isBranch]; decide)
          | leaf _ isOwn => exact origin ((leafKnown isOwn).2 isPointer)
      | condition isBranch unmappable =>
          cases stepParts done with
          | branch _ _ _ isCondition => exact conditionMappable isBranch isCondition unmappable
          | leaf isLeaf => exact isLeaf isBranch
  | _ => cases done

/-- The steps on a way of a branch are upgraded when the branch is. -/
theorem wayUpgraded {members : Members} {upgraded inner : List Json} {key : String}
    (isBranch : textOr members "step_type" "" = "if_condition")
    (isKey : key ∈ ["true_steps", "false_steps"])
    (isWay : Json.member? members key = some (.array inner))
    (done : step (.object members) = .ok upgraded) : ∃ news, stepItems inner = .ok news := by
  obtain ⟨whenTrue, whenFalse, result, isTrue, isFalse, -, -⟩ := branchUpgraded isBranch done
  have way {news : List Json} (isNews : branchOf (branchesOf members) key = .ok news) :
      ∃ news, stepItems inner = .ok news := by
    rw [branchOfMember, isWay] at isNews
    exact ⟨news, isNews⟩
  rcases List.mem_pair.mp isKey with isTrueKey | isFalseKey
  · exact way (isTrueKey ▸ isTrue)
  · exact way (isFalseKey ▸ isFalse)

/-- No list with a faulty step in it is upgraded. -/
theorem itemsNotFaulty {found : Json} {items : List Json} (occurs : Occurs found items)
    (faulty : Faulty found) (upgraded : List Json) : stepItems items ≠ .ok upgraded := by
  induction occurs generalizing upgraded with
  | here member =>
      intro done
      obtain ⟨_, news, _, isStep, -⟩ := stepItemsParts done member
      exact stepNotFaulty isStep faulty
  | inside member isBranch isKey isWay _ inductionHypothesis =>
      intro done
      obtain ⟨_, news, _, isStep, -⟩ := stepItemsParts done member
      obtain ⟨inner, isInner⟩ := wayUpgraded isBranch isKey isWay isStep
      exact inductionHypothesis inner isInner

/-! ### Documents -/

/-- A step occurs in the body of a document. -/
def OccursIn (found body : Json) : Prop :=
  ∃ members items, body = .object members ∧ Json.member? members "steps" = some (.array items) ∧
    Occurs found items

/-- These are the keys of the body of an upgraded document, in this order. -/
def scriptKeys : List String :=
  ["id", "name", "description", "created_at", "updated_at", "steps", "variables", "metadata"]

theorem aroundSteps {now : Time.Timestamp} {old : Members} {news : List Json} {upgraded : Json}
    (done : scriptAround now old news = .ok upgraded) :
    ∃ members, upgraded = (Json.object members).canonical ∧ HasKeys members scriptKeys ∧
      Json.member? members "steps" = some (.array news) := by
  obtain ⟨createdAt, isCreated, done⟩ := okOfBind done
  obtain ⟨updatedAt, isUpdated, done⟩ := okOfBind done
  cases done
  have identity : HasKeys (((Json.member? old "macro_id").bind Json.text?).map fun id =>
      ("id", Json.string id)).toList ["id"] := Shape.keysOfOption "id" Json.string _
  refine ⟨_, rfl, identity.append (List.Sublist.refl (scriptKeys.drop 1)), ?_⟩
  cases (Json.member? old "macro_id").bind Json.text? <;> rfl

/-- The steps of a document are upgraded when the document is. -/
theorem scriptParts {now : Time.Timestamp} {old : Members} {upgraded : Json}
    (done : script now (.object old) = .ok upgraded) :
    ∃ news, scriptSteps old = .ok news ∧ scriptAround now old news = .ok upgraded :=
  okOfBind done

/-- The steps of a document are upgraded as a list, and none are upgraded where it is missing. -/
theorem scriptStepsParts {old : Members} {news : List Json} (done : scriptSteps old = .ok news) :
    (Json.member? old "steps" = none ∧ news = []) ∨
      ∃ given, Json.member? old "steps" = some given ∧ steps "steps" given = .ok news := by
  rw [scriptSteps] at done
  cases isGiven : Json.member? old "steps" with
  | none =>
      rw [isGiven] at done
      cases done
      exact .inl ⟨rfl, rfl⟩
  | some given =>
      rw [isGiven] at done
      exact .inr ⟨given, rfl, done⟩

theorem scriptOutline {now : Time.Timestamp} {body upgraded : Json}
    (done : script now body = .ok upgraded) :
    Outline.ofBody Outline.new upgraded = Outline.probedAll (Outline.ofBody Outline.old body) := by
  cases body with
  | object old =>
      obtain ⟨news, isSteps, isAround⟩ := scriptParts done
      obtain ⟨members, rfl, keys, found⟩ := aroundSteps isAround
      have outline : outlinesOf news =
          Outline.probedAll (Outline.ofBody Outline.old (.object old)) := by
        rw [Outline.ofBody]
        rcases scriptStepsParts isSteps with ⟨missing, rfl⟩ | ⟨given, isGiven, isNews⟩
        · rw [missing]
          rfl
        · rw [isGiven]
          exact stepsOutline "steps" given news isNews
      rw [← outline, Json.canonical, Outline.ofBody, keys.canonical (by decide), found]
      rfl
  | _ => cases done

theorem scriptNotFaulty {now : Time.Timestamp} {found body upgraded : Json}
    (occurs : OccursIn found body) (faulty : Faulty found) :
    script now body ≠ .ok upgraded := by
  obtain ⟨members, items, rfl, isMember, occurs⟩ := occurs
  intro done
  obtain ⟨news, isSteps, -⟩ := scriptParts done
  rw [scriptSteps, isMember] at isSteps
  exact itemsNotFaulty occurs faulty news isSteps

/--
The upgraded document has the steps of the old one, each with its identity and the counterpart of
its type, and one probe right before every condition on the screen. A document with a step that has
no counterpart is not upgraded.
-/
theorem stepsKept (now : Time.Timestamp) (body : Json) :
    (∀ upgraded, script now body = .ok upgraded →
      Outline.ofBody Outline.new upgraded = Outline.probedAll (Outline.ofBody Outline.old body) ∧
      Outline.unprobedAll (Outline.ofBody Outline.new upgraded) =
        Outline.plainAll (Outline.ofBody Outline.old body)) ∧
    ∀ found, OccursIn found body → Faulty found → ∃ fault, script now body = .error fault := by
  constructor
  · intro upgraded done
    have outline := scriptOutline done
    rw [outline]
    exact ⟨rfl, Outline.unprobedAllProbed _⟩
  · intro found occurs faulty
    cases isResult : script now body with
    | error fault => exact ⟨fault, rfl⟩
    | ok upgraded => exact absurd isResult (scriptNotFaulty occurs faulty)

def oldStep (id type : String) (more : Members) : Json :=
  .object ([("step_id", .string id), ("step_type", .string type)] ++ more)

/-- This document looks for a text, and for a picture when it finds none. -/
def watcher (last : Json) : Json :=
  .object [("steps", .array [oldStep "text" "if_condition"
    [("condition_type", .string "text_exists"),
      ("true_steps", .array [oldStep "pause" "wait_time" []]),
      ("false_steps", .array [oldStep "picture" "if_condition"
        [("false_steps", .array [last])]])]])]

theorem stepsKeptWatcher :
    (∃ upgraded, script .epoch (watcher (oldStep "search" "ocr_text" [])) = .ok upgraded ∧
      Outline.ofBody Outline.new upgraded =
        [.step "text-probe" "text_search" true [] [],
          .step "text" "if_condition" false
            [.step "pause" "wait_time" false [] []]
            [.step "picture-probe" "wait_image" true [] [],
              .step "picture" "if_condition" false []
                [.step "search" "text_search" false [] []]]] ∧
      Outline.unprobedAll (Outline.ofBody Outline.new upgraded) =
        [.step "text" "if_condition" () [.step "pause" "wait_time" () [] []]
          [.step "picture" "if_condition" () [] [.step "search" "text_search" () [] []]]]) ∧
      ∃ fault, script .epoch (watcher (oldStep "again" "loop" [])) = .error fault := by
  constructor
  · have kept := (stepsKept .epoch (watcher (oldStep "search" "ocr_text" []))).1 _ rfl
    exact ⟨_, rfl, kept.1, kept.2⟩
  · refine (stepsKept .epoch (watcher (oldStep "again" "loop" []))).2
      (oldStep "again" "loop" []) ⟨_, _, rfl, rfl, ?_⟩ (.type (by decide))
    refine .inside List.mem_cons_self rfl (by decide : "false_steps" ∈ _) rfl ?_
    refine .inside List.mem_cons_self rfl (by decide : "false_steps" ∈ _) rfl ?_
    exact .here List.mem_cons_self

end Upgrade

end DeskScript
