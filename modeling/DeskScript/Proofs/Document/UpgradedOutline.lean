/-
This file shows that an upgrade keeps every step of a document where it was. Nothing is added but
one probe right before each condition on the screen.
-/

import DeskScript.Proofs.Document.UpgradedMembers

namespace DeskScript

namespace Upgrade

open Shape (keysOfOption keysOfUnless)

/-! ### Common members -/

/-- The members that depend on the type of a step are found behind the common ones. -/
theorem memberBehindCommon (old more : Members) (id : String) {key : String}
    (uncommon : key ∉ commonKeys) :
    Json.member? (common old id ++ more) key = Json.member? more key := by
  rw [Json.member?, lookUpAppend, ← Json.member?, (keysOfCommon old id).absent uncommon]
  rfl

theorem textBehindCommon (old more : Members) (id fallback : String) {key : String}
    (uncommon : key ∉ commonKeys) :
    textOr (common old id ++ more) key fallback = textOr more key fallback := by
  rw [textOr, textOr, memberBehindCommon old more id uncommon]

/-- An identity that is empty is left out. -/
theorem identityMember (old more : Members) (id : String)
    (unnamed : Json.member? more "id" = none) :
    Json.member? (common old id ++ more) "id" =
      if id.isEmpty then none else some (.string id) := by
  have absent {members : Members} {key : String} (has : HasKeys members [key])
      (other : "id" ∉ [key]) : lookUp? "id" members = none := has.absent other
  rw [Json.member?] at unnamed
  simp only [common, Json.member?, lookUpAppend]
  rw [absent (keysOfUnless "label" _ _) (by decide),
    absent (keysOfOption "enabled" .bool _) (by decide),
    absent (keysOfUnless "retry_count" _ _) (by decide), unnamed]
  split <;> rfl

/-- An identity is kept, and it stays away where there was none. -/
theorem identityKept (old more : Members) (id : String) (unnamed : Json.member? more "id" = none) :
    textOr (common old id ++ more) "id" "" = id := by
  rw [textOr, identityMember old more id unnamed]
  split
  · rename_i isEmpty
    exact (String.isEmpty_iff.mp isEmpty).symm
  · rfl

/-! ### Outlines of new objects -/

/-- A new list is read from its canonical form. -/
def outlinesOf (items : List Json) : List (Outline Bool) :=
  Outline.new.readItems (Json.canonicalItems items)

theorem outlinesAppend (first second : List Json) :
    outlinesOf (first ++ second) = outlinesOf first ++ outlinesOf second := by
  rw [outlinesOf, outlinesOf, outlinesOf, Json.canonicalItemsMap, Json.canonicalItemsMap,
    Json.canonicalItemsMap, List.map_append, Outline.Reader.readItemsAppend]

/-- These are the outlines on a way of a new branch. -/
def wayOf (members : Members) (key : String) : List (Outline Bool) :=
  if textOr members "type" "" = "if_condition" then
    ((Json.member? members key).map fun found => Outline.new.readList found.canonical).getD []
  else []

/-- Whether a new object is canonical makes no difference to its outline. -/
theorem outlineOfObject {members : Members} {keys : List String} (has : HasKeys members keys)
    (distinct : keys.Nodup) :
    outlinesOf [.object members] =
      [.step (textOr members "id" "") (textOr members "type" "")
        (Json.member? members "output_variable").isSome
        (wayOf members "true_branch") (wayOf members "false_branch")] := by
  have found (key : String) : Json.member? (Json.canonicalMembers [] members) key =
      (Json.member? members key).map Json.canonical := has.canonical distinct key
  have text (key : String) : textOr (Json.canonicalMembers [] members) key "" =
      textOr members key "" := by
    rw [textOr, textOr, found]
    cases Json.member? members key with
    | none => rfl
    | some item => cases item <;> rfl
  have way (key : String) : Outline.new.way (Json.canonicalMembers [] members)
      (Outline.new.readMembers (Json.canonicalMembers [] members)) key = wayOf members key := by
    have type : Outline.new.type (Json.canonicalMembers [] members) = textOr members "type" "" :=
      text "type"
    rw [Outline.Reader.way, wayOf, Outline.Reader.lookUpMembers, found, type, Option.map_map]
    rfl
  have mark : Outline.new.mark (Json.canonicalMembers [] members) =
      (Json.member? members "output_variable").isSome := by
    show (Json.member? _ _).isSome = _
    rw [found, Option.isSome_map]
  rw [outlinesOf, Json.canonicalItems, Json.canonical, Outline.Reader.readItems,
    Outline.Reader.read, way, way, mark]
  exact congrArg₂ (fun id type => [Outline.step id type _ _ _]) (text "id") (text "type")

theorem wayOfLeaf {members : Members} (key : String)
    (isLeaf : textOr members "type" "" ≠ "if_condition") : wayOf members key = [] :=
  if_neg isLeaf

/-- There is a probe where a condition on the screen was. -/
def probeOutline (id : String) (mark : Option String) : List (Outline Bool) :=
  (mark.map fun type => .step (id ++ "-probe") type true [] []).toList

theorem outlineOfProbe {id : String} {mark : Option String} {result : UpgradedCondition}
    (probes : Probes id mark result) (isLeaf : mark ≠ some "if_condition") :
    outlinesOf result.probe = probeOutline id mark := by
  cases probes with
  | nothing => rfl
  | @probe type members isProbe =>
      have isType : textOr members "type" "" = type := by
        rw [textOr, isProbe.type]
        rfl
      have isId : textOr members "id" "" = id ++ "-probe" := by
        rw [textOr, isProbe.id]
        rfl
      have notBranch : textOr members "type" "" ≠ "if_condition" := fun equal =>
        isLeaf (congrArg some (isType.symm.trans equal))
      rw [outlineOfObject isProbe.keys (by decide), wayOfLeaf _ notBranch, wayOfLeaf _ notBranch,
        isType, isId, isProbe.output]
      rfl

theorem outlineOfLeaf {type id : String} {old members : Members}
    (isLeaf : Outline.counterpart type ≠ "if_condition") (leaf : LeafMembers type members) :
    outlinesOf [.object (common old id ++ members)] =
      [Outline.step id (Outline.counterpart type) false [] []] := by
  have isType : textOr (common old id ++ members) "type" "" = Outline.counterpart type := by
    rw [textBehindCommon old members id "" (by decide), textOr, leaf.type]
    rfl
  have notBranch : textOr (common old id ++ members) "type" "" ≠ "if_condition" := fun equal =>
    isLeaf (isType.symm.trans equal)
  rw [outlineOfObject ((keysOfCommon old id).append leaf.keys) (by decide),
    wayOfLeaf _ notBranch, wayOfLeaf _ notBranch, isType,
    identityKept old members id (leaf.keys.absent (by decide)),
    memberBehindCommon old members id (by decide), leaf.keys.absent (by decide)]
  rfl

theorem outlineOfBranch (old : Members) (id : String) (condition : Json)
    (whenTrue whenFalse : List Json) :
    outlinesOf [.object (branchMembers old id condition whenTrue whenFalse)] =
      [Outline.step id "if_condition" false (outlinesOf whenTrue) (outlinesOf whenFalse)] := by
  have own {key : String} (uncommon : key ∉ commonKeys) :
      Json.member? (branchMembers old id condition whenTrue whenFalse) key = _ :=
    memberBehindCommon old _ id uncommon
  have isType : textOr (branchMembers old id condition whenTrue whenFalse) "type" "" =
      "if_condition" := by
    rw [textOr, own (by decide)]
    rfl
  have way {key : String} {items : List Json}
      (found : Json.member? (branchMembers old id condition whenTrue whenFalse) key =
        some (.array items)) :
      wayOf (branchMembers old id condition whenTrue whenFalse) key = outlinesOf items := by
    rw [wayOf, if_pos isType, found]
    rfl
  have isId : textOr (branchMembers old id condition whenTrue whenFalse) "id" "" = id :=
    identityKept old _ id rfl
  rw [outlineOfObject (keysOfBranch old id condition whenTrue whenFalse) (by decide), isType, isId,
    way (own (by decide)), way (own (by decide)), own (by decide)]
  rfl

/-! ### Trees of steps -/

theorem counterpartBranch {type : String} :
    Outline.counterpart type = "if_condition" ↔ type = "if_condition" := by
  rw [Outline.counterpart]
  split
  · rename_i isSearch
    rw [isSearch]
    decide
  · exact Iff.rfl

theorem probeTypeLeaf (old : Members) : Outline.probeType old ≠ some "if_condition" := by
  rw [Outline.probeType]
  split
  · dsimp only
    split
    · decide
    split <;> decide
  · decide

/-- The list of steps under a key is upgraded, and a missing one is empty. -/
theorem branchOfMember (members : Members) (key : String) :
    branchOf (branchesOf members) key =
      ((Json.member? members key).map (steps key)).getD (.ok []) := by
  induction members with
  | nil => rfl
  | cons head rest inductionHypothesis =>
      obtain ⟨first, found⟩ := head
      rw [branchOf, branchesOf, List.lookup_cons, Json.member?, lookUp?]
      by_cases same : key = first
      · rw [if_pos same, same, beq_self_eq_true]
        rfl
      · rw [if_neg same, beq_false_of_ne same]
        exact inductionHypothesis

/-- A branch is upgraded when both its ways and its condition are. -/
theorem ifConditionParts {id : String} {old : Members} {branches : Branches}
    {upgraded : List Json} (done : ifCondition id old branches = .ok upgraded) :
    ∃ whenTrue whenFalse result, branchOf branches "true_steps" = .ok whenTrue ∧
      branchOf branches "false_steps" = .ok whenFalse ∧ condition id old = .ok result ∧
      upgraded = result.probe ++
        [.object (branchMembers old id result.condition whenTrue whenFalse)] := by
  obtain ⟨whenTrue, isTrue, done⟩ := okOfBind done
  obtain ⟨whenFalse, isFalse, done⟩ := okOfBind done
  obtain ⟨result, isCondition, done⟩ := okOfBind done
  cases done
  exact ⟨whenTrue, whenFalse, result, isTrue, isFalse, isCondition, rfl⟩

/-- A step that is upgraded is a branch, or it is a step without steps in it. -/
inductive StepParts (old : Members) : List Json → Prop where
  | branch {whenTrue whenFalse : List Json} {result : UpgradedCondition}
      (isBranch : textOr old "step_type" "" = "if_condition")
      (isTrue : branchOf (branchesOf old) "true_steps" = .ok whenTrue)
      (isFalse : branchOf (branchesOf old) "false_steps" = .ok whenFalse)
      (isCondition : condition (textOr old "step_id" "") old = .ok result) :
      StepParts old (result.probe ++ [.object (branchMembers old (textOr old "step_id" "")
        result.condition whenTrue whenFalse)])
  | leaf {own : Members} (isLeaf : textOr old "step_type" "" ≠ "if_condition")
      (isOwn : leaf (textOr old "step_id" "") (textOr old "step_type" "") old = .ok own) :
      StepParts old [.object (common old (textOr old "step_id" "") ++ own)]

theorem stepParts {old : Members} {upgraded : List Json}
    (done : step (.object old) = .ok upgraded) : StepParts old upgraded := by
  rw [step, stepOfMembers] at done
  split at done
  · cases done
  rename_i type isType
  have typeRead : type = textOr old "step_type" "" := by
    rw [textOr, isType]
    rfl
  rw [typeRead] at done
  split at done
  · rename_i isBranch
    obtain ⟨whenTrue, whenFalse, result, isTrue, isFalse, isCondition, rfl⟩ :=
      ifConditionParts done
    exact .branch isBranch isTrue isFalse isCondition
  · rename_i isLeaf
    obtain ⟨own, isOwn, rfl⟩ := okOfMap done
    exact .leaf isLeaf isOwn

theorem branchUpgraded {old : Members} {upgraded : List Json}
    (isBranch : textOr old "step_type" "" = "if_condition")
    (done : step (.object old) = .ok upgraded) :
    ∃ whenTrue whenFalse result, branchOf (branchesOf old) "true_steps" = .ok whenTrue ∧
      branchOf (branchesOf old) "false_steps" = .ok whenFalse ∧
      condition (textOr old "step_id" "") old = .ok result ∧
      upgraded = result.probe ++ [.object (branchMembers old (textOr old "step_id" "")
        result.condition whenTrue whenFalse)] := by
  cases stepParts done with
  | branch _ isTrue isFalse isCondition =>
      exact ⟨_, _, _, isTrue, isFalse, isCondition, rfl⟩
  | leaf isLeaf => exact absurd isBranch isLeaf

/-- Every step of a list is upgraded when the list is, and stays where it was. -/
theorem stepItemsParts {items upgraded : List Json} (done : stepItems items = .ok upgraded)
    {item : Json} (member : item ∈ items) :
    ∃ front news back, step item = .ok news ∧ upgraded = front ++ (news ++ back) := by
  induction items generalizing upgraded with
  | nil => exact absurd member List.not_mem_nil
  | cons head rest inductionHypothesis =>
      rw [stepItems] at done
      split at done
      · cases done
      rename_i first isFirst
      split at done
      · cases done
      rename_i others isRest
      cases done
      rcases List.mem_cons.mp member with same | behind
      · exact ⟨[], first, others, same ▸ isFirst, rfl⟩
      · obtain ⟨front, news, back, isNews, rfl⟩ := inductionHypothesis isRest behind
        exact ⟨first ++ front, news, back, isNews, (List.append_assoc _ _ _).symm⟩

mutual

theorem stepOutline : ∀ (item : Json) (upgraded : List Json), step item = .ok upgraded →
    outlinesOf upgraded = Outline.probed (Outline.old.read item)
  | .object members, upgraded, done => by
      have ways := waysOutline members
      cases stepParts done with
      | branch isBranch isTrue isFalse isCondition =>
          have oldType : Outline.old.type members = "if_condition" :=
            counterpartBranch.mpr isBranch
          rw [outlinesAppend, outlineOfBranch,
            outlineOfProbe (conditionUpgraded isBranch isCondition) (probeTypeLeaf members),
            ways _ _ isTrue, ways _ _ isFalse, Outline.Reader.read, Outline.probed,
            Outline.Reader.way, Outline.Reader.way, if_pos oldType, if_pos oldType, oldType]
          rfl
      | leaf isLeaf isOwn =>
          have notBranch : Outline.old.type members ≠ "if_condition" := fun equal =>
            isLeaf (counterpartBranch.mp equal)
          have unprobed : Outline.old.mark members = none := if_neg isLeaf
          rw [outlineOfLeaf notBranch (leafMembers isOwn), Outline.Reader.read, Outline.probed,
            Outline.Reader.way, Outline.Reader.way, if_neg notBranch, if_neg notBranch, unprobed]
          rfl
  | .null, _, done => nomatch done
  | .bool _, _, done => nomatch done
  | .number _, _, done => nomatch done
  | .string _, _, done => nomatch done
  | .array _, _, done => nomatch done

/-- Every list of steps in a step is upgraded as a whole. -/
theorem waysOutline : ∀ (members : Members) (key : String) (upgraded : List Json),
    branchOf (branchesOf members) key = .ok upgraded →
    outlinesOf upgraded =
      Outline.probedAll ((lookUp? key (Outline.old.readMembers members)).getD [])
  | [], _, _, done => by
      cases done
      rfl
  | (first, found) :: rest, key, upgraded, done => by
      have here := stepsOutline first found upgraded
      have behind := waysOutline rest key upgraded
      rw [branchOfMember, Json.member?, lookUp?] at done
      rw [Outline.Reader.readMembers, lookUp?]
      split at done
      · rename_i same
        rw [if_pos same]
        rw [← same] at here
        exact here done
      · rename_i different
        rw [if_neg different]
        rw [branchOfMember, Json.member?] at behind
        exact behind done

theorem stepsOutline (key : String) : ∀ (found : Json) (upgraded : List Json),
    steps key found = .ok upgraded →
    outlinesOf upgraded = Outline.probedAll (Outline.old.readList found)
  | .null, _, done => by
      cases done
      rfl
  | .array items, upgraded, done => stepItemsOutline items upgraded done
  | .bool _, _, done => nomatch done
  | .number _, _, done => nomatch done
  | .string _, _, done => nomatch done
  | .object _, _, done => nomatch done

theorem stepItemsOutline : ∀ (items upgraded : List Json), stepItems items = .ok upgraded →
    outlinesOf upgraded = Outline.probedAll (Outline.old.readItems items)
  | [], _, done => by
      cases done
      rfl
  | item :: rest, upgraded, done => by
      have here := stepOutline item
      have behind := stepItemsOutline rest
      rw [stepItems] at done
      split at done
      · cases done
      rename_i first isFirst
      split at done
      · cases done
      rename_i others isRest
      cases done
      rw [outlinesAppend, here first isFirst, behind others isRest]
      rfl

end

end Upgrade

end DeskScript
