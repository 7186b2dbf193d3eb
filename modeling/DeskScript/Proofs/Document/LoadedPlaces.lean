/-
This file shows that every step of a document of the first version is loaded at its place. Nothing
stands beside the counterparts but one probe right before each condition on the screen.
-/

import DeskScript.Proofs.Document.Counterparts

namespace DeskScript

namespace Upgrade

/-! ### Lists of old steps -/

def listOf : Json → List Json
  | .array items => items
  | _ => []

/-- These are the items of a list of steps. A list that is missing is empty. -/
def itemsOf (members : Members) (key : String) : List Json :=
  ((Json.member? members key).map listOf).getD []

/-- These are the steps of the body of a document. -/
def itemsOfBody : Json → List Json
  | .object members => itemsOf members "steps"
  | _ => []

theorem itemsOfCons (first key : String) (found : Json) (rest : Members) :
    itemsOf ((first, found) :: rest) key =
      if key = first then listOf found else itemsOf rest key := by
  rw [itemsOf, Json.member?, lookUp?]
  split <;> rfl

/-! ### Places -/

/--
These steps stand in the places of old steps, and every one of them is related to the old step. The
probe of a condition on the screen stands right before its branch.
-/
inductive InPlace (relation : Members → Step → Prop) : List Json → List Step → Prop where
  | nil : InPlace relation [] []
  | leaf {old : Members} {step : Step} {rest : List Json} {further : List Step}
      (isLeaf : textOr old "step_type" "" ≠ "if_condition") (related : relation old step)
      (later : InPlace relation rest further) :
      InPlace relation (.object old :: rest) (step :: further)
  | branch {old : Members} {header : StepHeader} {condition : Condition}
      {whenTrue whenFalse further : List Step} {rest : List Json}
      (isBranch : textOr old "step_type" "" = "if_condition")
      (unprobed : Outline.probeType old = none)
      (related : relation old (.branch header condition whenTrue whenFalse))
      (ofTrue : InPlace relation (itemsOf old "true_steps") whenTrue)
      (ofFalse : InPlace relation (itemsOf old "false_steps") whenFalse)
      (later : InPlace relation rest further) :
      InPlace relation (.object old :: rest)
        (.branch header condition whenTrue whenFalse :: further)
  | probed {old : Members} {type : StepType} {probe header : StepHeader} {action : Action}
      {sensing : Sensing} {condition : Condition} {whenTrue whenFalse further : List Step}
      {rest : List Json} (isBranch : textOr old "step_type" "" = "if_condition")
      (isScreen : Outline.probeType old = some type.tag)
      (isProbe : ProbeRead (textOr old "step_id" "") type probe action sensing)
      (related : relation old (.branch header condition whenTrue whenFalse))
      (ofTrue : InPlace relation (itemsOf old "true_steps") whenTrue)
      (ofFalse : InPlace relation (itemsOf old "false_steps") whenFalse)
      (later : InPlace relation rest further) :
      InPlace relation (.object old :: rest)
        (.leaf probe action :: .branch header condition whenTrue whenFalse :: further)

namespace InPlace

/-- A relation follows in all places when it follows for the steps of the list. -/
theorem imp {relation other : Members → Step → Prop} {items : List Json} {steps : List Step}
    (inPlace : InPlace relation items steps)
    (follows : ∀ old, ∀ step ∈ Step.forest steps, relation old step → other old step) :
    InPlace other items steps := by
  induction inPlace with
  | nil => exact .nil
  | @leaf old step rest further isLeaf related later inductionHypothesis =>
      rw [Step.forestCons] at follows
      refine .leaf isLeaf (follows old step ?_ related) (inductionHypothesis ?_)
      · exact List.mem_append_left _ (Step.ofMemForest [step] step List.mem_cons_self)
      · exact fun old step inside => follows old step (List.mem_append_right _ inside)
  | @branch old header condition whenTrue whenFalse further rest isBranch unprobed related ofTrue
      ofFalse later onTrue onFalse inductionHypothesis =>
      rw [Step.forestCons, Step.forestBranch] at follows
      refine .branch isBranch unprobed (follows old _ ?_ related) (onTrue ?_) (onFalse ?_)
        (inductionHypothesis ?_)
      · exact List.mem_cons_self
      · exact fun old step inside => follows old step (by simp [inside])
      · exact fun old step inside => follows old step (by simp [inside])
      · exact fun old step inside => follows old step (by simp [inside])
  | @probed old type probe header action sensing condition whenTrue whenFalse further rest isBranch
      isScreen isProbe related ofTrue ofFalse later onTrue onFalse inductionHypothesis =>
      rw [Step.forestCons, Step.forestCons (.branch ..), Step.forestBranch] at follows
      refine .probed isBranch isScreen isProbe (follows old _ ?_ related) (onTrue ?_) (onFalse ?_)
        (inductionHypothesis ?_)
      · exact List.mem_append_right _ List.mem_cons_self
      · exact fun old step inside => follows old step (by simp [inside])
      · exact fun old step inside => follows old step (by simp [inside])
      · exact fun old step inside => follows old step (by simp [inside])

end InPlace

/-! ### Loading -/

theorem probeTag {old : Members} {tag : String} (isScreen : Outline.probeType old = some tag) :
    ∃ type : StepType, type.tag = tag ∧ type.isSensing = true := by
  rw [Outline.probeType] at isScreen
  split at isScreen
  · dsimp only at isScreen
    split at isScreen
    · exact ⟨.waitImage, Option.some.inj isScreen, rfl⟩
    split at isScreen
    · exact ⟨.textSearch, Option.some.inj isScreen, rfl⟩
    · cases isScreen
  · cases isScreen

/-- A condition is loaded as a branch, and as a probe before it where it looks at the screen. -/
theorem conditionInPlace {old : Members} {result : UpgradedCondition}
    {whenTrue whenFalse : List Json} {steps further : List Step} {rest : List Json}
    (isBranch : textOr old "step_type" "" = "if_condition")
    (isCondition : condition (textOr old "step_id" "") old = .ok result)
    (read : ReadAs (result.probe ++ [.object (branchMembers old (textOr old "step_id" "")
      result.condition whenTrue whenFalse)]) steps)
    (onTrue : ∀ inner, ReadAs whenTrue inner →
      InPlace LoadedFor (itemsOf old "true_steps") inner)
    (onFalse : ∀ inner, ReadAs whenFalse inner →
      InPlace LoadedFor (itemsOf old "false_steps") inner)
    (later : InPlace LoadedFor rest further) :
    InPlace LoadedFor (.object old :: rest) (steps ++ further) := by
  obtain ⟨probes, branch, readProbes, readBranch, rfl⟩ := read.append
  obtain ⟨header, found, ofTrue, ofFalse, rfl, loaded, readTrue, readFalse⟩ :=
    branchLoaded isBranch readBranch
  have isProbes := conditionUpgraded isBranch isCondition
  cases isMark : Outline.probeType old with
  | none =>
      rw [isMark] at isProbes
      cases isProbes
      rw [readProbes.empty]
      exact .branch isBranch isMark loaded (onTrue _ readTrue) (onFalse _ readFalse) later
  | some mark =>
      obtain ⟨type, rfl, isSensing⟩ := probeTag isMark
      rw [isMark] at isProbes
      cases isProbes with
      | probe isProbe =>
          obtain ⟨probe, action, sensing, rfl, isRead⟩ := probeLoaded isSensing isProbe readProbes
          exact .probed isBranch isMark isRead loaded (onTrue _ readTrue)
            (onFalse _ readFalse) later

mutual

/-- A step that has been upgraded is loaded in its place, before what is loaded for the others. -/
theorem stepInPlace : ∀ (item : Json) (upgraded rest : List Json) (steps further : List Step),
    step item = .ok upgraded → ReadAs upgraded steps → InPlace LoadedFor rest further →
    InPlace LoadedFor (item :: rest) (steps ++ further)
  | .object members, upgraded, rest, steps, further, done, read, later => by
      have ways := waysInPlace members
      cases stepParts done with
      | branch isBranch isTrue isFalse isCondition =>
          exact conditionInPlace isBranch isCondition read (fun inner => ways _ _ inner isTrue)
            (fun inner => ways _ _ inner isFalse) later
      | leaf isLeaf isOwn =>
          obtain ⟨step, rfl, loaded⟩ := leafLoaded isOwn read
          exact .leaf isLeaf loaded later
  | .null, _, _, _, _, done, _, _ => nomatch done
  | .bool _, _, _, _, _, done, _, _ => nomatch done
  | .number _, _, _, _, _, done, _, _ => nomatch done
  | .string _, _, _, _, _, done, _, _ => nomatch done
  | .array _, _, _, _, _, done, _, _ => nomatch done

theorem waysInPlace : ∀ (members : Members) (key : String) (upgraded : List Json)
    (steps : List Step), branchOf (branchesOf members) key = .ok upgraded →
    ReadAs upgraded steps → InPlace LoadedFor (itemsOf members key) steps
  | [], _, _, _, done, read => by
      cases done
      rw [read.empty]
      exact .nil
  | (first, found) :: rest, key, upgraded, steps, done, read => by
      -- The list that is upgraded for a key is the first one, and so is the list that is looked up.
      have here := listInPlace first found upgraded steps
      have behind := waysInPlace rest key upgraded steps
      rw [branchOfMember, Json.member?, lookUp?] at done
      rw [itemsOfCons]
      split at done
      · rename_i same
        rw [if_pos same]
        rw [← same] at here
        exact here done read
      · rename_i different
        rw [if_neg different]
        rw [branchOfMember, Json.member?] at behind
        exact behind done read

theorem listInPlace (key : String) : ∀ (found : Json) (upgraded : List Json)
    (stepsRead : List Step), steps key found = .ok upgraded → ReadAs upgraded stepsRead →
    InPlace LoadedFor (listOf found) stepsRead
  | .null, _, _, done, read => by
      cases done
      rw [read.empty]
      exact .nil
  | .array items, upgraded, stepsRead, done, read => itemsInPlace items upgraded stepsRead done read
  | .bool _, _, _, done, _ => nomatch done
  | .number _, _, _, done, _ => nomatch done
  | .string _, _, _, done, _ => nomatch done
  | .object _, _, _, done, _ => nomatch done

theorem itemsInPlace : ∀ (items upgraded : List Json) (steps : List Step),
    stepItems items = .ok upgraded → ReadAs upgraded steps → InPlace LoadedFor items steps
  | [], _, _, done, read => by
      cases done
      rw [read.empty]
      exact .nil
  | item :: rest, upgraded, steps, done, read => by
      have here := stepInPlace item
      have behind := itemsInPlace rest
      rw [stepItems] at done
      split at done
      · cases done
      rename_i first isFirst
      split at done
      · cases done
      rename_i others isRest
      cases done
      obtain ⟨one, other, readFirst, readRest, rfl⟩ := read.append
      exact here first rest one other isFirst readFirst (behind others other isRest readRest)

end

end Upgrade

namespace Document

variable {ids ids' : IdSource} {now : Time.Timestamp} {content : ByteArray} {script : Script}
  {body : Json}

/-- Every step of a document of the first version is loaded at its place. -/
theorem loadedInPlace (isOld : IsOld content body)
    (loaded : load ids now content = .ok (script, ids')) :
    Upgrade.InPlace Upgrade.LoadedFor (Upgrade.itemsOfBody body) script.steps := by
  obtain ⟨upgraded, isUpgraded, done, -⟩ := loadParts isOld loaded
  cases body with
  | object outer =>
      obtain ⟨news, isSteps, isAround⟩ := Upgrade.scriptParts isUpgraded
      obtain ⟨members, rfl, keys, found⟩ := Upgrade.aroundSteps isAround
      have isFound : Json.member? (Json.canonicalMembers [] members) "steps" =
          some (.array (Json.canonicalItems news)) := by
        rw [keys.canonical (by decide), found]
        rfl
      obtain ⟨final, later, isFinal, kept, -, -⟩ :=
        Identity.scriptIdentified (Json.canonicalMembers [] members) ids isFound
      rw [Json.canonical, isFinal] at done
      have read : Upgrade.ReadAs news script.steps :=
        ⟨.document, later, Script.stepsRead kept done⟩
      rw [Upgrade.itemsOfBody, Upgrade.itemsOf]
      rcases Upgrade.scriptStepsParts isSteps with ⟨missing, rfl⟩ | ⟨given, isGiven, isNews⟩
      · rw [missing, read.empty]
        exact .nil
      · rw [isGiven]
        exact Upgrade.listInPlace "steps" given news script.steps isNews read
  | _ => cases isUpgraded

/-- Every step of a document of the first version has its counterpart at its place. -/
theorem counterpartsInPlace (isOld : IsOld content body)
    (loaded : load ids now content = .ok (script, ids')) :
    Upgrade.InPlace Upgrade.Counterpart (Upgrade.itemsOfBody body) script.steps :=
  (loadedInPlace isOld loaded).imp fun _ _ _ isLoaded => isLoaded.counterpart

end Document

end DeskScript
