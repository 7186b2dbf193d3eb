/-
This file shows which identities the steps of an upgraded document have when they are read: the ones
that were written, the ones of the probes, and one that is drawn for every other step.
-/

import DeskScript.Proofs.Document.LoadedPlaces
import DeskScript.Proofs.Document.ProbeIds

namespace DeskScript

/-- Of these types are the steps without steps in them. -/
def StepType.isPlain : StepType → Bool
  | .ifCondition | .loop => false
  | _ => true

theorem Step.forestIdsPlain {step : Step} (plain : step.stepType.isPlain = true) :
    forestIds [step] = [step.header.id] := by
  cases step with
  | leaf => rfl
  | branch => cases plain
  | loop => cases plain

namespace Upgrade

open Identity (Given identifyItems identifyMembers identifyStep written)

/-! ### Upgraded lists -/

/-- These items are made up of upgraded steps, each with its identity if it has one. -/
inductive Built : List Json → Prop where
  | nothing : Built []
  | append {first second : List Json} (one : Built first) (other : Built second) :
      Built (first ++ second)
  | plain {members : Members} {keys : List String} {id : String} {type : StepType}
      (has : HasKeys members keys) (distinct : keys.Nodup)
      (isOwn : Json.member? members "id" = written id)
      (isType : Json.member? members "type" = some (.string type.tag))
      (isPlain : type.isPlain = true) : Built [.object members]
  | branch {old : Members} {id : String} {condition : Json} {whenTrue whenFalse : List Json}
      (ofTrue : Built whenTrue) (ofFalse : Built whenFalse) :
      Built [.object (branchMembers old id condition whenTrue whenFalse)]

theorem writtenBehindCommon (old more : Members) (id : String)
    (unnamed : Json.member? more "id" = none) :
    Json.member? (common old id ++ more) "id" = written id := by
  rw [identityMember old more id unnamed, written]
  simp [String.isEmpty_iff]

theorem leafBuilt {old own : Members} (isLeaf : textOr old "step_type" "" ≠ "if_condition")
    (isOwn : leaf (textOr old "step_id" "") (textOr old "step_type" "") old = .ok own) :
    Built [.object (common old (textOr old "step_id" "") ++ own)] := by
  have plainTypes : ∀ type ∈ stepTypes, type ≠ "if_condition" → ∃ found ∈ StepType.all,
      found.isPlain = true ∧ found.tag = Outline.counterpart type := by decide
  obtain ⟨type, -, isPlain, isTag⟩ := plainTypes _ (leafKnown isOwn).1 isLeaf
  have members := leafMembers isOwn
  have isType : Json.member? (common old (textOr old "step_id" "") ++ own) "type" =
      some (.string type.tag) := by
    rw [memberBehindCommon old own _ (by decide), members.type, isTag]
  exact .plain ((keysOfCommon old _).append members.keys) (by decide)
    (writtenBehindCommon old own _ (members.keys.absent (by decide))) isType isPlain

theorem writtenProbe (id : String) :
    written (Outline.probeId id) = some (.string (Outline.probeId id)) :=
  if_neg (Outline.probeIdWritten id)

theorem probesBuilt {old : Members} {result : UpgradedCondition}
    (isBranch : textOr old "step_type" "" = "if_condition")
    (isCondition : condition (textOr old "step_id" "") old = .ok result) : Built result.probe := by
  have probes := conditionUpgraded isBranch isCondition
  generalize isMark : Outline.probeType old = mark at probes
  cases probes with
  | nothing => exact .nothing
  | probe isProbe =>
      obtain ⟨type, rfl, isSensing⟩ := probeTag isMark
      have isOwn := isProbe.id
      rw [← Outline.probeId, ← writtenProbe] at isOwn
      have isPlain : type.isPlain = true := by cases type <;> first | rfl | cases isSensing
      exact .plain isProbe.keys (by decide) isOwn isProbe.type isPlain

mutual

theorem stepBuilt : ∀ (item : Json) (upgraded : List Json), step item = .ok upgraded →
    Built upgraded
  | .object members, upgraded, done => by
      have ways := waysBuilt members
      cases stepParts done with
      | branch isBranch isTrue isFalse isCondition =>
          exact .append (probesBuilt isBranch isCondition)
            (.branch (ways _ _ isTrue) (ways _ _ isFalse))
      | leaf isLeaf isOwn => exact leafBuilt isLeaf isOwn
  | .null, _, done => nomatch done
  | .bool _, _, done => nomatch done
  | .number _, _, done => nomatch done
  | .string _, _, done => nomatch done
  | .array _, _, done => nomatch done

theorem waysBuilt : ∀ (members : Members) (key : String) (upgraded : List Json),
    branchOf (branchesOf members) key = .ok upgraded → Built upgraded
  | [], _, _, done => by
      cases done
      exact .nothing
  | (first, found) :: rest, key, upgraded, done => by
      have here := listBuilt first found upgraded
      have behind := waysBuilt rest key upgraded
      rw [branchOfMember, Json.member?, lookUp?] at done
      rw [branchOfMember, Json.member?] at behind
      split at done
      · rename_i same
        rw [← same] at here
        exact here done
      · exact behind done

theorem listBuilt (key : String) : ∀ (found : Json) (upgraded : List Json),
    steps key found = .ok upgraded → Built upgraded
  | .null, _, done => by
      cases done
      exact .nothing
  | .array items, upgraded, done => itemsBuilt items upgraded done
  | .bool _, _, done => nomatch done
  | .number _, _, done => nomatch done
  | .string _, _, done => nomatch done
  | .object _, _, done => nomatch done

theorem itemsBuilt : ∀ (items upgraded : List Json), stepItems items = .ok upgraded →
    Built upgraded
  | [], _, done => by
      cases done
      exact .nothing
  | item :: rest, upgraded, done => by
      have here := stepBuilt item
      have behind := itemsBuilt rest
      rw [stepItems] at done
      split at done
      · cases done
      rename_i first isFirst
      split at done
      · cases done
      rename_i others isRest
      cases done
      exact .append (here first isFirst) (behind others isRest)

end

/-! ### Reading -/

/-- When these items are read, their steps have the identities in their outlines, or drawn ones. -/
def GivesIds (items : List Json) : Prop :=
  ∀ (origin : Shape.Origin) (source : IdSource) (steps : List Step),
    Step.listOfItems origin (identifyItems (Json.canonicalItems items) source).1 = .ok steps →
    Given source.draw source.used (identifyItems (Json.canonicalItems items) source).2.used
      (Outline.idsAll (outlinesOf items)) (Step.forestIds steps)

theorem writtenCanonical {members : Members} {keys : List String} {id : String}
    (has : HasKeys members keys) (distinct : keys.Nodup)
    (isOwn : Json.member? members "id" = written id) :
    Json.member? (Json.canonicalMembers [] members) "id" = written id := by
  rw [has.canonical distinct, isOwn, written]
  split <;> rfl

/-- A step of a known type is read with the identity that is written, or with one that is drawn when
all steps in it have theirs. -/
theorem typedGiven {members : Members} {id : String} {type : StepType} {origin : Shape.Origin}
    {source : IdSource} {step : Step} (isOwn : Json.member? members "id" = written id)
    (isType : Json.member? members "type" = some (.string type.tag))
    (done : Step.ofJson origin (identifyStep (.object members) source).1 = .ok step) :
    ∃ header final,
      Given source.draw (identifyMembers members source).2.used
        (identifyStep (.object members) source).2.used [id] [header.id] ∧
      (∀ key, key ≠ "id" →
        Json.member? final key = Json.member? (identifyMembers members source).1 key) ∧
      Step.ofFields header type ⟨"struct MacroStep", [], .object, final, origin⟩
        (Step.branchesOf final) = .ok step := by
  obtain ⟨_, keptType⟩ := Identity.memberIdentified members source "type"
  have isMember := Identity.ownIdentified source isOwn
  have leads := Identity.membersLead members source
  rw [isType] at keptType
  rw [Identity.identifyObject] at done ⊢
  have kept (key : String) (other : key ≠ "id") := Identity.identifyOther
    (identifyMembers members source).1 (identifyMembers members source).2 other
  have isTag := (kept "type" (by decide)).trans keptType
  obtain ⟨header, isHeader, isStep⟩ := Step.typedRead isTag done
  have own := Identity.ownGiven isMember isHeader
  rw [leads.draw] at own
  exact ⟨header, _, own, kept, isStep⟩

/-- Plain steps have the identity that is written, or one that is drawn. -/
theorem plainGiven {members : Members} {keys : List String} {id : String} {type : StepType}
    {origin : Shape.Origin} {source : IdSource} {step : Step} (has : HasKeys members keys)
    (distinct : keys.Nodup) (isOwn : Json.member? members "id" = written id)
    (isType : Json.member? members "type" = some (.string type.tag))
    (isPlain : type.isPlain = true)
    (done : Step.ofJson origin
      (identifyStep (.object (Json.canonicalMembers [] members)) source).1 = .ok step) :
    Given source.draw source.used
      (identifyStep (.object (Json.canonicalMembers [] members)) source).2.used [id]
      (Step.forestIds [step]) := by
  have canonicalType : Json.member? (Json.canonicalMembers [] members) "type" =
      some (.string type.tag) := by
    rw [has.canonical distinct, isType]
    rfl
  obtain ⟨header, final, own, -, isStep⟩ :=
    typedGiven (writtenCanonical has distinct isOwn) canonicalType done
  obtain ⟨sameHeader, sameType⟩ := Step.ofFieldsParts isStep
  rw [Step.forestIdsPlain (sameType ▸ isPlain), sameHeader]
  exact own.widen (Identity.membersLead _ source).used (Nat.le_refl _)

/-- The steps in two lists have different drawn identities when the lists get them in turn. -/
theorem inTurnGiven {one other : List Json} {source final first second : IdSource}
    {origin : Shape.Origin} {steps others : List Step} (onOne : GivesIds one)
    (onOther : GivesIds other)
    (inTurn : Identity.InTurn source final first second (.array (Json.canonicalItems one))
      (.array (Json.canonicalItems other)))
    (isOne : Step.listOfItems origin (identifyItems (Json.canonicalItems one) first).1 = .ok steps)
    (isOther : Step.listOfItems origin
      (identifyItems (Json.canonicalItems other) second).1 = .ok others) :
    Given source.draw source.used final.used
      (Outline.idsAll (outlinesOf one) ++ Outline.idsAll (outlinesOf other))
      (Step.forestIds steps ++ Step.forestIds others) := by
  have ofOne := onOne origin first steps isOne
  have ofOther := onOther origin second others isOther
  rw [inTurn.firstStarts.draw] at ofOne
  rw [inTurn.secondStarts.draw] at ofOther
  have oneStarts := inTurn.firstStarts.used
  have otherStarts := inTurn.secondStarts.used
  have oneEnds : (identifyItems (Json.canonicalItems one) first).2.used ≤ final.used :=
    inTurn.firstEnds.used
  have otherEnds : (identifyItems (Json.canonicalItems other) second).2.used ≤ final.used :=
    inTurn.secondEnds.used
  have apart : (identifyItems (Json.canonicalItems one) first).2.used ≤ second.used ∨
      (identifyItems (Json.canonicalItems other) second).2.used ≤ first.used :=
    inTurn.ordered.imp IdSource.Leads.used IdSource.Leads.used
  exact (ofOne.append ofOther apart).widen (by omega) (by omega)

/-- The steps on the ways of a branch have got their identities before the branch. -/
theorem branchGiven {old : Members} {id : String} {condition : Json}
    {whenTrue whenFalse : List Json} {origin : Shape.Origin} {source : IdSource} {step : Step}
    (onTrue : GivesIds whenTrue) (onFalse : GivesIds whenFalse)
    (done : Step.ofJson origin (identifyStep (.object (Json.canonicalMembers []
      (branchMembers old id condition whenTrue whenFalse))) source).1 = .ok step) :
    Given source.draw source.used (identifyStep (.object (Json.canonicalMembers []
      (branchMembers old id condition whenTrue whenFalse))) source).2.used
      (id :: (Outline.idsAll (outlinesOf whenTrue) ++ Outline.idsAll (outlinesOf whenFalse)))
      (Step.forestIds [step]) := by
  have found {key : String} (uncommon : key ∉ commonKeys) :
      Json.member? (Json.canonicalMembers [] _) key = _ :=
    branchFound old id condition whenTrue whenFalse uncommon
  have canonicalOwn := writtenCanonical (keysOfBranch old id condition whenTrue whenFalse)
    (by decide) (writtenBehindCommon old _ id rfl)
  have isType := found (by decide : "type" ∉ commonKeys)
  have isTrue := found (by decide : "true_branch" ∉ commonKeys)
  have isFalse := found (by decide : "false_branch" ∉ commonKeys)
  generalize Json.canonicalMembers [] (branchMembers old id condition whenTrue whenFalse) = members
    at canonicalOwn isType isTrue isFalse done ⊢
  have isTag : Json.member? members "type" = some (.string StepType.ifCondition.tag) := isType
  obtain ⟨header, final, own, kept, isStep⟩ := typedGiven canonicalOwn isTag done
  obtain ⟨condition, ofTrue, ofFalse, -, readTrue, readFalse, rfl⟩ := Step.branchRead isStep
  obtain ⟨first, second, inTurn, keptTrue, keptFalse⟩ := Identity.waysIdentified members source
    (by decide) (by decide) (by decide) isTrue isFalse
  rw [← kept _ (by decide)] at keptTrue keptFalse
  have onWays := inTurnGiven onTrue onFalse inTurn (Step.wayRead keptTrue readTrue)
    (Step.wayRead keptFalse readFalse)
  have starts := (Identity.membersLead members source).used
  have ends : (identifyMembers members source).2.used ≤
      (identifyStep (.object members) source).2.used := (Identity.identifyLeads _ _).used
  rw [Step.forestIdsBranch]
  exact (own.append onWays (.inr (Nat.le_refl _))).widen (by omega) (by omega)

theorem Built.givesIds {items : List Json} (built : Built items) : GivesIds items := by
  induction built with
  | nothing =>
      intro origin source steps done
      cases done
      exact .nothing _ _ _
  | @append first second one other onFirst onSecond =>
      intro origin source steps done
      have later : (identifyItems (Json.canonicalItems (first ++ second)) source).2 =
          (identifyItems (Json.canonicalItems second)
            (identifyItems (Json.canonicalItems first) source).2).2 := by
        rw [Json.canonicalItemsMap, List.map_append, Identity.itemsAppendSource,
          ← Json.canonicalItemsMap, ← Json.canonicalItemsMap]
      rw [Json.canonicalItemsMap, List.map_append, Identity.identifyItemsAppend,
        ← Json.canonicalItemsMap, ← Json.canonicalItemsMap] at done
      obtain ⟨steps, others, isFirst, isSecond, rfl⟩ := Step.listOfAppend done
      have leads := Identity.itemsLead (Json.canonicalItems first) source
      have further := Identity.itemsLead (Json.canonicalItems second)
        (identifyItems (Json.canonicalItems first) source).2
      have ofFirst := onFirst origin source steps isFirst
      have ofSecond := onSecond origin _ others isSecond
      rw [leads.draw] at ofSecond
      rw [later, outlinesAppend, Outline.idsAppend, Step.forestIdsAppend]
      have starts := leads.used
      have ends := further.used
      exact (ofFirst.append ofSecond (.inl (Nat.le_refl _))).widen (by omega) (by omega)
  | @plain members keys id type has distinct isOwn isType isPlain =>
      intro origin source steps done
      obtain ⟨step, further, isStep, isRest, rfl⟩ := itemsRead done
      cases isRest
      have given := plainGiven has distinct isOwn isType isPlain isStep
      have isId : textOr members "id" "" = id := by
        rw [textOr, isOwn, written]
        split
        · rename_i isEmpty
          exact isEmpty.symm
        · rfl
      have notBranch : textOr members "type" "" ≠ "if_condition" := by
        rw [textOr, isType]
        cases type <;> first | decide | cases isPlain
      rw [outlineOfObject has distinct, wayOfLeaf _ notBranch, wayOfLeaf _ notBranch, isId]
      exact given
  | @branch old id condition whenTrue whenFalse _ _ onTrue onFalse =>
      intro origin source steps done
      obtain ⟨step, further, isStep, isRest, rfl⟩ := itemsRead done
      cases isRest
      have given := branchGiven onTrue onFalse isStep
      rw [outlineOfBranch, Outline.idsAll, Outline.idsAll, Outline.ids, List.append_nil]
      exact given

end Upgrade

namespace Document

variable {ids ids' : IdSource} {script : Script} {upgraded : Json}

/-- The steps of an upgraded document have the identities that were written, or drawn ones. -/
theorem idsGiven {now : Time.Timestamp} {body : Json}
    (isUpgraded : Upgrade.script now body = .ok upgraded)
    (decoded : decode ids upgraded = .ok (script, ids')) :
    Identity.Given ids.draw ids.used ids'.used
      (Outline.idsAll (Outline.probedAll (Outline.ofBody Outline.old body)))
      (Step.forestIds script.steps) := by
  obtain ⟨done, rfl⟩ := decodeParts decoded
  have outline := Upgrade.scriptOutline isUpgraded
  cases body with
  | object old =>
      obtain ⟨news, isSteps, isAround⟩ := Upgrade.scriptParts isUpgraded
      obtain ⟨members, rfl, keys, found⟩ := Upgrade.aroundSteps isAround
      have built : Upgrade.Built news := by
        rcases Upgrade.scriptStepsParts isSteps with ⟨-, rfl⟩ | ⟨given, -, isNews⟩
        · exact .nothing
        · exact Upgrade.listBuilt "steps" given news isNews
      have isFound : Json.member? (Json.canonicalMembers [] members) "steps" =
          some (.array (Json.canonicalItems news)) := by
        rw [keys.canonical (by decide), found]
        rfl
      have isOutline : Outline.ofBody Outline.new (Json.object members).canonical =
          Upgrade.outlinesOf news := by
        rw [Json.canonical, Outline.ofBody, isFound]
        rfl
      rw [Json.canonical] at done ⊢
      obtain ⟨final, first, isFinal, isMember, starts, ends⟩ :=
        Identity.scriptIdentified (Json.canonicalMembers [] members) ids isFound
      rw [isFinal] at done
      have given := built.givesIds .document first script.steps (Script.stepsRead isMember done)
      rw [starts.draw] at given
      rw [← outline, isOutline]
      exact given.widen starts.used ends.used
  | _ => cases isUpgraded

end Document

end DeskScript
