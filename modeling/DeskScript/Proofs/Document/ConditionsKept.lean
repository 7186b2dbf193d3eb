/-
This file shows that conditions on the screen keep their meaning when a document of the first
version is loaded. In every run a branch goes the way that its probe has found out right before.
-/

import DeskScript.Proofs.Document.ProbePlaces
import DeskScript.Proofs.Document.SaveLoad
import DeskScript.Proofs.Script.DrawnIds

namespace DeskScript

/-! ### Members of a script -/

namespace Script

/-- The steps of a script have been read from a member of its document. -/
theorem stepsRead {members : List (String × Json)} {found : Json} {script : Script}
    (isFound : Json.member? members "steps" = some found)
    (done : ofJson (.object members) = .ok script) :
    Step.listOfJson .document found = .ok script.steps := by
  obtain ⟨fields, isFields, done⟩ := okOfBind done
  cases isFields
  obtain ⟨_, -, done⟩ := okOfBind done
  obtain ⟨id, -, done⟩ := okOfBind done
  obtain ⟨name, -, done⟩ := okOfBind done
  obtain ⟨description, -, done⟩ := okOfBind done
  obtain ⟨createdAt, -, done⟩ := okOfBind done
  obtain ⟨updatedAt, -, done⟩ := okOfBind done
  obtain ⟨steps, isSteps, done⟩ := okOfBind done
  obtain ⟨defaults, -, done⟩ := okOfBind done
  obtain ⟨metadata, -, done⟩ := okOfBind done
  cases done
  exact (Shape.valueOfOptional isFound).symm.trans isSteps

end Script

/-- Steps that stand next to each other in a document do so in the script that is read from it. -/
theorem Script.adjacentRead {members : List (String × Json)} {items : List Json}
    {first second : Json} {source : IdSource} {script : Script}
    (isSteps : Json.member? members "steps" = some (.array items))
    (fixed : ∀ source, Identity.identifyStep first source = (first, source))
    (adjacent : Adjacent first second items)
    (done : ofJson (Identity.identifyScript (.object members) source).1 = .ok script) :
    ∃ later origin one other, Step.ofJson origin first = .ok one ∧
      Step.ofJson origin (Identity.identifyStep second later).1 = .ok other ∧
      Step.Neighbours one other script.steps := by
  obtain ⟨final, before, isFinal, kept, -, -⟩ := Identity.scriptIdentified members source isSteps
  rw [Identity.identifySteps] at kept
  rw [isFinal] at done
  obtain ⟨later, identified⟩ := Identity.adjacentIdentified fixed adjacent before
  obtain ⟨origin, one, other, isOne, isOther, neighbours⟩ :=
    DeskScript.adjacentRead identified (stepsRead kept done)
  exact ⟨later, origin, one, other, isOne, isOther, neighbours⟩

/-! ### Conditions on the screen -/

namespace Upgrade

/-- What a condition on the screen looks for is found by a step that looks at the screen. -/
theorem screenProbe {old : Members} (isBranch : textOr old "step_type" "" = "if_condition")
    (isScreen : textOr old "condition_type" "image_exists" ∈ screenConditions) :
    ∃ type : StepType, Outline.probeType old = some type.tag ∧ type.isSensing = true := by
  rw [Outline.probeType, if_pos isBranch]
  rcases List.mem_pair.mp isScreen with isImage | isText
  · rw [isImage]
    exact ⟨.waitImage, rfl, rfl⟩
  · rw [isText]
    exact ⟨.textSearch, rfl, rfl⟩

/-- The two steps stand next to each other in an upgraded document. -/
theorem adjacentInScript {now : Time.Timestamp} {old : Members} {type : String}
    {body upgraded : Json} (occurs : OccursIn (.object old) body)
    (isScreen : Outline.probeType old = some type) (done : script now body = .ok upgraded) :
    ∃ members items probe whenTrue whenFalse, upgraded = .object members ∧
      Json.member? members "steps" = some (.array items) ∧
      ProbeMembers (textOr old "step_id" "") type probe ∧
      Adjacent (.object (Json.canonicalMembers [] probe))
        (.object (Json.canonicalMembers [] (branchMembers old (textOr old "step_id" "")
          (probeCondition (textOr old "step_id" "")) whenTrue whenFalse))) items := by
  obtain ⟨outer, given, rfl, isGiven, occurs⟩ := occurs
  obtain ⟨news, isSteps, isAround⟩ := scriptParts done
  rw [scriptSteps, isGiven] at isSteps
  obtain ⟨members, rfl, keys, found⟩ := aroundSteps isAround
  obtain ⟨probe, whenTrue, whenFalse, isProbe, adjacent⟩ :=
    adjacentUpgraded occurs isScreen isSteps
  refine ⟨Json.canonicalMembers [] members, Json.canonicalItems news, probe, whenTrue, whenFalse,
    rfl, ?_, isProbe, adjacent⟩
  rw [keys.canonical (by decide), found]
  rfl

end Upgrade

namespace Document

/-! ### Loading a document of the first version -/

/-- A document of the first version has a body, which is read in its canonical form. -/
inductive IsOld (content : ByteArray) (body : Json) : Prop where
  | ofParsed {value : Json} {members : List (String × Json)} (parsed : parse content = .ok value)
      (isObject : value.canonical = .object members)
      (isVersion : versionOf (Json.member? members "schema_version") = .ok 1)
      (isBody : Json.member? members "macro" = some body)

variable {ids ids' : IdSource} {now : Time.Timestamp} {content : ByteArray} {script : Script}
  {body : Json}

/-- The body of such a document is upgraded, and its script is read and checked. -/
theorem loadOld (isOld : IsOld content body) :
    load ids now content = (do
      let upgraded ← currentBody now 1 body
      let (script, ids) ← decode ids upgraded
      match script.validate with
      | .ok () => return (script, ids)
      | .error fault => throw (.invalid fault)) := by
  cases isOld with
  | @ofParsed value members parsed isObject isVersion isBody =>
      rw [load, parsed]
      dsimp only [bind, Except.bind]
      rw [isObject]
      dsimp only
      rw [isVersion]
      dsimp only
      generalize Json.member? members "macro" = found at isBody ⊢
      cases isBody
      rfl

theorem decodeParts {upgraded : Json} (decoded : decode ids upgraded = .ok (script, ids')) :
    Script.ofJson (Identity.identifyScript upgraded ids).1 = .ok script ∧
      (Identity.identifyScript upgraded ids).2 = ids' := by
  rw [decode] at decoded
  dsimp only at decoded
  split at decoded
  · rename_i isRead
    cases decoded
    exact ⟨isRead, rfl⟩
  · cases decoded

theorem oldBodyUpgraded {upgraded : Json} (done : currentBody now 1 body = .ok upgraded) :
    Upgrade.script now body = .ok upgraded := by
  rw [currentBody, if_neg (by decide), if_pos rfl] at done
  split at done
  · rename_i isScript
    cases done
    exact isScript
  · cases done

/-- The script of such a document is valid and has been read from the upgraded body. -/
theorem loadParts (isOld : IsOld content body)
    (loaded : load ids now content = .ok (script, ids')) :
    ∃ upgraded, Upgrade.script now body = .ok upgraded ∧
      Script.ofJson (Identity.identifyScript upgraded ids).1 = .ok script ∧
      script.validate = .ok () := by
  rw [loadOld isOld] at loaded
  obtain ⟨upgraded, isUpgraded, loaded⟩ := okOfBind loaded
  obtain ⟨⟨found, left⟩, decoded, loaded⟩ := okOfBind loaded
  dsimp only at loaded
  split at loaded
  · rename_i valid
    cases loaded
    exact ⟨upgraded, oldBodyUpgraded isUpgraded, (decodeParts decoded).1, valid⟩
  · cases loaded

/-- A condition on the screen is loaded as a probe and a branch right behind it. -/
theorem pairLoaded {old : Upgrade.Members} (isOld : IsOld content body)
    (loaded : load ids now content = .ok (script, ids'))
    (occurs : Upgrade.OccursIn (.object old) body)
    (isBranch : Upgrade.textOr old "step_type" "" = "if_condition")
    (isScreen : Upgrade.textOr old "condition_type" "image_exists" ∈ Upgrade.screenConditions) :
    ∃ pair : ProbedBranch, Upgrade.PairRead old pair ∧
      Step.Neighbours pair.probeStep pair.branchStep script.steps := by
  obtain ⟨upgraded, isUpgraded, done, -⟩ := loadParts isOld loaded
  obtain ⟨type, isType, isSensing⟩ := Upgrade.screenProbe isBranch isScreen
  obtain ⟨members, items, probe, whenTrue, whenFalse, rfl, isSteps, isProbe, adjacent⟩ :=
    Upgrade.adjacentInScript occurs isType isUpgraded
  obtain ⟨later, origin, one, other, isOne, isOther, neighbours⟩ :=
    Script.adjacentRead isSteps (Upgrade.probeIdentified isProbe) adjacent done
  obtain ⟨pair, rfl, rfl, isPair⟩ := Upgrade.pairRead isType isSensing
    (Upgrade.canonicalPair isProbe whenTrue whenFalse) isOne isOther
  exact ⟨pair, isPair, neighbours⟩

/--
A condition on the screen keeps its meaning when a document of the first version is loaded. In every
run the branch goes one way if the probe right before it has found something, and the other way if
the time of the probe was up. What variables were bound to before does not matter. What the devices
find is taken to have a label.
-/
theorem conditionsKept {old : Upgrade.Members} (isOld : IsOld content body)
    (loaded : load ids now content = .ok (script, ids'))
    (occurs : Upgrade.OccursIn (.object old) body)
    (isBranch : Upgrade.textOr old "step_type" "" = "if_condition")
    (isScreen : Upgrade.textOr old "condition_type" "image_exists" ∈ Upgrade.screenConditions) :
    ∃ pair : ProbedBranch, Upgrade.PairRead old pair ∧
      Step.Neighbours pair.probeStep pair.branchStep script.steps ∧
      ∀ {device : Type} (place : Workplace device) (context : RunContext) (bindings : Bindings)
        (state : device), place.devices.Labelled →
        Interpreter.Heeded place script (Session.start context bindings state) pair := by
  obtain ⟨pair, isPair, neighbours⟩ := pairLoaded isOld loaded occurs isBranch isScreen
  obtain ⟨_, -, -, valid⟩ := loadParts isOld loaded
  refine ⟨pair, isPair, neighbours, fun place context bindings state labels => ?_⟩
  exact Interpreter.heeded labels (ProbedBranch.guardsOfNeighbours neighbours
    (Script.distinctIds valid)) context bindings state

/-- This condition asks whether a door is on the screen. -/
def door : Upgrade.Members :=
  [("condition_type", .string "image_exists"),
    ("condition_value", .object [("image_path", .string "door.png")]),
    ("step_id", .string "door"), ("step_type", .string "if_condition")]

/-- A document of the first version has this body. -/
def lookout : Json := .object [("name", .string "lookout"), ("steps", .array [.object door])]

def lookoutDocument : Json := .object [("macro", lookout), ("schema_version", .string "1.0")]

theorem lookoutParsed : parse lookoutDocument.pretty.toUTF8 = .ok lookoutDocument := by
  have storable : lookoutDocument.IsStorable := by
    simp [lookoutDocument, lookout, door, Json.IsStorable, Json.AreStorable, Json.HaveStorable]
  exact parseObject _ _ storable (by decide)

theorem lookoutIsOld : IsOld lookoutDocument.pretty.toUTF8 lookout :=
  .ofParsed lookoutParsed rfl rfl rfl

/-- Here everything is found at once. -/
def attentive : Workplace Unit :=
  { Workplace.idle with
    devices := { Devices.idle with
      look := fun state _ => (state, .found ⟨"door", 0.9, ⟨0, 0, 10, 10⟩⟩) } }

theorem attentiveLabelled : attentive.devices.Labelled := by
  intro state look found isFound
  cases isFound
  decide

/-- The variable of the probe has a value before the run. -/
def stale : Session Unit :=
  Session.start (.start "run" none 0) (Table.ofList [("probe_door", "")]) ()

theorem conditionsKeptLookout : ∃ script ids' pair,
    load countedIds .epoch lookoutDocument.pretty.toUTF8 = .ok (script, ids') ∧
      pair.probe.id = "door-probe" ∧ pair.header.id = "door" ∧
      Step.Neighbours pair.probeStep pair.branchStep script.steps ∧
      Interpreter.Heeded attentive script stale pair ∧
      ∃ final found, Interpreter.run attentive script stale = (final, some found) ∧
        found.trace.map (fun entry => (entry.stepId, entry.outcome)) =
          [("door-probe", .success), ("door", .branch .whenTrue)] := by
  have ended : ((load countedIds .epoch lookoutDocument.pretty.toUTF8).toOption.any
      fun result => (Interpreter.run attentive result.1 stale).2.any fun found =>
        found.trace.map (fun entry => (entry.stepId, entry.outcome)) =
          [("door-probe", .success), ("door", .branch .whenTrue)]) = true := by
    rw [load, lookoutParsed]
    decide +kernel
  cases loaded : load countedIds .epoch lookoutDocument.pretty.toUTF8 with
  | error fault =>
      rw [loaded] at ended
      cases ended
  | ok result =>
      obtain ⟨script, ids'⟩ := result
      rw [loaded] at ended
      obtain ⟨final, found, isRun, isTrace⟩ := Interpreter.reportFound ended
      obtain ⟨pair, isPair, neighbours, heeded⟩ := conditionsKept lookoutIsOld loaded
        ⟨_, _, rfl, rfl, .here List.mem_cons_self⟩ rfl (by decide : "image_exists" ∈ _)
      exact ⟨script, ids', pair, rfl, isPair.probeId, isPair.branchId (by decide), neighbours,
        heeded attentive _ _ _ attentiveLabelled, final, found, isRun, of_decide_eq_true isTrace⟩

end Document

end DeskScript
