/-
This file shows when the steps of an upgraded document have different identities. They do unless two
probes are named after steps without an identity, or a step has the identity of a probe.
-/

import DeskScript.Proofs.Document.GivenIds

namespace DeskScript

/-! ### Refused scripts -/

namespace Script

/-- A check of single steps knows nothing of other identities. -/
theorem checkEachSingle {visited : List (Nat × Step)} {fault : StepFault}
    (refused : Step.checkEach visited = .error fault) (id : String) : fault ≠ .duplicateId id := by
  induction visited with
  | nil => cases refused
  | cons head rest inductionHypothesis =>
      obtain ⟨depth, step⟩ := head
      rw [Step.checkEach, Step.checkOwn] at refused
      split at refused
      · exact inductionHypothesis refused
      · rename_i isFault
        cases refused
        split at isFault
        · cases isFault
          rintro ⟨⟩
        · split at isFault <;> cases isFault
          rintro ⟨⟩

/-- An identity is only refused for a step when another step has it. -/
theorem repeatedIds {script : Script} {id : String}
    (refused : script.validate = .error (.duplicateId id)) :
    ¬(Step.forestIds script.steps).Nodup := by
  rw [validate] at refused
  split at refused
  · cases refused
  split at refused
  · cases refused
  split at refused
  · rename_i isFault
    exact absurd (Except.error.inj refused) (checkEachSingle isFault id)
  split at refused
  · rename_i repeated
    intro distinct
    rw [script.visitedIds.mpr distinct] at repeated
    cases repeated
  · cases refused

end Script

namespace Document

variable {ids : IdSource} {now : Time.Timestamp} {body : Json}

/-- Where a script of the first version is refused, it has been upgraded and read. -/
theorem refusedParts {content : ByteArray} {fault : StepFault} (isOld : IsOld content body)
    (refused : load ids now content = .error (.invalid fault)) :
    ∃ upgraded script ids', Upgrade.script now body = .ok upgraded ∧
      decode ids upgraded = .ok (script, ids') ∧ script.validate = .error fault := by
  rw [loadOld isOld] at refused
  rcases errorOfBind refused with isFault | ⟨upgraded, isUpgraded, refused⟩
  · rw [currentBody, if_neg (by decide), if_pos rfl] at isFault
    split at isFault <;> cases isFault
  rcases errorOfBind refused with isFault | ⟨⟨script, ids'⟩, decoded, refused⟩
  · rw [decode] at isFault
    dsimp only at isFault
    split at isFault <;> cases isFault
  dsimp only at refused
  split at refused
  · cases refused
  rename_i isFault
  cases refused
  exact ⟨upgraded, script, ids', oldBodyUpgraded isUpgraded, decoded, isFault⟩

/-- A document is refused because two steps have this identity. -/
def refusedFor (id : String) : Except DocumentFault (Script × IdSource) → Bool
  | .error (.invalid (.duplicateId repeated)) => repeated = id
  | _ => false

theorem ofRefusedFor {id : String} {result : Except DocumentFault (Script × IdSource)}
    (refused : refusedFor id result = true) : result = .error (.invalid (.duplicateId id)) := by
  unfold refusedFor at refused
  split at refused
  · rw [of_decide_eq_true refused]
  · cases refused

/-! ### Different identities -/

/--
Where the written identities of a document of the first version are different and the drawn ones are
fresh, the steps of the upgraded document have different identities exactly if its probes are apart.
It is not refused for an identity then, and otherwise it is not loaded at all.
-/
theorem upgradedIdsDistinct (now : Time.Timestamp)
    (distinct : (Identity.writtenIds (Outline.idsAll (Outline.ofBody Outline.old body))).Nodup)
    (fresh : Identity.Fresh ids.draw
      (Outline.idsAll (Outline.probedAll (Outline.ofBody Outline.old body)))) :
    (∀ upgraded script ids', Upgrade.script now body = .ok upgraded →
      decode ids upgraded = .ok (script, ids') →
      ((Step.forestIds script.steps).Nodup ↔
        Outline.ProbesApart (Outline.ofBody Outline.old body))) ∧
    ∀ content, IsOld content body →
      (Outline.ProbesApart (Outline.ofBody Outline.old body) →
        ∀ id, load ids now content ≠ .error (.invalid (.duplicateId id))) ∧
      ∀ script ids', load ids now content = .ok (script, ids') →
        Outline.ProbesApart (Outline.ofBody Outline.old body) := by
  have read : ∀ upgraded script ids', Upgrade.script now body = .ok upgraded →
      decode ids upgraded = .ok (script, ids') → ((Step.forestIds script.steps).Nodup ↔
        Outline.ProbesApart (Outline.ofBody Outline.old body)) := by
    intro upgraded script ids' isUpgraded decoded
    obtain ⟨numbers, fills, different, -⟩ := idsGiven isUpgraded decoded
    rw [fills.nodupIff different fresh]
    exact Outline.probedWritten distinct
  refine ⟨read, fun content isOld => ⟨fun apart id refused => ?_, fun script ids' loaded => ?_⟩⟩
  · obtain ⟨upgraded, script, ids', isUpgraded, decoded, isRefused⟩ := refusedParts isOld refused
    exact Script.repeatedIds isRefused ((read upgraded script ids' isUpgraded decoded).mpr apart)
  · obtain ⟨upgraded, isUpgraded, done, valid⟩ := loadParts isOld loaded
    have decoded : decode ids upgraded =
        .ok (script, (Identity.identifyScript upgraded ids).2) := by
      rw [decode]
      dsimp only
      rw [done]
    exact (read upgraded script _ isUpgraded decoded).mp (Script.distinctIds valid)

/-- Every identity is a row of marks here. -/
def markedIds : IdSource := ⟨fun number => String.ofList (List.replicate (number + 1) '+'), 0⟩

theorem markedIdsFresh (ids : List String) (unmarked : ∀ id ∈ ids, id.toList.head? ≠ some '+') :
    Identity.Fresh markedIds.draw ids where
  distinct := by
    intro first second same
    have lengths := congrArg (fun id => id.toList.length) same
    simpa [markedIds] using lengths
  unused number inside := by
    apply unmarked _ inside
    rw [markedIds, String.toList_ofList]
    rfl

/-- This step asks whether a door is on the screen. It may be without an identity. -/
def doorStep (id : Option String) : Json :=
  .object ([("condition_type", .string "image_exists"),
    ("condition_value", .object [("image_path", .string "door.png")])] ++
    (id.map fun id => ("step_id", Json.string id)).toList ++
    [("step_type", .string "if_condition")])

def doors (first second : Option String) : Json :=
  .object [("name", .string "doors"), ("steps", .array [doorStep first, doorStep second])]

def doorsDocument (first second : Option String) : Json :=
  .object [("macro", doors first second), ("schema_version", .string "1.0")]

theorem doorsParsed (first second : Option String) :
    parse (doorsDocument first second).pretty.toUTF8 = .ok (doorsDocument first second) := by
  have storable : (doorsDocument first second).IsStorable := by
    cases first <;> cases second <;>
      simp [doorsDocument, doors, doorStep, Json.IsStorable, Json.AreStorable, Json.HaveStorable]
  refine parseObject _ _ storable ?_
  cases first <;> cases second <;> exact Nat.le_of_ble_eq_true rfl

theorem doorsIsOld (first second : Option String) :
    IsOld (doorsDocument first second).pretty.toUTF8 (doors first second) := by
  cases first <;> cases second <;> exact .ofParsed (doorsParsed _ _) rfl rfl rfl

theorem upgradedIdsDistinctDoors : ∃ script ids',
    load markedIds .epoch (doorsDocument (some "front") none).pretty.toUTF8 = .ok (script, ids') ∧
      (Identity.writtenIds (Outline.idsAll
        (Outline.ofBody Outline.old (doors (some "front") none)))).Nodup ∧
      Identity.Fresh markedIds.draw (Outline.idsAll (Outline.probedAll
        (Outline.ofBody Outline.old (doors (some "front") none)))) ∧
      Outline.ProbesApart (Outline.ofBody Outline.old (doors (some "front") none)) := by
  have isOk : (load markedIds .epoch
      (doorsDocument (some "front") none).pretty.toUTF8).toBool = true := by
    rw [load, doorsParsed]
    decide +kernel
  obtain ⟨⟨script, ids'⟩, loaded⟩ := valueOfToBool isOk
  have distinct : (Identity.writtenIds (Outline.idsAll
      (Outline.ofBody Outline.old (doors (some "front") none)))).Nodup := by decide +kernel
  have fresh := markedIdsFresh (Outline.idsAll (Outline.probedAll
    (Outline.ofBody Outline.old (doors (some "front") none)))) (by decide +kernel)
  exact ⟨script, ids', loaded, distinct, fresh,
    ((upgradedIdsDistinct .epoch distinct fresh).2 _ (doorsIsOld _ _)).2 script ids' loaded⟩

/-- Two conditions on the screen without an identity get probes with the same one. -/
theorem namelessProbesCollide :
    (Identity.writtenIds (Outline.idsAll (Outline.ofBody Outline.old (doors none none)))).Nodup ∧
    Identity.Fresh markedIds.draw
      (Outline.idsAll (Outline.probedAll (Outline.ofBody Outline.old (doors none none)))) ∧
    (∃ upgraded script ids', Upgrade.script .epoch (doors none none) = .ok upgraded ∧
      decode markedIds upgraded = .ok (script, ids') ∧
      Step.forestIds script.steps = ["-probe", "+", "-probe", "++"]) ∧
    load markedIds .epoch (doorsDocument none none).pretty.toUTF8 =
      .error (.invalid (.duplicateId "-probe")) := by
  refine ⟨by decide +kernel, markedIdsFresh _ (by decide +kernel), ?_, ?_⟩
  · have ended : ((Upgrade.script .epoch (doors none none)).toOption.any fun upgraded =>
        (decode markedIds upgraded).toOption.any fun result =>
          Step.forestIds result.1.steps = ["-probe", "+", "-probe", "++"]) = true := by
      decide +kernel
    cases isUpgraded : Upgrade.script .epoch (doors none none) with
    | error fault =>
        rw [isUpgraded] at ended
        cases ended
    | ok upgraded =>
        rw [isUpgraded] at ended
        cases decoded : decode markedIds upgraded with
        | error fault =>
            rw [Except.toOption, Option.any_some, decoded] at ended
            cases ended
        | ok result =>
            rw [Except.toOption, Option.any_some, decoded] at ended
            exact ⟨upgraded, result.1, result.2, rfl, decoded, of_decide_eq_true ended⟩
  · apply ofRefusedFor
    rw [load, doorsParsed]
    decide +kernel

end Document

end DeskScript
