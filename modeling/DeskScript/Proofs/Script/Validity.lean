/-
This file says what is true of a script that passes its check, and what a failing check reports.
-/

import DeskScript.Proofs.Result
import DeskScript.Proofs.Step.Forest
import DeskScript.Script.Basic

namespace DeskScript

/-! ### Checks of fields -/

/-- Where two checks pass one after the other the second one passes. -/
theorem FieldCheck.second (first second : FieldCheck)
    (sound : (do first; second : FieldCheck) = .ok ()) : second = .ok () := by
  cases first with
  | error problem => cases sound
  | ok nothing => exact sound

/-- A threshold that passes its check is a probability. -/
theorem Sensing.probable (sensing : Sensing) (sound : sensing.check = .ok ()) :
    0 ≤ sensing.threshold ∧ sensing.threshold ≤ 1 := by
  by_cases refused : (!(decide (0 ≤ sensing.threshold) && decide (sensing.threshold ≤ 1))) = true
  · rw [check, FieldCheck.refuse, if_pos refused] at sound
    cases sound
  · simpa only [Bool.not_eq_true, Bool.not_eq_false', Bool.and_eq_true, decide_eq_true_eq]
      using refused

namespace Step

theorem fieldsSound (step : Step) (sound : step.checkOwn = .ok ()) : step.checkFields = .ok () := by
  unfold checkOwn at sound
  split at sound
  · cases sound
  · cases outcome : step.checkFields with
    | ok nothing => rfl
    | error problem =>
        rw [outcome] at sound
        cases sound

/-! ### Checks of steps -/

/-- A check of many steps passes when it passes for each of them. -/
theorem eachIff (visited : List (Nat × Step)) :
    checkEach visited = .ok () ↔ ∀ entry ∈ visited, entry.2.checkOwn = .ok () := by
  induction visited with
  | nil => exact ⟨fun _ => nofun, fun _ => rfl⟩
  | cons entry rest inductionHypothesis =>
      rw [checkEach, List.forall_mem_cons, ← inductionHypothesis]
      cases outcome : entry.2.checkOwn with
      | error fault => exact ⟨nofun, fun sound => absurd sound.1 nofun⟩
      | ok nothing => exact ⟨fun others => ⟨rfl, others⟩, And.right⟩

/-- Steps are reported to have a fault that at least one of them has, if they have no other. -/
theorem eachFaulty {visited : List (Nat × Step)} {fault : StepFault}
    (others : ∀ entry ∈ visited, entry.2.checkOwn = .ok () ∨ entry.2.checkOwn = .error fault)
    (faulty : ∃ entry ∈ visited, entry.2.checkOwn = .error fault) :
    checkEach visited = .error fault := by
  induction visited with
  | nil =>
      obtain ⟨entry, inside, -⟩ := faulty
      cases inside
  | cons entry rest inductionHypothesis =>
      obtain ⟨first, others⟩ := List.forall_mem_cons.mp others
      rw [checkEach]
      rcases first with sound | isFaulty
      · rw [sound]
        refine inductionHypothesis others ?_
        obtain ⟨entry, inside, isFaulty⟩ := faulty
        rcases List.mem_cons.mp inside with same | inRest
        · rw [same, sound] at isFaulty
          cases isFaulty
        · exact ⟨entry, inRest, isFaulty⟩
      · rw [isFaulty]

/-- All steps of a list make sense, and no two of them have the same identity. -/
structure Sound (steps : List Step) : Prop where
  each : ∀ step ∈ forest steps, step.checkOwn = .ok ()
  distinct : (forestIds steps).Nodup

theorem validIff (step : Step) :
    step.validate = .ok () ↔ ∀ inner ∈ forest [step], inner.checkOwn = .ok () := by
  rw [validate, eachIff, forest, visitAll, visitAll, List.append_nil, List.forall_mem_map]

/-! ### Checks of steps with other steps in them -/

/-- The check of a branch looks at none of the steps in it. -/
theorem branchSound {header : StepHeader} {condition : Condition}
    {whenTrue whenFalse others more : List Step}
    (sound : (Step.branch header condition whenTrue whenFalse).checkOwn = .ok ()) :
    (Step.branch header condition others more).checkOwn = .ok () := sound

theorem bodyOfSound {header : StepHeader} {rule : LoopRule} {body : List Step}
    (sound : (Step.loop header rule body).checkOwn = .ok ()) : body ≠ [] := by
  rintro rfl
  unfold checkOwn at sound
  split at sound
  · cases sound
  · split at sound
    · rename_i isSound
      obtain ⟨_, -, isSound⟩ := okOfBind isSound
      obtain ⟨_, -, isSound⟩ := okOfBind isSound
      cases isSound
    · cases sound

/-- The check of a loop looks at nothing in its body. -/
theorem loopSound {header : StepHeader} {rule : LoopRule} {body others : List Step}
    (sound : (Step.loop header rule body).checkOwn = .ok ()) (filled : others ≠ []) :
    (Step.loop header rule others).checkOwn = .ok () := by
  have same : others.isEmpty = body.isEmpty := by
    rw [List.isEmpty_eq_false_iff.mpr filled, List.isEmpty_eq_false_iff.mpr (bodyOfSound sound)]
  rw [← sound]
  simp only [checkOwn, checkFields, same]
  rfl

/-- A loop that has lost its body has no other fault than that. -/
theorem emptiedLoop {header : StepHeader} {rule : LoopRule} {body : List Step}
    (sound : (Step.loop header rule body).checkOwn = .ok ()) :
    (Step.loop header rule []).checkOwn = .error (.invalidField header.id .emptyBody) := by
  unfold checkOwn at sound ⊢
  split at sound
  · cases sound
  rename_i named
  rw [if_neg (show ¬Text.isBlankText (Step.loop header rule []).id = true from named)]
  split at sound
  · rename_i isSound
    obtain ⟨_, isLimited, isSound⟩ := okOfBind isSound
    obtain ⟨_, isMode, -⟩ := okOfBind isSound
    simp only [checkFields, LoopRule.check, isLimited, isMode]
    rfl
  · cases sound

end Step

namespace Script

open Step (forest forestIds)

/-! ### Identities -/

theorem firstRepeatedNone {seen ids : List String} :
    firstRepeated seen ids = none ↔ ids.Nodup ∧ ∀ id ∈ ids, id ∉ seen := by
  induction ids generalizing seen with
  | nil => exact ⟨fun _ => ⟨List.nodup_nil, nofun⟩, fun _ => rfl⟩
  | cons id rest inductionHypothesis =>
      rw [firstRepeated, List.nodup_cons, List.forall_mem_cons]
      by_cases wasSeen : id ∈ seen
      · rw [if_pos (List.contains_iff_mem.mpr wasSeen)]
        exact ⟨nofun, fun unrepeated => absurd wasSeen unrepeated.2.1⟩
      · rw [if_neg (fun isSeen => wasSeen (List.contains_iff_mem.mp isSeen)), inductionHypothesis]
        constructor
        · intro ⟨distinct, apart⟩
          exact ⟨⟨fun inside => apart id inside List.mem_cons_self, distinct⟩, wasSeen,
            fun other inside isSeen => apart other inside (List.mem_cons_of_mem _ isSeen)⟩
        · rintro ⟨⟨absent, distinct⟩, -, apart⟩
          refine ⟨distinct, fun other inside isSeen => ?_⟩
          rcases List.mem_cons.mp isSeen with same | inSeen
          · exact absent (same ▸ inside)
          · exact apart other inside inSeen

/-! ### Checks of scripts -/

/-- A script has a name, and its variables have names that can stand in placeholders. -/
structure WellNamed (script : Script) : Prop where
  name : Text.isBlankText script.name = false
  defaults : ∀ name ∈ script.defaults.keys, isVariableName name = true

theorem visitedSound (script : Script) :
    Step.checkEach script.visit = .ok () ↔
      ∀ step ∈ forest script.steps, step.checkOwn = .ok () := by
  rw [Step.eachIff, forest, List.forall_mem_map, visit]

theorem visitedIds (script : Script) :
    firstRepeated [] (script.visit.map fun (_, step) => step.id) = none ↔
      (forestIds script.steps).Nodup := by
  rw [firstRepeatedNone, forestIds, forest, List.map_map, visit]
  exact and_iff_left fun _ _ => List.not_mem_nil

theorem WellNamed.usable {script : Script} (named : script.WellNamed) :
    (script.defaults.keys.find? fun name => !isVariableName name) = none :=
  List.find?_eq_none.mpr fun name inside => by simp [named.defaults name inside]

/-- A script with good names is refused for the first fault of its steps. -/
theorem WellNamed.refused {script : Script} (named : script.WellNamed) {fault : StepFault}
    (isFault : Step.checkEach script.visit = .error fault) : script.validate = .error fault := by
  simp only [validate, named.name, named.usable, isFault, Bool.false_eq_true, if_false]

/-- A script passes its check exactly if it has good names and sound steps. -/
theorem validIff (script : Script) :
    script.validate = .ok () ↔ script.WellNamed ∧ Step.Sound script.steps := by
  constructor
  · intro valid
    unfold validate at valid
    split at valid
    · cases valid
    rename_i isNamed
    split at valid
    · cases valid
    rename_i usable
    split at valid
    · cases valid
    rename_i isSound
    split at valid
    · cases valid
    rename_i unrepeated
    refine ⟨⟨Bool.eq_false_iff.mpr isNamed, fun name inside => ?_⟩,
      script.visitedSound.mp isSound, script.visitedIds.mp unrepeated⟩
    simpa using List.find?_eq_none.mp usable name inside
  · intro ⟨named, sound⟩
    simp only [validate, named.name, named.usable, script.visitedSound.mpr sound.each,
      script.visitedIds.mpr sound.distinct, Bool.false_eq_true, if_false]

theorem stepsSound (script : Script) (valid : script.validate = .ok ()) :
    ∀ step ∈ forest script.steps, step.checkOwn = .ok () :=
  (script.validIff.mp valid).2.each

/-- No two steps of a valid script have the same identity. -/
theorem distinctIds {script : Script} (valid : script.validate = .ok ()) :
    (forestIds script.steps).Nodup :=
  (script.validIff.mp valid).2.distinct

end Script

end DeskScript
