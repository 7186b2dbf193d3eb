/-
This file shows that a step which was switched off in a document of the first version stays inert
when the document is loaded. Only the probe of a condition on the screen looks at the screen.
-/

import DeskScript.Proofs.Document.LoadedPlaces
import DeskScript.Proofs.Run.DisabledSteps

namespace DeskScript

/-- A step is inert in every run of a script, whatever the devices do. -/
def Script.Inert (script : Script) (step : Step) : Prop :=
  ∀ {device : Type} (place : Workplace device) (context : RunContext) (bindings : Bindings)
    (state : device), Interpreter.Inert place script (Session.start context bindings state) step

/-- A step of a valid script that is not enabled is inert in all its runs. -/
theorem Script.disabledInert {script : Script} {step : Step} (valid : script.validate = .ok ())
    (inside : step ∈ Step.forest script.steps) (disabled : step.header.enabled = false) :
    script.Inert step := by
  intro device place context bindings state
  obtain ⟨⟨depth, found⟩, visited, rfl⟩ := List.mem_map.mp inside
  exact Interpreter.disabledInert (distinctIds valid) visited disabled

namespace Upgrade

/-- A step of the first version has been switched off. -/
def SwitchedOff (old : Members) : Prop := Json.member? old "enabled" = some (.bool false)

/-- The counterpart of a step that has been switched off is inert. -/
structure Stilled (script : Script) (old : Members) (step : Step) : Prop where
  counterpart : Counterpart old step
  inert : SwitchedOff old → script.Inert step

end Upgrade

namespace Document

variable {ids ids' : IdSource} {now : Time.Timestamp} {content : ByteArray} {script : Script}
  {body : Json}

/--
When a document of the first version is loaded, every step that was switched off has an inert
counterpart at its place. It has become nothing else, unless it is a condition on the screen.
-/
theorem switchedOffStilled (isOld : IsOld content body)
    (loaded : load ids now content = .ok (script, ids')) :
    Upgrade.InPlace (Upgrade.Stilled script) (Upgrade.itemsOfBody body) script.steps := by
  obtain ⟨_, -, -, valid⟩ := loadParts isOld loaded
  refine (counterpartsInPlace isOld loaded).imp fun old step inside counterpart => ?_
  refine ⟨counterpart, fun switchedOff => Script.disabledInert valid inside ?_⟩
  rw [counterpart.enabled, Upgrade.flagOr, switchedOff]
  rfl

/-- This key and this condition have been switched off. -/
def mutedBell : Upgrade.Members :=
  [("enabled", .bool false), ("keys", .array [.string "f1"]), ("step_id", .string "bell"),
    ("step_type", .string "keyboard_hotkey")]

def shutDoor : Upgrade.Members :=
  [("condition_type", .string "image_exists"),
    ("condition_value", .object [("image_path", .string "door.png")]), ("enabled", .bool false),
    ("step_id", .string "door"), ("step_type", .string "if_condition"),
    ("true_steps", .array [.object mutedBell])]

def shutLookout : Json :=
  .object [("name", .string "lookout"), ("steps", .array [.object shutDoor])]

def shutDocument : Json := .object [("macro", shutLookout), ("schema_version", .string "1.0")]

theorem shutParsed : parse shutDocument.pretty.toUTF8 = .ok shutDocument := by
  have storable : shutDocument.IsStorable := by
    simp [shutDocument, shutLookout, shutDoor, mutedBell, Json.IsStorable, Json.AreStorable,
      Json.HaveStorable]
  exact parseObject _ _ storable (by decide)

theorem shutIsOld : IsOld shutDocument.pretty.toUTF8 shutLookout :=
  .ofParsed shutParsed rfl rfl rfl

theorem switchedOffStilledLookout : ∃ script ids',
    load countedIds .epoch shutDocument.pretty.toUTF8 = .ok (script, ids') ∧
      Upgrade.InPlace (Upgrade.Stilled script) [.object shutDoor] script.steps ∧
      ∃ final found, Interpreter.run attentive script stale = (final, some found) ∧
        found.trace.map (fun entry => (entry.stepId, entry.outcome)) =
          [("door-probe", .success), ("door", .skip)] := by
  have ended : ((load countedIds .epoch shutDocument.pretty.toUTF8).toOption.any
      fun result => (Interpreter.run attentive result.1 stale).2.any fun found =>
        found.trace.map (fun entry => (entry.stepId, entry.outcome)) =
          [("door-probe", .success), ("door", .skip)]) = true := by
    rw [load, shutParsed]
    decide +kernel
  cases loaded : load countedIds .epoch shutDocument.pretty.toUTF8 with
  | error fault =>
      rw [loaded] at ended
      cases ended
  | ok result =>
      obtain ⟨script, ids'⟩ := result
      rw [loaded] at ended
      obtain ⟨final, found, isRun, isTrace⟩ := Interpreter.reportFound ended
      exact ⟨script, ids', rfl, switchedOffStilled shutIsOld loaded, final, found, isRun,
        of_decide_eq_true isTrace⟩

/-- The probe of a condition that has been switched off still looks at the screen. -/
theorem switchedOffProbeLooks : ∃ script ids' probe branch,
    load countedIds .epoch shutDocument.pretty.toUTF8 = .ok (script, ids') ∧
      Upgrade.SwitchedOff shutDoor ∧ Upgrade.itemsOfBody shutLookout = [.object shutDoor] ∧
      script.steps = [probe, branch] ∧ probe.id = "door-probe" ∧ branch.id = "door" ∧
      ¬Interpreter.Inert attentive script stale probe := by
  have looks : ((load countedIds .epoch shutDocument.pretty.toUTF8).toOption.any fun result =>
      result.1.steps.map Step.id = ["door-probe", "door"] &&
        !((Interpreter.Moment.start result.1 stale).next attentive).session.calls.isEmpty) =
          true := by
    rw [load, shutParsed]
    decide +kernel
  cases loaded : load countedIds .epoch shutDocument.pretty.toUTF8 with
  | error fault =>
      rw [loaded] at looks
      cases looks
  | ok result =>
      obtain ⟨script, ids'⟩ := result
      rw [loaded] at looks
      obtain ⟨isIds, called⟩ := Bool.and_eq_true_iff.mp looks
      obtain ⟨probe, rest, isSteps, isProbe, isRest⟩ :=
        List.map_eq_cons_iff.mp (of_decide_eq_true isIds)
      obtain ⟨branch, last, rfl, isBranch, isLast⟩ := List.map_eq_cons_iff.mp isRest
      rw [List.map_eq_nil_iff.mp isLast] at isSteps
      refine ⟨script, ids', probe, branch, rfl, rfl, rfl, isSteps, isProbe, isBranch,
        fun inert => ?_⟩
      have isActor : (Interpreter.Moment.start script stale).actor? = some probe.id := by
        rw [Interpreter.Moment.start, isSteps]
        rfl
      have unmoved := inert.unmoved _ .refl isActor
      rw [unmoved.calls] at called
      cases called

end Document

end DeskScript
