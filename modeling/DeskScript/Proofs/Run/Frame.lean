/-
This file says which parts of a run are quiet. They leave everything that the run reports as it is,
and only the record of a step and a warning add to it.
-/

import DeskScript.Run.Interpreter

namespace DeskScript

variable {device : Type}

/-! ### The clock -/

namespace RunContext

theorem cancelAfterRunId (context : RunContext) (delay : Nat) :
    (context.cancelAfter delay).runId = context.runId := by
  rw [cancelAfter]
  split <;> rfl

theorem workRunId (context : RunContext) (duration : Nat) :
    (context.work duration).1.runId = context.runId := by
  rw [work]
  split
  · rfl
  · split
    · rfl
    · simp only
      split
      · split <;> rfl
      · rfl

theorem sleepRunId (context : RunContext) (duration : Nat) :
    (context.sleep duration).1.runId = context.runId := by
  rw [sleepNow, workRunId]

end RunContext

/-! ### Quiet parts of a run -/

/-- A part of a run is quiet when it neither records nor publishes anything. -/
structure Session.Quiet (before after : Session device) : Prop where
  trace : after.trace = before.trace
  events : after.events = before.events
  runId : after.context.runId = before.context.runId

namespace Session

theorem Quiet.refl (session : Session device) : Quiet session session := ⟨rfl, rfl, rfl⟩

theorem Quiet.trans {before middle after : Session device} (first : Quiet before middle)
    (second : Quiet middle after) : Quiet before after where
  trace := second.trace.trans first.trace
  events := second.events.trans first.events
  runId := second.runId.trans first.runId

theorem sleepQuiet (session : Session device) (duration : Nat) :
    Quiet session (session.sleep duration).1 :=
  ⟨rfl, rfl, session.context.sleepRunId duration⟩

theorem noteQuiet (session : Session device) (place : Workplace device) (call : DeviceCall) :
    Quiet session (session.note place call).1 := by
  rw [note]
  simp only
  split
  · exact ⟨rfl, rfl, session.context.cancelAfterRunId _⟩
  · exact ⟨rfl, rfl, rfl⟩

theorem inputQuiet (session : Session device) (place : Workplace device) (action : InputAction) :
    Quiet session (session.input place action).1 := by
  have noted := session.noteQuiet place (.input action)
  exact ⟨noted.trace, noted.events, noted.runId⟩

/-- A look leaves the variables and the warnings alone. -/
theorem lookKeeps (session : Session device) (place : Workplace device) (look : Look) :
    (session.look place look).1.bindings = session.bindings ∧
      (session.look place look).1.warnings = session.warnings := by
  rw [Session.look]
  dsimp only
  split <;> exact ⟨rfl, rfl⟩

theorem lookQuiet (session : Session device) (place : Workplace device) (look : Look) :
    Quiet session (session.look place look).1 := by
  have noted := session.noteQuiet place (.look look)
  rw [Session.look]
  generalize session.note place (.look look) = noting at noted ⊢
  obtain ⟨after, delay⟩ := noting
  have worked := after.context.workRunId delay
  simp only
  split
  · exact noted.trans ⟨rfl, rfl, worked⟩
  · exact noted.trans ⟨rfl, rfl, worked⟩

end Session

/-! ### Actions are quiet -/

namespace Leaf

open Session (Quiet)

theorem inputSession (place : Workplace device) (session : Session device) (notes : StepNotes)
    (action : InputAction) :
    (input place session notes action).session = (session.input place action).1 := by
  rw [input]
  generalize session.input place action = doing
  obtain ⟨after, _ | fault | _⟩ := doing <;> rfl

theorem inputNotes (place : Workplace device) (session : Session device) (notes : StepNotes)
    (action : InputAction) : (input place session notes action).notes = notes := by
  rw [input]
  generalize session.input place action = doing
  obtain ⟨after, _ | fault | _⟩ := doing <;> rfl

theorem clearOutputsQuiet (session : Session device) (output : Option String) :
    Quiet session (clearOutputs session output) := by
  cases output <;> exact ⟨rfl, rfl, rfl⟩

/-- In a search there are only looks and sleeps, so it keeps what all of these keep. -/
structure SearchKeeps (place : Workplace device)
    (kept : Session device → Session device → Prop) : Prop where
  refl : ∀ session, kept session session
  trans : ∀ {before middle after}, kept before middle → kept middle after → kept before after
  look : ∀ session look, kept session (session.look place look).1
  sleep : ∀ session duration, kept session (session.sleep duration).1

theorem pollKeeps {place : Workplace device} {kept : Session device → Session device → Prop}
    (keeps : SearchKeeps place kept) (wait : Wait) (rounds attempts : Nat)
    (session : Session device) : kept session (poll place wait rounds attempts session).1 := by
  induction rounds generalizing attempts session with
  | zero => exact keeps.refl session
  | succ rounds inductionHypothesis =>
      rw [poll]
      split
      · exact keeps.refl session
      · have looked := keeps.look session wait.look
        generalize session.look place wait.look = looking at looked ⊢
        obtain ⟨after, reason | found | _ | unavailable | _⟩ := looking
        · exact looked
        · exact looked
        · simp only
          split
          · exact looked
          · generalize min place.config.pollWait
              (wait.timeout - (after.context.now - wait.startedAt)) = duration
            have slept := keeps.trans looked (keeps.sleep after duration)
            generalize after.sleep duration = sleeping at slept ⊢
            obtain ⟨later, _ | reason⟩ := sleeping
            · exact keeps.trans slept (inductionHypothesis (attempts + 1) later)
            · exact slept
        · exact looked
        · exact looked

theorem searchQuiet (place : Workplace device) : SearchKeeps place Quiet where
  refl := Quiet.refl
  trans := Quiet.trans
  look session := session.lookQuiet place
  sleep := Session.sleepQuiet

/-! ### Actions bind few variables -/

/-- Every match binds these names. -/
def matchedNames : List String := ["matched_text", "matched_x", "matched_y", "matched_confidence"]

def outputNames : Option String → List String
  | none => []
  | some output => [output, outputX output, outputY output]

/-- No other names are bound or unbound by an action. -/
def boundNames : Action → List String
  | .waitImage _ sensing | .searchText _ _ sensing => matchedNames ++ outputNames sensing.output
  | _ => []

/-- An action looks, sleeps, gives input and binds names, so it keeps what all of these keep. -/
structure ActionKeeps (place : Workplace device) (names : List String)
    (kept : Session device → Session device → Prop) : Prop extends SearchKeeps place kept where
  input : ∀ session action, kept session (session.input place action).1
  bind : ∀ session name value, name ∈ names → kept session (session.bind name value)
  unbind : ∀ session name, name ∈ names → kept session (session.unbind name)

section

variable {place : Workplace device} {names : List String}
  {kept : Session device → Session device → Prop}

theorem clearOutputsKeeps (keeps : ActionKeeps place names kept) (session : Session device)
    {output : Option String} (inside : outputNames output ⊆ names) :
    kept session (clearOutputs session output) := by
  cases output with
  | none => exact keeps.refl session
  | some output =>
      obtain ⟨isOutput, isX, isY, -⟩ :
          output ∈ names ∧ outputX output ∈ names ∧ outputY output ∈ names ∧ [] ⊆ names := by
        simpa only [outputNames, List.cons_subset] using inside
      exact keeps.trans (keeps.trans (keeps.unbind session _ isOutput) (keeps.unbind _ _ isX))
        (keeps.unbind _ _ isY)

theorem bindAllKeeps (keeps : ActionKeeps place names kept) (session : Session device)
    {named : List (String × String)} (inside : named.map Prod.fst ⊆ names) :
    kept session (named.foldl (fun session (name, value) => session.bind name value) session) := by
  induction named generalizing session with
  | nil => exact keeps.refl session
  | cons head rest inductionHypothesis =>
      rw [List.map_cons, List.cons_subset] at inside
      exact keeps.trans (keeps.bind session head.1 head.2 inside.1)
        (inductionHypothesis (session.bind head.1 head.2) inside.2)

theorem matchBindingsNames (found : Match Float) (output : Option String) :
    (matchBindings found output).map Prod.fst = matchedNames ++ outputNames output := by
  cases output <;> rfl

theorem useMatchKeeps (keeps : ActionKeeps place names kept) (session : Session device)
    (notes : StepNotes) {sensing : Sensing} (found : Match Float)
    (inside : matchedNames ++ outputNames sensing.output ⊆ names) :
    kept session (useMatch place session notes sensing found).session := by
  have bound := bindAllKeeps keeps session (matchBindingsNames found sensing.output ▸ inside)
  rw [useMatch]
  cases sensing.click with
  | none => exact bound
  | some click =>
      simp only
      split
      · rw [inputSession]
        exact keeps.trans bound (keeps.input _ _)
      · exact bound

theorem senseKeeps (keeps : ActionKeeps place names kept) (stepId : String)
    (session : Session device) (notes : StepNotes) (target : Target) {sensing : Sensing}
    (inside : matchedNames ++ outputNames sensing.output ⊆ names) :
    kept session (sense place stepId session notes target sensing).session := by
  have cleared := clearOutputsKeeps keeps session (List.append_subset.mp inside).2
  rw [sense]
  generalize clearOutputs session sensing.output = ready at cleared ⊢
  have polled := keeps.trans cleared (pollKeeps keeps.toSearchKeeps
    ⟨stepId, ⟨target, sensing.region, sensing.threshold⟩, sensing.timeout.toNat,
      ready.context.now⟩ (sensing.timeout.toNat + 1) 0 ready)
  generalize poll place ⟨stepId, ⟨target, sensing.region, sensing.threshold⟩,
    sensing.timeout.toNat, ready.context.now⟩ (sensing.timeout.toNat + 1) 0 ready = polling
    at polled ⊢
  obtain ⟨after, found | failure | _⟩ := polling
  · exact keeps.trans polled (useMatchKeeps keeps after notes found inside)
  · exact polled
  · exact polled

theorem actKeeps {action : Action} (keeps : ActionKeeps place (boundNames action) kept)
    (stepId : String) (session : Session device) :
    kept session (act place stepId session action).session := by
  have put (notes : StepNotes) (action : InputAction) :
      kept session (input place session notes action).session := by
    rw [inputSession]
    exact keeps.input session action
  cases action with
  | click x y button count =>
      rw [act]
      split
      · exact keeps.refl session
      · exact put _ _
  | move x y duration =>
      rw [act]
      split
      · exact keeps.refl session
      · exact put _ _
  | type text interval => exact put _ _
  | hotkey keys =>
      rw [act]
      split
      · exact keeps.refl session
      · exact put _ _
  | wait duration =>
      have slept := keeps.sleep session duration.toNat
      rw [act]
      generalize session.sleep duration.toNat = sleeping at slept ⊢
      obtain ⟨after, _ | reason⟩ := sleeping <;> exact slept
  | waitImage template sensing =>
      exact senseKeeps keeps stepId session _ _ (List.Subset.refl _)
  | searchText query exactly sensing =>
      exact senseKeeps keeps stepId session _ _ (List.Subset.refl _)

end

/-- An action is quiet. Its step is recorded after the action. -/
theorem actionQuiet (place : Workplace device) (names : List String) :
    ActionKeeps place names Quiet :=
  { searchQuiet place with
    input := fun session => session.inputQuiet place
    bind := fun _ _ _ _ => ⟨rfl, rfl, rfl⟩
    unbind := fun _ _ _ => ⟨rfl, rfl, rfl⟩ }

end Leaf

/-! ### Small runs -/

/-- A run whose report passes a test has ended with this report. -/
theorem Interpreter.reportFound {place : Workplace device} {script : Script}
    {session : Session device} {test : RunReport → Bool}
    (ended : (run place script session).2.any test = true) :
    ∃ final found, run place script session = (final, some found) ∧ test found = true := by
  cases isRun : run place script session with
  | mk final report =>
      rw [isRun, Option.any_eq_true] at ended
      obtain ⟨found, rfl, passed⟩ := ended
      exact ⟨final, found, rfl, passed⟩

/-- These devices do at once what they are asked to do, and never find anything. -/
def Devices.idle : Devices Unit where
  note state _ := (state, .immediate)
  input state _ := (state, .done)
  look state _ := (state, .nothing)

def Workplace.idle : Workplace Unit := ⟨.idle, .standard, .epoch⟩

/-- Here no step may be in another one. -/
def Workplace.shallow : Workplace Unit :=
  { Workplace.idle with config := { EngineConfig.standard with maxDepth := 1 } }

/-- Here every failure of a step ends the run. -/
def Workplace.strict : Workplace Unit :=
  { Workplace.idle with config := { EngineConfig.standard with failurePolicy := .abortOnFailure } }

/-- This script waits twice for five milliseconds. -/
def Interpreter.waitTwice : Script :=
  { Script.new "script" "wait" .epoch with
    steps := [Step.newRepeat "twice" 2 [Step.newWait "pause" 5]] }

/-- In this script a step fails because it has no key to press. -/
def Interpreter.pressNothing : Script :=
  { Script.new "script" "press" .epoch with steps := [Step.newHotkey "press" []] }

end DeskScript
