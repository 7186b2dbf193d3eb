/-
This file takes the steps that were skipped out of what a run reports. No action depends on what
was reported before it, so that a leaf step has the same effects without them.
-/

import DeskScript.Run.Interpreter

namespace DeskScript

variable {device : Type}

/-! ### What was skipped -/

def TraceEntry.isSkip (entry : TraceEntry) : Bool := entry.outcome = .skip

/-- These news tell that a step was passed over. -/
def RunNews.isSkip : RunNews → Bool
  | .stepFinished entry => entry.isSkip
  | _ => false

def RunEvent.isSkip (event : RunEvent) : Bool := event.news.isSkip

/-- This is a session whose reports do not mention the steps that were skipped. -/
def Session.unskipped (session : Session device) : Session device :=
  { session with
    trace := session.trace.filter fun entry => !entry.isSkip
    events := session.events.filter fun event => !event.isSkip }

def Flow.unskipped (flow : Flow device) : Flow device := (flow.1.unskipped, flow.2)

def ActionRun.unskipped (run : ActionRun device) : ActionRun device :=
  { run with session := run.session.unskipped }

namespace Session

variable (session : Session device) (place : Workplace device)

/-! ### Reporting -/

theorem unskippedPublish (news : RunNews) (told : news.isSkip = false) :
    (session.publish news).unskipped = session.unskipped.publish news := by
  simp [publish, unskipped, RunEvent.isSkip, told]

theorem unskippedRecord (step : Step) (depth : Nat) (outcome : StepOutcome) (notes : StepNotes)
    (error : Option String) (attempts : UInt32) (startedAt : Time.Timestamp)
    (ran : outcome ≠ .skip) :
    (session.record place step depth outcome notes error attempts startedAt).unskipped =
      session.unskipped.record place step depth outcome notes error attempts startedAt := by
  simp [record, publish, unskipped, time, RunEvent.isSkip, RunNews.isSkip,
    TraceEntry.isSkip, ran]

/-- A step that is skipped changes nothing but the reports. -/
theorem unskippedSkip (step : Step) (depth : Nat) (notes : StepNotes) (error : Option String)
    (attempts : UInt32) (startedAt : Time.Timestamp) :
    (session.record place step depth .skip notes error attempts startedAt).unskipped =
      session.unskipped := by
  simp [record, publish, unskipped, RunEvent.isSkip, RunNews.isSkip,
    TraceEntry.isSkip]

theorem unskippedWarn (warning : LoopWarning) :
    (session.warn warning).unskipped = session.unskipped.warn warning := by
  simp [warn, publish, unskipped, RunEvent.isSkip, RunNews.isSkip]

/-! ### Stopping and devices -/

theorem checkpointUnskipped (stepId : String) :
    session.unskipped.checkpoint stepId = (session.checkpoint stepId).unskipped := by
  have sameContext : session.unskipped.context = session.context := rfl
  rw [checkpoint, checkpoint, sameContext]
  cases session.context.checkpoint (some stepId) <;> rfl

theorem sleepUnskipped (duration : Nat) :
    session.unskipped.sleep duration =
      ((session.sleep duration).1.unskipped, (session.sleep duration).2) := rfl

theorem inputUnskipped (action : InputAction) :
    session.unskipped.input place action =
      ((session.input place action).1.unskipped, (session.input place action).2) := rfl

theorem lookUnskipped (look : Look) :
    session.unskipped.look place look =
      ((session.look place look).1.unskipped, (session.look place look).2) := by
  have noted : session.unskipped.note place (.look look) =
      ((session.note place (.look look)).1.unskipped, (session.note place (.look look)).2) := rfl
  rw [Session.look, Session.look, noted]
  generalize session.note place (.look look) = noting
  obtain ⟨after, delay⟩ := noting
  have sameContext : after.unskipped.context = after.context := rfl
  simp only [sameContext]
  cases (after.context.work delay).2 <;> rfl

end Session

/-! ### Actions -/

namespace Leaf

variable (place : Workplace device) (session : Session device)

theorem inputUnskipped (notes : StepNotes) (action : InputAction) :
    input place session.unskipped notes action =
      (input place session notes action).unskipped := by
  rw [input, input, Session.inputUnskipped]
  generalize session.input place action = doing
  obtain ⟨after, _ | fault | _⟩ := doing <;> rfl

theorem pollUnskipped (wait : Wait) (rounds attempts : Nat) :
    poll place wait rounds attempts session.unskipped =
      ((poll place wait rounds attempts session).1.unskipped,
        (poll place wait rounds attempts session).2) := by
  induction rounds generalizing attempts session with
  | zero => rfl
  | succ rounds inductionHypothesis =>
      have sameContext : session.unskipped.context = session.context := rfl
      rw [poll, poll, Session.lookUnskipped, sameContext]
      cases session.context.checkpoint (some wait.stepId) with
      | some abort => rfl
      | none =>
          simp only
          generalize session.look place wait.look = looking
          obtain ⟨after, reason | found | _ | unavailable | _⟩ := looking
          · rfl
          · rfl
          · have sameTime : after.unskipped.context = after.context := rfl
            simp only [sameTime]
            split
            · rfl
            · rw [Session.sleepUnskipped]
              generalize after.sleep _ = sleeping
              obtain ⟨later, _ | reason⟩ := sleeping
              · exact inductionHypothesis later (attempts + 1)
              · rfl
          · rfl
          · rfl

theorem clearOutputsUnskipped (output : Option String) :
    clearOutputs session.unskipped output = (clearOutputs session output).unskipped := by
  cases output <;> rfl

theorem bindAllUnskipped (named : List (String × String)) :
    named.foldl (fun session (name, value) => session.bind name value) session.unskipped =
      (named.foldl (fun session (name, value) => session.bind name value) session).unskipped := by
  induction named generalizing session with
  | nil => rfl
  | cons head rest inductionHypothesis =>
      exact inductionHypothesis (session.bind head.1 head.2)

theorem useMatchUnskipped (notes : StepNotes) (sensing : Sensing) (found : Match Float) :
    useMatch place session.unskipped notes sensing found =
      (useMatch place session notes sensing found).unskipped := by
  rw [useMatch, useMatch, bindAllUnskipped]
  cases sensing.click with
  | none => rfl
  | some click =>
      simp only
      split
      · exact inputUnskipped place _ _ _
      · rfl

theorem senseUnskipped (stepId : String) (notes : StepNotes) (target : Target)
    (sensing : Sensing) :
    sense place stepId session.unskipped notes target sensing =
      (sense place stepId session notes target sensing).unskipped := by
  rw [sense, sense, clearOutputsUnskipped]
  generalize clearOutputs session sensing.output = ready
  have sameContext : ready.unskipped.context = ready.context := rfl
  simp only [sameContext, pollUnskipped]
  generalize poll place _ _ _ ready = polling
  obtain ⟨after, found | failure | _⟩ := polling
  · exact useMatchUnskipped place after notes sensing found
  · rfl
  · rfl

/-- An action does the same after other reports. -/
theorem actUnskipped (stepId : String) (action : Action) :
    act place stepId session.unskipped action = (act place stepId session action).unskipped := by
  have sameBindings : session.unskipped.bindings = session.bindings := rfl
  cases action with
  | click x y button count =>
      rw [act, act, sameBindings]
      generalize position session.bindings x y = found
      obtain ⟨failure | ⟨x, y⟩, notes⟩ := found
      · rfl
      · exact inputUnskipped place session notes _
  | move x y duration =>
      rw [act, act, sameBindings]
      generalize position session.bindings x y = found
      obtain ⟨failure | ⟨x, y⟩, notes⟩ := found
      · rfl
      · exact inputUnskipped place session notes _
  | type text interval => exact inputUnskipped place session _ _
  | hotkey keys =>
      rw [act, act, sameBindings]
      generalize pressedKeys session.bindings keys .empty = found
      obtain ⟨_ | ⟨key, rest⟩, notes⟩ := found
      · rfl
      · exact inputUnskipped place session notes _
  | wait duration =>
      rw [act, act, Session.sleepUnskipped]
      generalize session.sleep duration.toNat = sleeping
      obtain ⟨after, _ | reason⟩ := sleeping <;> rfl
  | waitImage template sensing => exact senseUnskipped place session stepId _ _ sensing
  | searchText query exactly sensing => exact senseUnskipped place session stepId _ _ sensing

/-! ### Attempts -/

theorem succeedUnskipped (step : Step) (depth : Nat) (startedAt : Time.Timestamp)
    (notes : StepNotes) (number : Nat) :
    succeed place step depth startedAt session.unskipped notes number =
      (succeed place step depth startedAt session notes number).unskipped := by
  rw [succeed, succeed, ← Session.unskippedRecord _ _ _ _ _ _ _ _ _ (by decide)]
  simp only [Session.sleepUnskipped]
  generalize Session.sleep _ _ = sleeping
  obtain ⟨after, _ | reason⟩ := sleeping <;> rfl

theorem failUnskipped (step : Step) (depth : Nat) (startedAt : Time.Timestamp)
    (notes : StepNotes) (failure : StepFailure) (number : Nat) :
    fail place step depth startedAt session.unskipped notes failure number =
      (fail place step depth startedAt session notes failure number).unskipped := by
  have ran : failure.outcome ≠ .skip := by cases failure <;> simp [StepFailure.outcome]
  rw [fail, fail, ← Session.unskippedRecord _ _ _ _ _ _ _ _ _ ran]
  split <;> rfl

/-- A leaf step that is run has the same effects after other reports. -/
theorem attemptUnskipped (step : Step) (action : Action) (depth : Nat)
    (startedAt : Time.Timestamp) : ∀ (left number : Nat) (session : Session device),
    attempt place step action depth startedAt left number session.unskipped =
      (attempt place step action depth startedAt left number session).unskipped
  | left, number, session => by
      rw [attempt, attempt, actUnskipped]
      generalize act place step.id session action = run
      obtain ⟨after, notes, _ | failure | _⟩ := run
      · exact succeedUnskipped place after step depth startedAt notes number
      · cases failure with
        | aborted abort =>
            have recorded := after.unskippedRecord place step depth .aborted notes none
              (UInt32.ofNat number) startedAt (by decide)
            exact congrArg (Flow.halt · (.aborted abort)) recorded.symm
        | _ =>
            cases left with
            | zero => exact failUnskipped place after step depth startedAt notes _ number
            | succ left =>
                simp only [ActionRun.unskipped]
                split
                · exact attemptUnskipped step action depth startedAt left (number + 1) after
                · exact failUnskipped place after step depth startedAt notes _ number
      · rfl

end Leaf

end DeskScript
