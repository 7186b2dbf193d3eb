/-
This file shows how the execution of a leaf step ends. It is tried until an attempt does not fail or
may not be repeated, and then it is recorded once.
-/

import DeskScript.Proofs.Run.Frame

namespace DeskScript

variable {device : Type}

namespace Session

/-- This is the entry with which a step ends. -/
def entry (session : Session device) (place : Workplace device) (step : Step) (depth : Nat)
    (outcome : StepOutcome) (notes : StepNotes) (error : Option String) (attempts : UInt32)
    (startedAt : Time.Timestamp) : TraceEntry where
  stepId := step.id
  stepType := step.stepType
  depth := UInt64.ofNat depth
  outcome
  matchedText := notes.matchedText
  bindings := session.bindings
  unresolved := notes.unresolved
  error
  attempts
  startedAt
  finishedAt := session.time place

theorem recordEntry (session : Session device) (place : Workplace device) (step : Step)
    (depth : Nat) (outcome : StepOutcome) (notes : StepNotes) (error : Option String)
    (attempts : UInt32) (startedAt : Time.Timestamp) :
    ∃ entry : TraceEntry, entry.stepId = step.id ∧ entry.outcome = outcome ∧
      entry.attempts = attempts ∧
      (session.record place step depth outcome notes error attempts startedAt).trace =
        session.trace.push entry :=
  ⟨_, rfl, rfl, rfl, rfl⟩

end Session

namespace Leaf

/-! ### Attempts -/

/-- These are the attempts at an action after the first one, each made where the last one ended. -/
def furtherAttempt (place : Workplace device) (stepId : String) (action : Action) :
    Nat → Session device → ActionRun device
  | 0, session => act place stepId session action
  | later + 1, session =>
      furtherAttempt place stepId action later (act place stepId session action).session

theorem furtherAttemptKeeps {place : Workplace device} {action : Action}
    {kept : Session device → Session device → Prop}
    (keeps : ActionKeeps place (boundNames action) kept) (stepId : String) (later : Nat)
    (session : Session device) :
    kept session (furtherAttempt place stepId action later session).session := by
  induction later generalizing session with
  | zero => exact actKeeps keeps stepId session
  | succ later inductionHypothesis =>
      exact keeps.trans (actKeeps keeps stepId session) (inductionHypothesis _)

theorem furtherAttemptQuiet (place : Workplace device) (stepId : String) (action : Action)
    (later : Nat) (session : Session device) :
    Session.Quiet session (furtherAttempt place stepId action later session).session :=
  furtherAttemptKeeps (actionQuiet place _) stepId later session

/-- After its last attempt a step is recorded with the number of this attempt. -/
def conclude (place : Workplace device) (step : Step) (depth : Nat) (startedAt : Time.Timestamp)
    (run : ActionRun device) (number : Nat) : Flow device :=
  match run.ending with
  | .brokeDown => .halt run.session .brokeDown
  | .done => succeed place step depth startedAt run.session run.notes number
  | .failed (.aborted abort) =>
      .halt (run.session.record place step depth .aborted run.notes none
        (UInt32.ofNat number) startedAt) (.aborted abort)
  | .failed failure => fail place step depth startedAt run.session run.notes failure number

/-- An attempt may be repeated when it failed in a way from which the run can recover. -/
def Repeatable (run : ActionRun device) : Prop :=
  ∃ failure, run.ending = .failed failure ∧ failure.isRecoverable = true

def isRepeatable (run : ActionRun device) : Bool :=
  match run.ending with
  | .failed failure => failure.isRecoverable
  | _ => false

theorem isRepeatableIff (run : ActionRun device) : isRepeatable run = true ↔ Repeatable run := by
  obtain ⟨after, notes, _ | failure | _⟩ := run
  · exact ⟨nofun, nofun⟩
  · exact ⟨fun recoverable => ⟨failure, rfl, recoverable⟩, fun ⟨_, rfl, recoverable⟩ => recoverable⟩
  · exact ⟨nofun, nofun⟩

instance (run : ActionRun device) : Decidable (Repeatable run) :=
  decidable_of_iff _ (isRepeatableIff run)

/-- Attempts are made as long as they may be repeated and others are left. -/
theorem attemptConcludes (place : Workplace device) (step : Step) (action : Action) (depth : Nat)
    (startedAt : Time.Timestamp) (left number : Nat) (session : Session device) :
    ∃ last ≤ left,
      (∀ earlier < last, Repeatable (furtherAttempt place step.id action earlier session)) ∧
      (Repeatable (furtherAttempt place step.id action last session) → last = left) ∧
      attempt place step action depth startedAt left number session =
        conclude place step depth startedAt (furtherAttempt place step.id action last session)
          (number + last) := by
  induction left generalizing number session with
  | zero =>
      refine ⟨0, Nat.le_refl 0, fun _ less => absurd less (Nat.not_lt_zero _), fun _ => rfl, ?_⟩
      rw [attempt, furtherAttempt, conclude, Nat.add_zero]
      generalize act place step.id session action = run
      obtain ⟨after, notes, _ | failure | _⟩ := run
      · rfl
      · cases failure <;> rfl
      · rfl
  | succ left inductionHypothesis =>
      by_cases repeatable : Repeatable (act place step.id session action)
      · obtain ⟨last, bound, repeated, final, concluded⟩ :=
          inductionHypothesis (number + 1) (act place step.id session action).session
        refine ⟨last + 1, Nat.succ_le_succ bound, ?_, fun more => ?_, ?_⟩
        · intro earlier less
          cases earlier with
          | zero => exact repeatable
          | succ earlier => exact repeated earlier (Nat.lt_of_succ_lt_succ less)
        · rw [final more]
        · rw [furtherAttempt, Nat.add_comm last 1, ← Nat.add_assoc, ← concluded, attempt]
          obtain ⟨failure, failed, recoverable⟩ := repeatable
          rw [failed]
          cases failure <;> first | contradiction | rfl
      · refine ⟨0, Nat.zero_le _, fun _ less => absurd less (Nat.not_lt_zero _),
          fun more => absurd more repeatable, ?_⟩
        rw [attempt, furtherAttempt, conclude, Nat.add_zero]
        generalize act place step.id session action = run at repeatable ⊢
        obtain ⟨after, notes, _ | failure | _⟩ := run
        · rfl
        · have final : ¬failure.isRecoverable = true := fun recoverable =>
            repeatable ⟨failure, rfl, recoverable⟩
          cases failure <;> first | rfl | exact if_neg final
        · rfl

/-! ### Endings -/

/--
These are the ways in which a leaf step ends that is recorded: with an outcome and perhaps an error
in its entry, and perhaps with the run halting.
-/
inductive Ending (config : EngineConfig) (step : Step) :
    ActionEnd → StepOutcome → Option String → Option Halt → Prop where
  | success : Ending config step .done .success none none
  /-- The run was stopped in the pause after the step. -/
  | stopped (abort : Abort) : Ending config step .done .success none (some (.aborted abort))
  | aborted (abort : Abort) :
      Ending config step (.failed (.aborted abort)) .aborted none (some (.aborted abort))
  | tolerated (failure : StepFailure) (going : endsRun config step.header failure = false) :
      Ending config step (.failed failure) failure.outcome (some failure.message) none
  | fatal (failure : StepFailure) (ending : endsRun config step.header failure = true) :
      Ending config step (.failed failure) failure.outcome (some failure.message)
        (some (.failed failure.message (some step.id)))

/-- After its last attempt a step is recorded once, and then only time passes. -/
theorem concludeRecords (place : Workplace device) (step : Step) (depth : Nat)
    (startedAt : Time.Timestamp) (run : ActionRun device) (number : Nat)
    (works : (conclude place step depth startedAt run number).2 ≠ some .brokeDown) :
    ∃ outcome error context,
      Ending place.config step run.ending outcome error
        (conclude place step depth startedAt run number).2 ∧
      context.runId = run.session.context.runId ∧
      (conclude place step depth startedAt run number).1 =
        { run.session.record place step depth outcome run.notes error (UInt32.ofNat number)
            startedAt with context } := by
  obtain ⟨after, notes, ending⟩ := run
  have untimely (outcome : StepOutcome) (error : Option String) :
      after.record place step depth outcome notes error (UInt32.ofNat number) startedAt =
        { after.record place step depth outcome notes error (UInt32.ofNat number) startedAt with
          context := after.context } := rfl
  cases ending with
  | brokeDown => exact absurd rfl works
  | done =>
      rw [conclude, succeed]
      generalize isRecorded : after.record place step depth .success notes none
        (UInt32.ofNat number) startedAt = recorded
      have sameId : recorded.context.runId = after.context.runId := by rw [← isRecorded]; rfl
      have slept := (recorded.sleepQuiet place.config.stepDelay.toNat).runId
      have timely : (recorded.sleep place.config.stepDelay.toNat).1 =
          { recorded with
            context := (recorded.sleep place.config.stepDelay.toNat).1.context } := rfl
      generalize recorded.sleep place.config.stepDelay.toNat = sleeping at slept timely ⊢
      obtain ⟨later, _ | reason⟩ := sleeping
      · exact ⟨_, _, later.context, .success, slept.trans sameId, by rw [isRecorded]; exact timely⟩
      · exact ⟨_, _, later.context, .stopped _, slept.trans sameId,
          by rw [isRecorded]; exact timely⟩
  | failed failure =>
      cases failure with
      | aborted abort => exact ⟨_, _, after.context, .aborted abort, rfl, untimely _ _⟩
      | _ =>
          simp only [conclude, fail]
          split
          · rename_i ending
            exact ⟨_, _, after.context, .fatal _ ending, rfl, untimely _ _⟩
          · rename_i going
            exact ⟨_, _, after.context, .tolerated _ (Bool.eq_false_iff.mpr going), rfl,
              untimely _ _⟩

/-- When a step is concluded, it may be recorded, but nothing is called or bound any more. -/
theorem concludeFrame (place : Workplace device) (step : Step) (depth : Nat)
    (startedAt : Time.Timestamp) (run : ActionRun device) (number : Nat) :
    ∃ context trace events,
      (conclude place step depth startedAt run number).1 =
        { run.session with context, trace, events } ∧
      trace.size ≤ run.session.trace.size + 1 := by
  obtain ⟨after, notes, ending⟩ := run
  have pushed (outcome : StepOutcome) (error : Option String) :
      (after.record place step depth outcome notes error (UInt32.ofNat number)
        startedAt).trace.size ≤ after.trace.size + 1 := by
    simp [Session.record]
  cases ending with
  | brokeDown => exact ⟨after.context, after.trace, after.events, rfl, Nat.le_succ _⟩
  | done =>
      have slept (session : Session device) (duration : Nat) :
          (session.sleep duration).1 =
            { session with context := (session.sleep duration).1.context } := rfl
      have recorded := slept (after.record place step depth .success notes none
        (UInt32.ofNat number) startedAt) place.config.stepDelay.toNat
      rw [conclude, succeed]
      generalize Session.sleep _ _ = sleeping at recorded ⊢
      obtain ⟨later, _ | reason⟩ := sleeping
      · exact ⟨later.context, _, _, recorded, pushed .success none⟩
      · exact ⟨later.context, _, _, recorded, pushed .success none⟩
  | failed failure =>
      cases failure with
      | aborted abort => exact ⟨_, _, _, rfl, pushed .aborted none⟩
      | _ =>
          simp only [conclude, fail]
          split <;> exact ⟨_, _, _, rfl, pushed _ _⟩

/-- However often a step is tried, it is recorded once, unless a device breaks down. -/
theorem attemptRecords (place : Workplace device) (step : Step) (action : Action) (depth : Nat)
    (startedAt : Time.Timestamp) (left number : Nat) (session : Session device)
    (works : (attempt place step action depth startedAt left number session).2 ≠ some .brokeDown) :
    ∃ entry : TraceEntry, entry.stepId = step.id ∧
      (attempt place step action depth startedAt left number session).1.trace =
        session.trace.push entry := by
  obtain ⟨last, -, -, -, concluded⟩ :=
    attemptConcludes place step action depth startedAt left number session
  rw [concluded] at works ⊢
  obtain ⟨outcome, error, context, -, -, recorded⟩ :=
    concludeRecords place step depth startedAt _ _ works
  have acted := (furtherAttemptQuiet place step.id action last session).trace
  generalize furtherAttempt place step.id action last session = run at recorded acted ⊢
  obtain ⟨entry, own, -, -, traced⟩ := run.session.recordEntry place step depth outcome run.notes
    error (UInt32.ofNat (number + last)) startedAt
  exact ⟨entry, own, by rw [recorded, ← acted]; exact traced⟩

end Leaf

end DeskScript
