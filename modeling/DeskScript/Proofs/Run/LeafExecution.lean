/-
This file says all about the execution of a leaf step: how often it is tried, with which entry it is
recorded, and whether the run halts after it. A run that is not completed halts at a checkpoint,
before a step that is too deep, or with a leaf step.
-/

import DeskScript.Proofs.Run.Arrival
import DeskScript.Proofs.Run.Moves
import DeskScript.Proofs.Run.Telling

namespace DeskScript

variable {device : Type}

namespace Leaf

/-- A leaf step that is recorded has done its work, or it has failed or been aborted. -/
theorem Ending.outcomes {config : EngineConfig} {step : Step} {ending : ActionEnd}
    {outcome : StepOutcome} {error : Option String} {halt : Option Halt}
    (ends : Ending config step ending outcome error halt) :
    outcome = .success ∨ outcome = .aborted ∨ outcome = .timeout ∨ outcome = .error := by
  cases ends with
  | success => exact .inl rfl
  | stopped => exact .inl rfl
  | aborted => exact .inr (.inl rfl)
  | tolerated failure =>
      cases failure with
      | matchTimeout => exact .inr (.inr (.inl rfl))
      | _ => exact .inr (.inr (.inr rfl))
  | fatal failure =>
      cases failure with
      | matchTimeout => exact .inr (.inr (.inl rfl))
      | _ => exact .inr (.inr (.inr rfl))

/-- A step whose last attempt has an ending is not passed over. -/
theorem Ending.ran {config : EngineConfig} {step : Step} {ending : ActionEnd}
    {outcome : StepOutcome} {error : Option String} {halt : Option Halt}
    (ends : Ending config step ending outcome error halt) : outcome ≠ .skip := by
  rcases ends.outcomes with rfl | rfl | rfl | rfl <;> exact nofun

theorem Ending.unaborted {config : EngineConfig} {step : Step} {ending : ActionEnd}
    {outcome : StepOutcome} {error : Option String}
    (ends : Ending config step ending outcome error none) : outcome ≠ .aborted := by
  cases ends with
  | success => exact nofun
  | tolerated failure => cases failure <;> exact nofun

theorem Ending.done {config : EngineConfig} {step : Step} {ending : ActionEnd}
    {error : Option String} {halt : Option Halt}
    (ends : Ending config step ending .success error halt) : ending = .done := by
  generalize isOutcome : StepOutcome.success = outcome at ends
  cases ends with
  | success => rfl
  | stopped => rfl
  | aborted => cases isOutcome
  | tolerated failure => cases failure <;> cases isOutcome
  | fatal failure => cases failure <;> cases isOutcome

/-- This is the number of attempts that a step may have. -/
def allowance (header : StepHeader) : Nat := min (header.retryCount.toNat + 1) (2 ^ 32 - 1)

theorem furtherAllowed (header : StepHeader) : furtherAttempts header + 1 = allowance header := by
  rw [furtherAttempts, allowance]
  omega

end Leaf

namespace Interpreter

/-- These are the attempts at a leaf step after it has been started, the first one at index zero. -/
def tried (place : Workplace device) (session : Session device) (depth : Nat) (header : StepHeader)
    (action : Action) (index : Nat) : ActionRun device :=
  Leaf.furtherAttempt place header.id action index (startStep depth (.leaf header action) session)

/-- In this state the attempt at an index is made. -/
def attemptStart (place : Workplace device) (session : Session device) (depth : Nat)
    (header : StepHeader) (action : Action) : Nat → Session device
  | 0 => startStep depth (.leaf header action) session
  | index + 1 => (tried place session depth header action index).session

theorem attemptFollows (place : Workplace device) (stepId : String) (action : Action)
    (later : Nat) (session : Session device) :
    Leaf.furtherAttempt place stepId action (later + 1) session =
      Leaf.act place stepId (Leaf.furtherAttempt place stepId action later session).session
        action := by
  induction later generalizing session with
  | zero => rfl
  | succ later inductionHypothesis => exact inductionHypothesis _

theorem triedActs (place : Workplace device) (session : Session device) (depth : Nat)
    (header : StepHeader) (action : Action) (index : Nat) :
    tried place session depth header action index =
      Leaf.act place header.id (attemptStart place session depth header action index) action := by
  cases index with
  | zero => rfl
  | succ index => exact attemptFollows place header.id action index _

/--
A leaf step is tried until the attempt at an index, and then it is recorded with an entry. After
that the run goes on or halts, and nothing has changed but the clock.
-/
structure LeafExecution (place : Workplace device) (session : Session device) (depth : Nat)
    (header : StepHeader) (action : Action) (last : Nat) (entry : TraceEntry)
    (after : Session device) (halt : Option Halt) : Prop where
  bounded : last + 1 ≤ Leaf.allowance header
  repeated : ∀ earlier < last, Leaf.Repeatable (tried place session depth header action earlier)
  final : Leaf.Repeatable (tried place session depth header action last) →
    last + 1 = Leaf.allowance header
  ends : Leaf.Ending place.config (.leaf header action)
    (tried place session depth header action last).ending entry.outcome entry.error halt
  own : entry.started = .ofStep depth (.leaf header action)
  counted : entry.attempts.toNat = last + 1
  bindings : entry.bindings = after.bindings
  sameRun : after.context.runId = session.context.runId
  recorded : after =
    { (tried place session depth header action last).session with
      context := after.context
      trace := session.trace.push entry
      events := (startStep depth (.leaf header action) session).events.push
        ⟨session.context.runId, .stepFinished entry⟩ }

namespace LeafExecution

variable {place : Workplace device} {session after : Session device} {depth last : Nat}
  {header : StepHeader} {action : Action} {entry : TraceEntry} {halt : Option Halt}

theorem ran (executed : LeafExecution place session depth header action last entry after halt) :
    entry.outcome ≠ .skip := executed.ends.ran

theorem trace (executed : LeafExecution place session depth header action last entry after halt) :
    after.trace = session.trace.push entry := by
  rw [executed.recorded]

theorem adds (executed : LeafExecution place session depth header action last entry after halt) :
    (startStep depth (.leaf header action) session).Adds after [.stepFinished entry] :=
  .ofEntry executed.sameRun (by rw [executed.recorded]; rfl) executed.trace

end LeafExecution

theorem leafExecuted (place : Workplace device) (session : Session device) (depth : Nat)
    (header : StepHeader) (action : Action) {startedAt : Time.Timestamp}
    (works : (Leaf.attempt place (.leaf header action) action depth startedAt
      (Leaf.furtherAttempts header) 1 (startStep depth (.leaf header action) session)).2 ≠
        some .brokeDown) :
    ∃ last entry, LeafExecution place session depth header action last entry
      (Leaf.attempt place (.leaf header action) action depth startedAt
        (Leaf.furtherAttempts header) 1 (startStep depth (.leaf header action) session)).1
      (Leaf.attempt place (.leaf header action) action depth startedAt
        (Leaf.furtherAttempts header) 1 (startStep depth (.leaf header action) session)).2 := by
  obtain ⟨last, bound, repeated, final, concluded⟩ := Leaf.attemptConcludes place
    (.leaf header action) action depth startedAt (Leaf.furtherAttempts header) 1
    (startStep depth (.leaf header action) session)
  have quiet := Leaf.furtherAttemptQuiet place header.id action last
    (startStep depth (.leaf header action) session)
  rw [concluded] at works ⊢
  obtain ⟨outcome, error, context, ends, sameRun, recorded⟩ :=
    Leaf.concludeRecords place (.leaf header action) depth startedAt _ _ works
  rw [recorded]
  have sameTrace : (tried place session depth header action last).session.trace = session.trace :=
    quiet.trace
  have sameEvents : (tried place session depth header action last).session.events =
      (startStep depth (.leaf header action) session).events := quiet.events
  have sameId : (tried place session depth header action last).session.context.runId =
      session.context.runId := quiet.runId
  have allowed := Leaf.furtherAllowed header
  have inRange : 1 + last < UInt32.size := by
    rw [Leaf.allowance] at allowed
    rw [UInt32.size]
    omega
  refine ⟨last, (tried place session depth header action last).session.entry place
    (.leaf header action) depth outcome (tried place session depth header action last).notes error
    (UInt32.ofNat (1 + last)) startedAt, ?_⟩
  exact
    { bounded := by omega
      repeated
      final := fun more => by rw [final more, allowed]
      ends
      own := rfl
      counted := (UInt32.toNat_ofNat_of_lt inRange).trans (Nat.add_comm 1 last)
      bindings := rfl
      sameRun := sameRun.trans sameId
      recorded := by
        rw [← sameTrace, ← sameEvents, ← sameId]
        rfl }

end Interpreter

/-! ### Halting -/

variable {place : Workplace device}

namespace Interpreter

/-- These are the moments between which a run halts, when no device breaks down. -/
inductive Halting (place : Workplace device) (reason : Halt) :
    Moment device → Moment device → Prop where
  | checkpoint (session : Session device) (stepId : String) (abort : Abort)
      (tasks undone : List Task) (stops : session.context.checkpoint (some stepId) = some abort)
      (isReason : reason = .aborted abort) :
      Halting place reason ⟨session, none, tasks⟩ ⟨session, some reason, undone⟩
  | tooDeep (session : Session device) (depth : Nat) (step : Step) (rest : List Step)
      (tasks : List Task) (deep : place.config.maxDepth.toNat ≤ depth)
      (isReason : reason = depthFailure place.config step) :
      Halting place reason ⟨session, none, .steps depth (step :: rest) :: tasks⟩
        ⟨session, some reason, .check step.id :: .steps depth rest :: tasks⟩
  | leaf (session after : Session device) (depth : Nat) (header : StepHeader) (action : Action)
      (rest : List Step) (tasks : List Task) (last : Nat) (entry : TraceEntry)
      (begins : Begins place session depth (.leaf header action))
      (executed : LeafExecution place session depth header action last entry after (some reason)) :
      Halting place reason ⟨session, none, .steps depth (.leaf header action :: rest) :: tasks⟩
        ⟨after, some reason, .check header.id :: .steps depth rest :: tasks⟩

theorem Halting.halted {before point : Moment device} {reason : Halt}
    (halting : Halting place reason before point) : point.halt = some reason := by
  cases halting <;> rfl

theorem Move.halting {before after : Moment device} {reason : Halt}
    (moves : Move place before after) (going : before.halt = none)
    (halted : after.halt = some reason) (works : reason ≠ .brokeDown) :
    Halting place reason before after := by
  cases moves with
  | idle =>
      rw [going] at halted
      cases halted
  | stopped session stepId abort task tasks stops =>
      cases halted
      exact .checkpoint session stepId abort _ _ stops rfl
  | tooDeep session depth step rest tasks deep =>
      cases halted
      exact .tooDeep session depth step rest tasks deep rfl
  | leaf session depth header action rest tasks begins =>
      simp only [Moment.ofFlow] at halted ⊢
      have unbroken : some reason ≠ some Halt.brokeDown := fun same => works (Option.some.inj same)
      rw [← halted] at unbroken
      obtain ⟨last, entry, executed⟩ := leafExecuted place session depth header action unbroken
      rw [halted] at executed ⊢
      exact .leaf session _ depth header action rest tasks last entry begins executed
  | loopStopped session loop later abort tasks stops =>
      cases halted
      exact .checkpoint session loop.header.id abort _ _ stops rfl
  | dropped => cases going
  | unwound => cases going
  | _ => cases halted

/--
A course that halts has a moment at which the run still goes on, and after it the run does not.
-/
theorem Leads.halts {start last : Moment device} {reason : Halt} (leads : Leads place start last)
    (going : start.halt = none) (halted : last.halt = some reason) :
    ∃ before, Leads place start before ∧ before.halt = none ∧
      (before.next place).halt = some reason ∧ Leads place (before.next place) last := by
  induction leads using Relation.ReflTransGen.head_induction_on with
  | refl =>
      rw [going] at halted
      cases halted
  | @head first second next rest inductionHypothesis =>
      cases isGoing : second.halt with
      | none =>
          obtain ⟨before, leads, others⟩ := inductionHypothesis isGoing
          exact ⟨before, .step next leads, others⟩
      | some other =>
          have same := Leads.halted rest isGoing
          rw [halted, Option.some.injEq] at same
          rw [← same] at isGoing
          exact ⟨first, .refl, going, next ▸ isGoing, next ▸ rest⟩

/-- A run that is not completed has halted at a point, after which its loops are closed. -/
theorem runHalted (script : Script) (session final : Session device) (found : RunReport)
    (ended : run place script session = (final, some found))
    (interrupted : found.outcome ≠ .completed) :
    ∃ before reason after, Leads place (.start script session) before ∧
      Halting place reason before (before.next place) ∧
      outcome? (some reason) = some found.outcome ∧
      Leads place (before.next place) ⟨after, some reason, []⟩ ∧
      report place script (session.time place) after found.outcome = (final, found) := by
  obtain ⟨after, halt, leads, isOutcome, reported⟩ := runEnded script session final found ended
  cases halt with
  | none => exact absurd (Option.some.inj isOutcome).symm interrupted
  | some reason =>
      obtain ⟨before, leadsBefore, going, halted, leadsAfter⟩ := leads.halts rfl rfl
      have unbroken : reason ≠ .brokeDown := fun broken =>
        worksOfOutcome isOutcome (congrArg some broken)
      exact ⟨before, reason, after, leadsBefore, (moveOfNext before).halting going halted unbroken,
        isOutcome, leadsAfter, reported⟩

end Interpreter

end DeskScript
