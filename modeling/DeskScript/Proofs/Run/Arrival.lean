/-
This file shows that a run comes to the same end when it goes from one moment to the next.
-/

import DeskScript.Proofs.Run.Course

namespace DeskScript

variable {device : Type} {place : Workplace device}

namespace Interpreter

/-! ### Loops -/

theorem endLoopHalt (place : Workplace device) (step : Step) (depth : Nat)
    (startedAt : Time.Timestamp) (run : LoopRun device) :
    (endLoop place step depth startedAt run).2 = run.halt := by
  obtain ⟨after, iterations, limited, notes, _ | reason⟩ := run
  · rfl
  · cases reason <;> rfl

theorem ofEndLoop (place : Workplace device) (loop : OpenLoop) (session : Session device)
    (limited : Bool) (halt : Option Halt) (tasks : List Task) :
    Moment.ofFlow (endLoop place loop.step loop.depth loop.startedAt
      ⟨session, loop.iterations, limited, loop.notes, halt⟩) tasks =
      ⟨loop.close place session limited halt, halt, tasks⟩ := by
  rw [Moment.ofFlow, endLoopHalt]
  rfl

/-- All steps of a list are run, whatever is left after them. -/
def StepsLead (place : Workplace device) (depth : Nat) (steps : List Step) : Prop :=
  ∀ session tasks, Leads place ⟨session, none, .steps depth steps :: tasks⟩
    (.ofFlow (runAll place depth steps session) tasks)

/-- What follows an iteration of a loop depends on whether the run halts in it. -/
def afterIteration (place : Workplace device) (loop : OpenLoop) (tasks : List Task) :
    Flow device → Moment device
  | (session, none) => ⟨session, none, .loop loop :: tasks⟩
  | (session, some reason) => ⟨loop.close place session false (some reason), some reason, tasks⟩

theorem iterateLeads (loop : OpenLoop) (lead : StepsLead place (loop.depth + 1) loop.body)
    (left : Nat) (session : Session device) (tasks : List Task) :
    Leads place ((loop.iterate left session).andThen tasks)
      (afterIteration place { loop with left, iterations := loop.iterations + 1 } tasks
        (iterate loop.header.id loop.rule (runAll place (loop.depth + 1) loop.body)
          (loop.iterations + 1) session)) := by
  -- The loop that goes on is taken as a whole, so that its parts are not spelled out below.
  generalize isNext : ({ loop with left, iterations := loop.iterations + 1 } : OpenLoop) = next
  have begun : loop.iterate left session = .checkpoint session next.header.id [.loop next]
      ⟨next.bindIndex session, none, [.steps (next.depth + 1) next.body, .loop next]⟩ := by
    rw [← isNext]
    rfl
  have same : iterate loop.header.id loop.rule (runAll place (loop.depth + 1) loop.body)
      (loop.iterations + 1) session = (session.checkpoint next.header.id).andThen fun session =>
        runAll place (next.depth + 1) next.body (next.bindIndex session) := by
    rw [← isNext, iterate]
    congr 1
    funext session
    rw [OpenLoop.bindIndex]
    cases loop.rule.indexVariable <;> rfl
  have leadNext : StepsLead place (next.depth + 1) next.body := by
    rw [← isNext]
    exact lead
  rw [begun, same, Moment.checkpoint, Session.checkpoint]
  cases session.context.checkpoint (some next.header.id) with
  | some abort => exact Leads.step rfl .refl
  | none =>
      refine (leadNext (next.bindIndex session) (.loop next :: tasks)).trans ?_
      simp only [Flow.andThenGoOn]
      obtain ⟨after, _ | reason⟩ := runAll place (next.depth + 1) next.body (next.bindIndex session)
      · exact .refl
      · exact Leads.step rfl .refl

theorem countUpLeads (header : StepHeader) (rule : LoopRule) (body : List Step) (depth : Nat)
    (startedAt : Time.Timestamp) (lead : StepsLead place (depth + 1) body) (times : UInt32)
    (counts : rule.mode = .count times) (left iterations : Nat) (session : Session device)
    (tasks : List Task) :
    Leads place
      ⟨session, none, .loop ⟨header, rule, body, depth, startedAt, left, iterations, .empty⟩ ::
        tasks⟩
      (.ofFlow (endLoop place (.loop header rule body) depth startedAt
        (countUp header.id rule (runAll place (depth + 1) body) left iterations session))
          tasks) := by
  induction left generalizing iterations session with
  | zero =>
      have ends := ofEndLoop place
        ⟨header, rule, body, depth, startedAt, 0, iterations, .empty⟩ session false none tasks
      refine Leads.step ?_ .refl
      simp only [Moment.next, Task.perform, OpenLoop.turn, counts]
      exact ends.symm
  | succ left inductionHypothesis =>
      have iterated := iterateLeads
        ⟨header, rule, body, depth, startedAt, left + 1, iterations, .empty⟩ lead left session tasks
      refine Leads.step ?_ (iterated.trans ?_)
      · simp only [Moment.next, Task.perform, OpenLoop.turn, counts]
      · rw [countUp]
        simp only
        generalize iterate header.id rule (runAll place (depth + 1) body) (iterations + 1) session =
          flow
        obtain ⟨after, _ | reason⟩ := flow
        · exact inductionHypothesis (iterations + 1) after
        · rw [afterIteration, ← ofEndLoop]
          exact .refl

/-- A loop with a condition may have to stop before its condition is decided. -/
theorem whileStops (loop : OpenLoop) (condition : Condition)
    (repeats : loop.rule.mode = .while_ condition) (session : Session device) (abort : Abort)
    (stops : session.context.checkpoint (some loop.header.id) = some abort) (tasks : List Task) :
    Leads place ⟨session, none, .loop loop :: tasks⟩
      (.ofFlow (endLoop place loop.step loop.depth loop.startedAt
        ⟨session, loop.iterations, false, loop.notes, some (.aborted abort)⟩) tasks) := by
  have stopped : (Moment.mk session none (.loop loop :: tasks)).next place =
      ⟨session, some (.aborted abort), .loop loop :: tasks⟩ := by
    simp only [Moment.next, Task.perform, OpenLoop.turn, repeats, Moment.checkpoint, stops]
    rfl
  rw [ofEndLoop]
  exact Leads.step stopped (Leads.step rfl .refl)

theorem repeatWhileLeads (header : StepHeader) (rule : LoopRule) (body : List Step) (depth : Nat)
    (startedAt : Time.Timestamp) (lead : StepsLead place (depth + 1) body) (condition : Condition)
    (repeats : rule.mode = .while_ condition) (left iterations : Nat) (notes : StepNotes)
    (session : Session device) (tasks : List Task) :
    Leads place
      ⟨session, none, .loop ⟨header, rule, body, depth, startedAt, left, iterations, notes⟩ ::
        tasks⟩
      (.ofFlow (endLoop place (.loop header rule body) depth startedAt
        (repeatWhile header.id rule condition (runAll place (depth + 1) body) left iterations notes
          session)) tasks) := by
  induction left generalizing iterations notes session with
  | zero =>
      rw [repeatWhile]
      cases checked : session.context.checkpoint (some header.id) with
      | some abort => exact whileStops _ condition repeats session abort checked tasks
      | none =>
          refine Leads.step ?_ .refl
          simp only [Moment.next, Task.perform, OpenLoop.turn, repeats, Moment.checkpoint, checked]
          split
          · exact (ofEndLoop place _ session false none tasks).symm
          · exact (ofEndLoop place _ _ true none tasks).symm
  | succ left inductionHypothesis =>
      rw [repeatWhile]
      cases checked : session.context.checkpoint (some header.id) with
      | some abort => exact whileStops _ condition repeats session abort checked tasks
      | none =>
          refine Leads.step rfl ?_
          simp only [Moment.next, Task.perform, OpenLoop.turn, repeats, Moment.checkpoint, checked]
          split
          · rw [← ofEndLoop]
            exact .refl
          · refine (iterateLeads _ lead left session tasks).trans ?_
            simp only [OpenLoop.noteCondition]
            generalize iterate header.id rule (runAll place (depth + 1) body) (iterations + 1)
              session = flow
            obtain ⟨after, _ | reason⟩ := flow
            · exact inductionHypothesis (iterations + 1) _ after
            · rw [afterIteration, ← ofEndLoop]
              exact .refl

/-! ### Steps -/

theorem nextPassed {session : Session device} {stepId : String}
    (passed : session.context.checkpoint (some stepId) = none) (tasks : List Task) :
    (Moment.mk session none (.check stepId :: tasks)).next place = ⟨session, none, tasks⟩ := by
  simp only [Moment.next, Task.perform, Moment.checkpoint, passed]
  rfl

/-- After a step there is a checkpoint before the rest of a list of steps. -/
theorem checkLeads (stepId : String) (depth : Nat) (rest : List Step)
    (lead : StepsLead place depth rest) (session : Session device) (tasks : List Task) :
    Leads place ⟨session, none, .check stepId :: .steps depth rest :: tasks⟩
      (.ofFlow ((session.checkpoint stepId).andThen (runAll place depth rest)) tasks) := by
  rw [Session.checkpoint]
  cases checked : session.context.checkpoint (some stepId) with
  | some abort =>
      have stopped : (Moment.mk session none (.check stepId :: .steps depth rest :: tasks)).next
          place = ⟨session, some (.aborted abort), .steps depth rest :: tasks⟩ := by
        simp only [Moment.next, Task.perform, Moment.checkpoint, checked]
        rfl
      exact Leads.step stopped (Leads.step rfl .refl)
  | none => exact Leads.step (nextPassed checked _) (lead session tasks)

/-- A step that is reached begins if the run passes the checkpoint before it. -/
theorem passesToStep {session : Session device} {step : Step}
    (passed : session.context.checkpoint (some step.id) = none) (depth : Nat) (rest : List Step)
    (tasks : List Task) :
    (Moment.mk session none (.steps depth (step :: rest) :: tasks)).next place =
      (begin place depth step session).andThen (.check step.id :: .steps depth rest :: tasks) := by
  simp only [Moment.next, Task.perform, Moment.checkpoint, passed, Moment.andThen,
    List.append_assoc, List.cons_append, List.nil_append]

/-- When a run has halted the rest of a list of steps is given up. -/
theorem restGivenUp (session : Session device) (reason : Halt) (stepId : String) (depth : Nat)
    (rest : List Step) (tasks : List Task) :
    Leads place ⟨session, some reason, .check stepId :: .steps depth rest :: tasks⟩
      ⟨session, some reason, tasks⟩ :=
  Leads.step rfl (Leads.step rfl .refl)

mutual

theorem runStepLeads (place : Workplace device) (depth : Nat) :
    ∀ (step : Step) (session : Session device) (tasks : List Task),
      Leads place ((begin place depth step session).andThen tasks)
        (.ofFlow (runStep place depth step session) tasks)
  | .leaf header action, session, tasks => by
      rw [begin, runStep, enter]
      split
      · exact .refl
      · simp only
        split
        · exact .refl
        · exact .refl
  | .branch header condition whenTrue whenFalse, session, tasks => by
      rw [begin, runStep, enter]
      unfold startStep
      split
      · exact .refl
      · simp only
        split
        · exact .refl
        · generalize session.publish _ = session
          cases (condition.evaluate session.bindings).result with
          | true => exact runAllLeads place (depth + 1) whenTrue _ tasks
          | false => exact runAllLeads place (depth + 1) whenFalse _ tasks
  | .loop header rule body, session, tasks => by
      rw [begin, runStep, enter]
      split
      · exact .refl
      · simp only
        split
        · exact .refl
        · have lead := runAllLeads place (depth + 1) body
          simp only [runLoop, iterationsAllowed]
          cases isMode : rule.mode with
          | count times =>
              exact countUpLeads header rule body depth _ lead times isMode times.toNat 0 _ tasks
          | while_ condition =>
              exact repeatWhileLeads header rule body depth _ lead condition isMode
                rule.limit.toNat 0 .empty _ tasks

theorem runAllLeads (place : Workplace device) (depth : Nat) :
    ∀ steps : List Step, StepsLead place depth steps
  | [] => fun session tasks => Leads.step rfl (by rw [runAll]; exact .refl)
  | step :: rest => fun session tasks => by
      rw [runAll, Session.checkpoint]
      cases checked : session.context.checkpoint (some step.id) with
      | some abort =>
          refine Leads.step ?_ .refl
          simp only [Moment.next, Task.perform, Moment.checkpoint, checked]
          rfl
      | none =>
          refine Leads.step (passesToStep checked depth rest tasks)
            ((runStepLeads place depth step session _).trans ?_)
          simp only [Flow.andThenGoOn]
          obtain ⟨after, _ | reason⟩ := runStep place depth step session
          · exact checkLeads step.id depth rest (runAllLeads place depth rest) after tasks
          · exact restGivenUp after reason step.id depth rest tasks

end

/-- A step that begins is run to its end before the steps after it. -/
theorem stepLeads {session : Session device} {step : Step}
    (passed : session.context.checkpoint (some step.id) = none) (depth : Nat) (rest : List Step)
    (tasks : List Task) :
    Leads place ⟨session, none, .steps depth (step :: rest) :: tasks⟩
      (.ofFlow (runStep place depth step session)
        (.check step.id :: .steps depth rest :: tasks)) :=
  Leads.step (passesToStep passed depth rest tasks) (runStepLeads place depth step session _)

/-! ### Runs -/

/-- A run with a report has not met a device that breaks down. -/
theorem worksOfOutcome {halt : Option Halt} {outcome : RunOutcome}
    (isOutcome : outcome? halt = some outcome) : halt ≠ some .brokeDown := by
  rintro rfl
  cases isOutcome

/-- A run that goes on has not met such a device. -/
theorem worksOfNone : (none : Option Halt) ≠ some .brokeDown := nofun

/-- A run with a report has gone through its moments until no task was left. -/
theorem runEnded (script : Script) (session final : Session device) (found : RunReport)
    (ended : run place script session = (final, some found)) :
    ∃ after halt, Leads place (.start script session) ⟨after, halt, []⟩ ∧
      outcome? halt = some found.outcome ∧
      report place script (session.time place) after found.outcome = (final, found) := by
  have leads := runAllLeads place 0 script.steps { session with context := session.context.arm } []
  rw [run] at ended
  generalize runAll place 0 script.steps { session with context := session.context.arm } = flow
    at leads ended
  obtain ⟨after, halt⟩ := flow
  refine ⟨after, halt, leads, ?_⟩
  simp only at ended
  cases isOutcome : outcome? halt with
  | none =>
      rw [isOutcome] at ended
      cases ended
  | some outcome =>
      rw [isOutcome] at ended
      cases ended
      exact ⟨rfl, rfl⟩

/-- A report holds what the steps of its script have come to. -/
theorem reportOfSteps {script : Script} {session final : Session device} {found : RunReport}
    (ended : run place script session = (final, some found)) :
    (runAll place 0 script.steps { session with context := session.context.arm }).2 ≠
        some .brokeDown ∧
      found.trace =
        (runAll place 0 script.steps
          { session with context := session.context.arm }).1.trace.toList ∧
      found.warnings =
        (runAll place 0 script.steps
          { session with context := session.context.arm }).1.warnings.toList := by
  rw [run] at ended
  generalize runAll place 0 script.steps { session with context := session.context.arm } = flow
    at ended ⊢
  obtain ⟨after, halt⟩ := flow
  simp only at ended
  cases isOutcome : outcome? halt with
  | none =>
      rw [isOutcome] at ended
      cases ended
  | some outcome =>
      rw [isOutcome] at ended
      cases ended
      exact ⟨worksOfOutcome isOutcome, rfl, rfl⟩

end Interpreter

end DeskScript
