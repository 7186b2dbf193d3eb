/-
This file shows how a run deals with the failures of its leaf steps: how often a step is tried, what
is recorded at last, and when a failure ends the run.
-/

import DeskScript.Proofs.Run.LeafExecution
import DeskScript.Proofs.Run.Narration

namespace DeskScript

variable {device : Type} {place : Workplace device}

/-! ### Failures -/

namespace Leaf

/-- A failure ends the run if it has to, or if the step says so, or else if the rules say so. -/
theorem endsRunIff (config : EngineConfig) (header : StepHeader) (failure : StepFailure) :
    endsRun config header failure = true ↔ failure.isRecoverable = false ∨
      header.onError = some .stop ∨
      header.onError = none ∧ config.failurePolicy = .abortOnFailure := by
  rw [endsRun, Bool.or_eq_true, Bool.not_eq_true']
  cases header.onError with
  | none => simp
  | some handling => cases handling <;> simp

/-- A step that is recorded with a problem has failed, and its failure may end the run. -/
theorem Ending.failure {config : EngineConfig} {step : Step} {ending : ActionEnd}
    {outcome : StepOutcome} {error : Option String} {halt : Option Halt}
    (ends : Ending config step ending outcome error halt)
    (problem : outcome = .timeout ∨ outcome = .error) :
    ∃ failure, ending = .failed failure ∧ outcome = failure.outcome ∧
      error = some failure.message ∧
      halt = if endsRun config step.header failure then
        some (.failed failure.message (some step.id)) else none := by
  cases ends with
  | success => obtain same | same := problem <;> cases same
  | stopped => obtain same | same := problem <;> cases same
  | aborted => obtain same | same := problem <;> cases same
  | tolerated failure going => exact ⟨failure, rfl, rfl, rfl, by rw [if_neg (by simp [going])]⟩
  | fatal failure ending => exact ⟨failure, rfl, rfl, rfl, by rw [if_pos ending]⟩

theorem Ending.problem {config : EngineConfig} {step : Step} {ending : ActionEnd}
    {outcome : StepOutcome} {error : Option String} {text : String} {stepId : Option String}
    (ends : Ending config step ending outcome error (some (.failed text stepId))) :
    outcome = .timeout ∨ outcome = .error := by
  cases ends with
  | fatal failure =>
      cases failure with
      | matchTimeout => exact .inl rfl
      | _ => exact .inr rfl

end Leaf

namespace Interpreter

/--
These are the consequences of a failure with which a leaf step is recorded. It could not be tried
again, and it ends the run at once or not at all.
-/
structure FinalFailure (place : Workplace device) (header : StepHeader) (last : Nat)
    (entry : TraceEntry) (halt : Option Halt) (failure : StepFailure) : Prop where
  outcome : entry.outcome = failure.outcome
  error : entry.error = some failure.message
  spent : failure.isRecoverable = false ∨ last + 1 = Leaf.allowance header
  ends : halt = some (.failed failure.message (some header.id)) ↔
    failure.isRecoverable = false ∨ header.onError = some .stop ∨
      header.onError = none ∧ place.config.failurePolicy = .abortOnFailure
  goesOn : halt ≠ some (.failed failure.message (some header.id)) → halt = none

theorem LeafExecution.failure {session after : Session device} {depth last : Nat}
    {header : StepHeader} {action : Action} {entry : TraceEntry} {halt : Option Halt}
    (executed : LeafExecution place session depth header action last entry after halt)
    (problem : entry.outcome = .timeout ∨ entry.outcome = .error) :
    ∃ failure, (tried place session depth header action last).ending = .failed failure ∧
      FinalFailure place header last entry halt failure := by
  obtain ⟨failure, ending, outcome, error, isHalt⟩ := executed.ends.failure problem
  have spent : failure.isRecoverable = false ∨ last + 1 = Leaf.allowance header := by
    cases recoverable : failure.isRecoverable with
    | false => exact .inl rfl
    | true => exact .inr (executed.final ⟨failure, ending, recoverable⟩)
  have decides := Leaf.endsRunIff place.config header failure
  refine ⟨failure, ending, outcome, error, spent, ?_, fun others => ?_⟩
  · rw [← decides, isHalt]
    change (if Leaf.endsRun place.config header failure = true then _ else _) = _ ↔ _
    cases Leaf.endsRun place.config header failure with
    | true => exact ⟨fun _ => rfl, fun _ => rfl⟩
    | false => exact ⟨nofun, nofun⟩
  · rw [isHalt] at others ⊢
    exact if_neg fun ending => others (if_pos ending)

/-- A run that fails in a leaf step fails with the message and the identity of this step. -/
theorem LeafExecution.fatal {session after : Session device} {depth last : Nat}
    {header : StepHeader} {action : Action} {entry : TraceEntry} {error : String}
    {stepId : Option String}
    (executed : LeafExecution place session depth header action last entry after
      (some (.failed error stepId))) :
    ∃ failure, (tried place session depth header action last).ending = .failed failure ∧
      FinalFailure place header last entry (some (.failed error stepId)) failure ∧
      error = failure.message ∧ stepId = some header.id := by
  obtain ⟨failure, ending, final⟩ := executed.failure executed.ends.problem
  have same : some (Halt.failed error stepId) =
      some (.failed failure.message (some header.id)) :=
    Decidable.byContradiction fun others => nomatch final.goesOn others
  rw [Option.some.injEq, Halt.failed.injEq] at same
  exact ⟨failure, ending, final, same⟩

/-! ### Leaf steps of a run -/

namespace Moment

/-- At this moment a step is the next one of some steps. -/
def atStep (session : Session device) (depth : Nat) (step : Step) (rest : List Step)
    (tasks : List Task) : Moment device :=
  ⟨session, none, .steps depth (step :: rest) :: tasks⟩

/-- At this moment a step is over. Unless the run halts, it comes to the next checkpoint. -/
def behindStep (session : Session device) (halt : Option Halt) (depth : Nat) (step : Step)
    (rest : List Step) (tasks : List Task) : Moment device :=
  ⟨session, halt, .check step.id :: .steps depth rest :: tasks⟩

end Moment

/-- At a moment of a run a leaf step is executed. -/
structure LeafRun (place : Workplace device) (start : Moment device) where
  session : Session device
  depth : Nat
  header : StepHeader
  action : Action
  rest : List Step
  tasks : List Task
  leads : Leads place start (.atStep session depth (.leaf header action) rest tasks)
  begins : Begins place session depth (.leaf header action)

namespace LeafRun

variable {start : Moment device}

def before (leaf : LeafRun place start) : Moment device :=
  .atStep leaf.session leaf.depth (.leaf leaf.header leaf.action) leaf.rest leaf.tasks

/-- The last attempt has ended with a failure. -/
structure FailedWith (leaf : LeafRun place start) (last : Nat) (entry : TraceEntry)
    (halt : Option Halt) (failure : StepFailure) : Prop extends
    FinalFailure place leaf.header last entry halt failure where
  ending : (tried place leaf.session leaf.depth leaf.header leaf.action last).ending =
    .failed failure

/--
After the attempt at an index the step is recorded with an entry, and then the run halts or comes to
the next checkpoint. A problem in the entry comes from the failure of the last attempt.
-/
structure Executed (leaf : LeafRun place start) (last : Nat) (entry : TraceEntry)
    (after : Session device) (halt : Option Halt) : Prop extends
    LeafExecution place leaf.session leaf.depth leaf.header leaf.action last entry after halt where
  next : leaf.before.next place =
    .behindStep after halt leaf.depth (.leaf leaf.header leaf.action) leaf.rest leaf.tasks
  problem : entry.outcome = .timeout ∨ entry.outcome = .error →
    ∃ failure, leaf.FailedWith last entry halt failure

theorem Executed.ofExecution {leaf : LeafRun place start} {last : Nat} {entry : TraceEntry}
    {after : Session device} {halt : Option Halt}
    (executed : LeafExecution place leaf.session leaf.depth leaf.header leaf.action last entry after
      halt)
    (next : leaf.before.next place = .behindStep after halt leaf.depth
      (.leaf leaf.header leaf.action) leaf.rest leaf.tasks) :
    leaf.Executed last entry after halt where
  toLeafExecution := executed
  next
  problem isProblem :=
    have ⟨failure, ending, final⟩ := executed.failure isProblem
    ⟨failure, final, ending⟩

theorem isNext (leaf : LeafRun place start) :
    leaf.before.next place =
      .ofFlow (Leaf.attempt place (.leaf leaf.header leaf.action) leaf.action leaf.depth
          (leaf.session.time place) (Leaf.furtherAttempts leaf.header) 1
          (startStep leaf.depth (.leaf leaf.header leaf.action) leaf.session))
        (.check leaf.header.id :: .steps leaf.depth leaf.rest :: leaf.tasks) :=
  nextLeaf leaf.session leaf.depth leaf.header leaf.action leaf.rest leaf.tasks leaf.begins

theorem executed (leaf : LeafRun place start)
    (works : (leaf.before.next place).halt ≠ some .brokeDown) :
    ∃ last entry after halt, leaf.Executed last entry after halt := by
  have isNext := leaf.isNext
  rw [isNext] at works
  obtain ⟨last, entry, executed⟩ :=
    leafExecuted place leaf.session leaf.depth leaf.header leaf.action works
  exact ⟨last, entry, _, _, .ofExecution executed isNext⟩

end LeafRun

/-! ### Runs -/

/--
In the report of a run every leaf step that was executed has its entry, and a run that halted after
it has the outcome of this step. A run fails only with a leaf step or before a step that is too
deep.
-/
structure FailuresReported (place : Workplace device) (start : Moment device) (found : RunReport) :
    Prop where
  executed : ∀ leaf : LeafRun place start, ∃ last entry after halt later,
    leaf.Executed last entry after halt ∧
    found.trace = leaf.session.trace.toList ++ entry :: later ∧
    (halt ≠ none → outcome? halt = some found.outcome)
  failed : ∀ error stepId, found.outcome = .failed error stepId →
    (∃ (leaf : LeafRun place start) (last : Nat) (entry : TraceEntry) (after : Session device)
        (failure : StepFailure),
      leaf.Executed last entry after (some (.failed error stepId)) ∧
      leaf.FailedWith last entry (some (.failed error stepId)) failure ∧
      error = failure.message ∧ stepId = some leaf.header.id) ∨
    ∃ session depth step rest tasks,
      Leads place start (.atStep session depth step rest tasks) ∧
      place.config.maxDepth.toNat ≤ depth ∧
      Halt.failed error stepId = depthFailure place.config step

section

variable {script : Script} {context : RunContext} {bindings : Bindings} {state : device}
  {final : Session device} {found : RunReport}

/-- What a leaf step records stays in the trace until the report. -/
theorem LeafRun.Executed.traced
    {leaf : LeafRun place (.start script (Session.start context bindings state))} {last : Nat}
    {entry : TraceEntry} {after : Session device} {halt : Option Halt}
    (ended : run place script (Session.start context bindings state) = (final, some found))
    (executed : leaf.Executed last entry after halt) :
    (∃ later, found.trace = leaf.session.trace.toList ++ entry :: later) ∧
      (halt ≠ none → outcome? halt = some found.outcome) := by
  have next := executed.next
  obtain ⟨-, halts, later, trace⟩ := momentReported ended (leaf.leads.tail next)
  refine ⟨⟨later, ?_⟩, halts⟩
  rw [trace, Moment.behindStep, executed.trace, Array.toList_push, List.append_assoc]
  rfl

/-- A run fails in a leaf step or before a step that is too deep. -/
theorem runFails {error : String} {stepId : Option String}
    (ended : run place script (Session.start context bindings state) = (final, some found))
    (fails : found.outcome = .failed error stepId) :
    (∃ (leaf : LeafRun place (.start script (Session.start context bindings state))) (last : Nat)
        (entry : TraceEntry) (after : Session device),
      leaf.Executed last entry after (some (.failed error stepId))) ∨
    ∃ session depth step rest tasks,
      Leads place (.start script (Session.start context bindings state))
        (.atStep session depth step rest tasks) ∧
      place.config.maxDepth.toNat ≤ depth ∧
      Halt.failed error stepId = depthFailure place.config step := by
  have interrupted : found.outcome ≠ .completed := by
    rw [fails]
    exact nofun
  obtain ⟨before, reason, after, leads, halting, isOutcome, -⟩ :=
    runHalted script _ final found ended interrupted
  have isReason : reason = .failed error stepId := by
    rw [fails] at isOutcome
    cases reason <;> cases isOutcome
    rfl
  subst isReason
  generalize isPoint : before.next place = point at halting
  cases halting with
  | checkpoint session stepId abort tasks undone stops isReason => cases isReason
  | tooDeep session depth step rest tasks deep isReason =>
      exact .inr ⟨session, depth, step, rest, tasks, leads, deep, isReason⟩
  | leaf session after depth header action rest tasks last entry begins executed =>
      exact .inl ⟨⟨session, depth, header, action, rest, tasks, leads, begins⟩, last, entry, after,
        .ofExecution executed isPoint⟩

end

/--
A leaf step is tried again only after failures from which the run can recover, and as often as it
may be. Unless a device breaks down it is recorded once, with the number of its attempts. If it is
recorded with a problem, the run fails at once or goes on, as the failure, the step and the rules
say. A run fails only in this way or before a step that is too deep.
-/
theorem runRetries (place : Workplace device) (script : Script) (context : RunContext)
    (bindings : Bindings) (state : device) :
    (∀ leaf : LeafRun place (.start script (Session.start context bindings state)),
      (leaf.before.next place).halt ≠ some .brokeDown →
      ∃ last entry after halt, leaf.Executed last entry after halt) ∧
    ∀ final found,
      run place script (Session.start context bindings state) = (final, some found) →
      FailuresReported place (.start script (Session.start context bindings state)) found := by
  refine ⟨fun leaf works => leaf.executed works, fun final found ended => ⟨fun leaf => ?_, ?_⟩⟩
  · obtain ⟨works, -⟩ := momentReported ended (leaf.leads.tail rfl)
    obtain ⟨last, entry, after, halt, executed⟩ := leaf.executed works
    obtain ⟨⟨later, trace⟩, halts⟩ := executed.traced ended
    exact ⟨last, entry, after, halt, later, executed, trace, halts⟩
  · intro error stepId fails
    refine (runFails ended fails).imp_left fun ⟨leaf, last, entry, after, executed⟩ => ?_
    obtain ⟨failure, ending, consequences, same⟩ := executed.fatal
    exact ⟨leaf, last, entry, after, failure, executed, ⟨consequences, ending⟩, same⟩

theorem runRetriesPressNothing :
    ∃ final found, run .strict pressNothing (Session.start (.start "run" none 0) .empty ()) =
        (final, some found) ∧
      FailuresReported .strict
        (.start pressNothing (Session.start (.start "run" none 0) .empty ())) found := by
  have ended : ((run .strict pressNothing (Session.start (.start "run" none 0) .empty ())).2.any
      fun _ => true) = true := by decide +kernel
  obtain ⟨final, found, isRun, -⟩ := reportFound ended
  exact ⟨final, found, isRun, (runRetries .strict pressNothing _ _ _).2 final found isRun⟩

end Interpreter

end DeskScript
