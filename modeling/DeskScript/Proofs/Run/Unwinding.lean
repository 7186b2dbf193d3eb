/-
This file shows what a run still does after the point where it halts: it closes the loops that are
open, and nothing else. A run that is completed has closed them by itself.
-/

import DeskScript.Proofs.Run.LeafExecution
import DeskScript.Proofs.Run.Narration

namespace DeskScript

variable {device : Type} {place : Workplace device}

namespace Interpreter

/-! ### Loops that are open -/

def startedSteps (opened : List (Nat × Step)) : List Started :=
  opened.map fun (depth, step) => .ofStep depth step

/-- The news of a run tell which loops are open. -/
theorem Told.follows {limit : Nat} {script : Script} {opened : List (Nat × Step)}
    {news : List RunNews} (told : Told limit script opened news) :
    news.foldlM RunNews.follow [] = some (startedSteps opened) := by
  induction told with
  | top nested => exact nested.settled
  | inside _ _ _ _ nested inductionHypothesis =>
      refine RunNews.followAppend inductionHypothesis ?_
      rw [List.foldlM_cons, RunNews.followStart]
      exact nested.settled.above _

/-- A loop that is closed because the run has an outcome ends in the same way. -/
inductive ClosedBy : RunOutcome → StepOutcome → Option String → Prop where
  | aborted (reason : AbortReason) (stepId : Option String) :
      ClosedBy (.aborted reason stepId) .aborted none
  | failed (error : String) (stepId : Option String) :
      ClosedBy (.failed error stepId) .error (some error)

theorem LoopEnding.closedBy {loop : OpenLoop} {limited : Bool} {reason : Halt}
    {outcome : StepOutcome} {error : Option String} {whole : RunOutcome}
    (ends : LoopEnding loop limited (some reason) outcome error)
    (isWhole : outcome? (some reason) = some whole) : ClosedBy whole outcome error := by
  cases ends with
  | aborted abort =>
      cases isWhole
      exact .aborted abort.reason abort.stepId
  | failed error stepId =>
      cases isWhole
      exact .failed error stepId

/-! ### Closing the loops -/

/-- From a point on a run that has halted only closes loops, and their entries tell its outcome. -/
structure Unwinding (outcome : RunOutcome) (point now : Moment device)
    (closings : List TraceEntry) : Prop where
  halted : now.halt = point.halt
  opened : startedSteps (openSteps point.tasks) =
    closings.map TraceEntry.started ++ startedSteps (openSteps now.tasks)
  adds : point.session.Adds now.session (closings.map RunNews.stepFinished)
  calls : now.session.calls = point.session.calls
  device : now.session.device = point.session.device
  bindings : now.session.bindings = point.session.bindings
  closes : ∀ entry ∈ closings, entry.stepType = .loop ∧
    entry.bindings = point.session.bindings ∧ ClosedBy outcome entry.outcome entry.error

theorem Unwinding.move {outcome : RunOutcome} {point before after : Moment device}
    {closings : List TraceEntry} (isOutcome : outcome? point.halt = some outcome)
    (halted : point.halt ≠ none) (moves : Move place before after)
    (unwinding : Unwinding outcome point before closings) :
    ∃ closings, Unwinding outcome point after closings := by
  have isHalted := unwinding.halted
  cases moves with
  | idle => exact ⟨closings, unwinding⟩
  | dropped session reason task tasks noLoop =>
      exact ⟨closings, { unwinding with opened := openStepsOther noLoop tasks ▸ unwinding.opened }⟩
  | unwound session reason loop tasks =>
      have works := worksOfOutcome isOutcome
      rw [← isHalted] at works isOutcome
      obtain ⟨ending, error, ends, recorded⟩ :=
        closeRecords place loop session false (some reason) works
      have closed := ends.closedBy isOutcome
      have adds := session.recordAdds place loop.step loop.depth ending loop.notes error
        (UInt32.ofNat loop.iterations) loop.startedAt
      rw [recorded]
      refine ⟨closings ++ [session.entry place loop.step loop.depth ending loop.notes error
        (UInt32.ofNat loop.iterations) loop.startedAt], isHalted, ?_, ?_, unwinding.calls,
        unwinding.device, unwinding.bindings, ?_⟩
      · rw [unwinding.opened, List.map_append, List.append_assoc]
        rfl
      · rw [List.map_append]
        exact unwinding.adds.trans adds
      · intro entry member
        rw [List.mem_append, List.mem_singleton] at member
        obtain member | rfl := member
        · exact unwinding.closes entry member
        · exact ⟨rfl, unwinding.bindings, closed⟩
  | _ => exact absurd isHalted.symm halted

theorem Unwinding.along {outcome : RunOutcome} {point last : Moment device}
    (isOutcome : outcome? point.halt = some outcome) (halted : point.halt ≠ none)
    (leads : Leads place point last) : ∃ closings, Unwinding outcome point last closings := by
  have nothing : Unwinding outcome point point [] :=
    ⟨rfl, rfl, (Session.Quiet.refl _).adds, rfl, rfl, rfl, fun _ member =>
      absurd member List.not_mem_nil⟩
  have begun : ∃ closings, Unwinding outcome point point closings := ⟨[], nothing⟩
  exact leads.keeps begun fun moves before =>
    before.elim fun _ unwinding => unwinding.move isOutcome halted moves

/-! ### Runs that go on -/

/-- No step was aborted, and no loop was ended by an error. -/
def Undisturbed (session : Session device) : Prop :=
  ∀ entry ∈ session.trace, entry.outcome ≠ .aborted ∧
    (entry.stepType = .loop → entry.outcome ≠ .error)

theorem Undisturbed.push {session after : Session device} {entry : TraceEntry}
    (undisturbed : Undisturbed session) (trace : after.trace = session.trace.push entry)
    (unaborted : entry.outcome ≠ .aborted)
    (noError : entry.stepType = .loop → entry.outcome ≠ .error) : Undisturbed after := by
  intro other member
  rw [trace, Array.mem_push] at member
  obtain member | rfl := member
  · exact undisturbed other member
  · exact ⟨unaborted, noError⟩

theorem Undisturbed.executed {session after : Session device} {depth last : Nat}
    {header : StepHeader} {action : Action} {entry : TraceEntry} (undisturbed : Undisturbed session)
    (executed : LeafExecution place session depth header action last entry after none) :
    Undisturbed after := by
  refine undisturbed.push executed.trace executed.ends.unaborted fun isLoop => ?_
  have own := congrArg Started.stepType executed.own
  rw [TraceEntry.started, isLoop] at own
  cases action <;> cases own

theorem Undisturbed.close {session : Session device} (undisturbed : Undisturbed session)
    (loop : OpenLoop) (limited : Bool) : Undisturbed (loop.close place session limited none) := by
  obtain ⟨outcome, error, ends, recorded⟩ := closeRecords place loop session limited none worksOfNone
  rw [recorded]
  cases ends
  exact undisturbed.push rfl (by simp) (by simp)

/-- As long as a run goes on it stays undisturbed. -/
theorem Undisturbed.move {before after : Moment device} (moves : Move place before after)
    (going : after.halt = none) (undisturbed : Undisturbed before.session) :
    Undisturbed after.session := by
  cases moves with
  | idle => exact undisturbed
  | exhausted => exact undisturbed
  | passed => exact undisturbed
  | skipped => exact undisturbed.push rfl (by simp) (by simp)
  | leaf session depth header action rest tasks begins =>
      simp only [Moment.ofFlow] at going ⊢
      obtain ⟨last, entry, executed⟩ := leafExecuted place session depth header action
        (by rw [going]; exact worksOfNone)
      rw [going] at executed
      exact undisturbed.executed executed
  | branch => exact undisturbed.push rfl (by simp) (by simp)
  | loop => exact undisturbed
  | iterated session loop later =>
      simp only [OpenLoop.bindIndex]
      cases later.rule.indexVariable <;> exact undisturbed
  | ended session loop later => exact undisturbed.close later false
  | limited session loop later =>
      have warned : Undisturbed (session.warn ⟨loop.header.id, loop.rule.limit⟩) := undisturbed
      exact warned.close later true
  | _ => cases going

theorem Undisturbed.along {before after : Moment device} (leads : Leads place before after)
    (going : after.halt = none) (undisturbed : Undisturbed before.session) :
    Undisturbed after.session := by
  -- A run that goes on at last has never halted before.
  have held : after.halt = none → Undisturbed after.session :=
    leads.keeps (fun _ => undisturbed) fun moves before going =>
      (before (moves.going going)).move moves going
  exact held going

/-! ### Runs -/

/--
After a point a run closes the steps that were open there, which are loops, the last one first. It
records nothing else, calls no device and binds no variable.
-/
structure Unwound (point final : Session device) (found : RunReport) (news : List RunNews)
    (closings : List TraceEntry) : Prop where
  told : point.Tells found.runId news
  opened : news.foldlM RunNews.follow [] = some (closings.map TraceEntry.started)
  closes : ∀ entry ∈ closings, entry.stepType = .loop ∧ entry.bindings = point.bindings ∧
    ClosedBy found.outcome entry.outcome entry.error
  trace : found.trace = point.trace.toList ++ closings
  events : final.events.toList =
    (news ++ closings.map RunNews.stepFinished ++ [RunNews.runFinished found.outcome]).map
      (RunEvent.mk found.runId)
  calls : final.calls = point.calls
  device : final.device = point.device
  bindings : final.bindings = point.bindings ∧ found.bindings = point.bindings

/--
A run that is completed has neither an aborted step nor a loop with an error. Every other run halts
at a point, and after it only the loops are closed that are open there.
-/
theorem runUnwinds (place : Workplace device) (script : Script) (context : RunContext)
    (bindings : Bindings) (state : device) (final : Session device) (found : RunReport)
    (ended : run place script (Session.start context bindings state) = (final, some found)) :
    (found.outcome = .completed → ∀ entry ∈ found.trace, entry.outcome ≠ .aborted ∧
      (entry.stepType = .loop → entry.outcome ≠ .error)) ∧
    (found.outcome ≠ .completed → ∃ before reason news closings,
      Leads place (.start script (Session.start context bindings state)) before ∧
      Halting place reason before (before.next place) ∧
      outcome? (some reason) = some found.outcome ∧
      Unwound (before.next place).session final found news closings) := by
  refine ⟨fun completed => ?_, fun interrupted => ?_⟩
  · obtain ⟨after, halt, leads, isOutcome, reported⟩ := runEnded script _ final found ended
    have going : halt = none := by
      rw [completed] at isOutcome
      cases halt with
      | none => rfl
      | some reason => cases reason <;> cases isOutcome
    have undisturbed : Undisturbed after := Undisturbed.along leads going fun entry member =>
      absurd member (Array.not_mem_empty entry)
    intro entry member
    rw [report, Prod.mk.injEq] at reported
    rw [← reported.2] at member
    exact undisturbed entry (Array.mem_toList_iff.mp member)
  · obtain ⟨before, reason, after, leads, halting, isOutcome, leadsAfter, reported⟩ :=
      runHalted script _ final found ended interrupted
    have halted := halting.halted
    have isOutcome' : outcome? (before.next place).halt = some found.outcome := halted ▸ isOutcome
    obtain ⟨-, news, tells, told⟩ := (narratedStart place script context bindings state).along
      (leads.tail rfl) (worksOfOutcome isOutcome')
    obtain ⟨closings, unwinding⟩ := Unwinding.along isOutcome' (by rw [halted]; exact Option.some_ne_none _)
      leadsAfter
    obtain ⟨sameRun, trace, events⟩ := reportTells reported (unwinding.adds.tells tells)
    refine ⟨before, reason, news, closings, leads, halting, isOutcome, ?_⟩
    rw [report, Prod.mk.injEq] at reported
    exact
      { told := sameRun ▸ tells
        opened := by
          have opened := unwinding.opened
          rw [told.follows, opened]
          exact congrArg some (List.append_nil _)
        closes := unwinding.closes
        trace := by
          rw [trace, List.filterMap_append, ← tells.trace, List.filterMap_map]
          exact congrArg _ List.filterMap_some
        events := sameRun ▸ events
        calls := reported.1 ▸ unwinding.calls
        device := reported.1 ▸ unwinding.device
        bindings := ⟨reported.1 ▸ unwinding.bindings, reported.2 ▸ unwinding.bindings⟩ }

theorem runUnwindsShallow :
    ∃ final found, run .shallow waitTwice (Session.start (.start "run" none 0) .empty ()) =
        (final, some found) ∧
      ∃ before reason news closings,
        Leads .shallow (.start waitTwice (Session.start (.start "run" none 0) .empty ())) before ∧
        Halting .shallow reason before (before.next .shallow) ∧
        outcome? (some reason) = some found.outcome ∧
        Unwound (before.next .shallow).session final found news closings := by
  have ended : ((run .shallow waitTwice (Session.start (.start "run" none 0) .empty ())).2.any
      fun found => found.outcome ≠ .completed) = true := by decide +kernel
  obtain ⟨final, found, isRun, interrupted⟩ := reportFound ended
  have unwinds := runUnwinds .shallow waitTwice _ _ _ final found isRun
  exact ⟨final, found, isRun, unwinds.2 (of_decide_eq_true interrupted)⟩

end Interpreter

end DeskScript
