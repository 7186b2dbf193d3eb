/-
This file shows when the trace of a run that fails shows the failure. A leaf step that fails a run
is recorded with its failure, but a step that is too deep is not recorded at all.
-/

import DeskScript.Proofs.Run.Retries
import Mathlib.Data.List.Nodup

namespace DeskScript

variable {device : Type} {place : Workplace device}

namespace Interpreter

/-! ### Steps of a script -/

/-- Only steps of the script run while some of them are open. -/
theorem Told.visited {limit : Nat} {script : Script} {opened : List (Nat × Step)}
    {news : List RunNews} (told : Told limit script opened news) :
    scope script opened ⊆ script.visit := by
  induction told with
  | top => exact Step.surfaceAllVisited 0 script.steps
  | inside _ member _ _ _ inductionHypothesis =>
      exact Step.withinAllVisited 0 script.steps _ (inductionHypothesis member)

/-- A step to which a run has come is a step of its script. -/
theorem atStepVisited {script : Script} {context : RunContext} {bindings : Bindings}
    {state : device} {session : Session device} {depth : Nat} {step : Step} {rest : List Step}
    {tasks : List Task}
    (leads : Leads place (.start script (Session.start context bindings state))
      (.atStep session depth step rest tasks)) : (depth, step) ∈ script.visit := by
  have narrated := (narratedStart place script context bindings state).along leads nofun
  obtain ⟨news, -, told⟩ := narrated.told
  exact told.visited (narrated.surface (step.surfaceSelf depth))

/-- Every entry of a report is about a step of the script that is not too deep. -/
theorem entryVisited {script : Script} {context : RunContext} {bindings : Bindings}
    {state : device} {final : Session device} {found : RunReport} {entry : TraceEntry}
    (ended : run place script (Session.start context bindings state) = (final, some found))
    (member : entry ∈ found.trace) :
    ∃ depth step, (depth, step) ∈ script.visit ∧ depth < place.config.maxDepth.toNat ∧
      entry.started = .ofStep depth step := by
  obtain ⟨after, halt, leads, isOutcome, reported⟩ := runEnded script _ final found ended
  have narrated := (narratedStart place script context bindings state).along leads
    (worksOfOutcome isOutcome)
  obtain ⟨news, tells, told⟩ := narrated.told
  obtain ⟨-, trace, -⟩ := reportTells reported tells
  rw [trace, List.mem_filterMap] at member
  obtain ⟨item, isItem, isEntry⟩ := member
  cases told with
  | top nested =>
      cases item with
      | stepFinished other =>
          cases isEntry
          obtain ⟨before, later, same⟩ := List.append_of_mem isItem
          obtain ⟨depth, step, visited, fits, own, -⟩ :=
            (narrationOfNested nested).finished before entry later same
          exact ⟨depth, step, visited, fits, own⟩
      | _ => cases isEntry

/-! ### The failure in the trace -/

/-- An entry shows the failure of a run in a step. -/
structure ShowsFailure (error stepId : String) (entry : TraceEntry) : Prop where
  own : entry.stepId = stepId
  problem : entry.outcome = .timeout ∨ entry.outcome = .error
  error : entry.error = some error

theorem ShowsFailure.isProblem {error stepId : String} {entry : TraceEntry}
    (shows_ : ShowsFailure error stepId entry) : entry.outcome.isProblem = true := by
  obtain isTimeout | isError := shows_.problem
  · rw [isTimeout]
    rfl
  · rw [isError]
    rfl

/--
When a run fails in a step that is not too deep, the trace shows the failure. But when it fails in a
step that is too deep, and no other step has its identity, the trace has no entry of this step.
-/
theorem failureShown (place : Workplace device) (script : Script) (context : RunContext)
    (bindings : Bindings) (state : device) (final : Session device) (found : RunReport)
    (error stepId : String)
    (ended : run place script (Session.start context bindings state) = (final, some found))
    (fails : found.outcome = .failed error (some stepId)) :
    ((∀ depth step, (depth, step) ∈ script.visit → step.id = stepId →
        depth < place.config.maxDepth.toNat) →
      found.problems ≠ [] ∧ ∃ entry ∈ found.trace, ShowsFailure error stepId entry) ∧
    ((script.visit.map fun (_, step) => step.id).Nodup →
      (∃ entry ∈ found.trace, entry.stepId = stepId) →
      ∀ depth step, (depth, step) ∈ script.visit → step.id = stepId →
        depth < place.config.maxDepth.toNat) := by
  refine ⟨fun fits => ?_, fun distinct traced depth step visited own => ?_⟩
  · obtain ⟨leaf, last, entry, after, executed⟩ | ⟨session, depth, step, rest, tasks, leads, deep,
      isDepth⟩ := runFails ended fails
    · obtain ⟨⟨later, trace⟩, -⟩ := executed.traced ended
      obtain ⟨failure, -, consequences, isError, isStep⟩ := executed.fatal
      have member : entry ∈ found.trace := by
        rw [trace]
        exact List.mem_append_right _ (List.mem_cons_self ..)
      have shown : ShowsFailure error stepId entry :=
        { own := (congrArg Started.stepId executed.own).trans (Option.some.inj isStep).symm
          problem := executed.ends.problem
          error := isError ▸ consequences.error }
      exact ⟨List.ne_nil_of_mem (List.mem_filter.mpr ⟨member, shown.isProblem⟩), entry, member,
        shown⟩
    · have own : step.id = stepId := by
        rw [depthFailure, Halt.failed.injEq] at isDepth
        exact (Option.some.inj isDepth.2).symm
      exact absurd deep (Nat.not_le.mpr (fits depth step (atStepVisited leads) own))
  · obtain ⟨entry, member, isEntry⟩ := traced
    obtain ⟨ownDepth, ownStep, ownVisited, fits, started⟩ := entryVisited ended member
    have ownId : ownStep.id = stepId := (congrArg Started.stepId started).symm.trans isEntry
    have same := List.inj_on_of_nodup_map distinct ownVisited visited (ownId.trans own.symm)
    rw [Prod.mk.injEq] at same
    exact same.1 ▸ fits

theorem failureShownPressNothing :
    ∃ final found error, run .strict pressNothing
        (Session.start (.start "run" none 0) .empty ()) = (final, some found) ∧
      found.outcome = .failed error (some "press") ∧ found.problems ≠ [] ∧
      ∃ entry ∈ found.trace, ShowsFailure error "press" entry := by
  have ended : ((run .strict pressNothing (Session.start (.start "run" none 0) .empty ())).2.any
      fun found => found.outcome = .failed
        "Field \x60keys\x60 resolved to invalid value \x60\x60: no keys left after substitution"
        (some "press")) = true := by
    decide +kernel
  obtain ⟨final, found, isRun, isOutcome⟩ := reportFound ended
  have fails := of_decide_eq_true isOutcome
  have shown := failureShown .strict pressNothing _ _ _ final found _ "press" isRun fails
  refine ⟨final, found, _, isRun, fails, shown.1 fun depth step visited _ => ?_⟩
  have only : (depth, step) = (0, Step.newHotkey "press" []) := List.mem_singleton.mp visited
  cases only
  decide

/-- In this script a step is in another one. -/
def waitWithin : Script :=
  { Script.new "script" "wait" .epoch with
    steps := [Step.newBranch "outer" ⟨"x", .exists_, ""⟩ [Step.newWait "deep" 5] []] }

/-- A run that fails before a step that is too deep shows its failure nowhere. -/
theorem depthNotShown : ∃ final found error,
    run .shallow waitWithin (Session.start (.start "run" none 0) .empty ()) = (final, some found) ∧
      found.outcome = .failed error (some "deep") ∧ found.problems = [] ∧
      ¬∃ entry ∈ found.trace, ShowsFailure error "deep" entry := by
  have ended : ((run .shallow waitWithin (Session.start (.start "run" none 0) .empty ())).2.any
      fun found => found.outcome = .failed "maximum nesting depth 1 exceeded" (some "deep") ∧
        found.problems = [] ∧ ∀ entry ∈ found.trace, entry.stepId ≠ "deep") = true := by
    decide +kernel
  obtain ⟨final, found, isRun, facts⟩ := reportFound ended
  obtain ⟨fails, noProblem, untraced⟩ := of_decide_eq_true facts
  exact ⟨final, found, _, isRun, fails, noProblem, fun ⟨entry, member, shown⟩ =>
    untraced entry member shown.own⟩

end Interpreter

end DeskScript
