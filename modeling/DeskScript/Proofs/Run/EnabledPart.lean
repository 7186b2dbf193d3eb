/-
This file shows that a script can do without the steps that are not enabled. A run of what is left
of the script does the same at the same times, and reports the same except for the skipped steps.
-/

import DeskScript.Proofs.Run.Clock
import DeskScript.Proofs.Run.Frame
import DeskScript.Proofs.Run.Unskipped

namespace DeskScript

variable {device : Type}

/-! ### What is left of a script -/

namespace Step

mutual

/-- This is a step without the steps in it that are not enabled. -/
def enabledPart : Step → Step
  | .leaf header action => .leaf header action
  | .branch header condition whenTrue whenFalse =>
      .branch header condition (enabledParts whenTrue) (enabledParts whenFalse)
  | .loop header rule body => .loop header rule (enabledParts body)

/-- A step that is not enabled is left out together with all steps in it. -/
def enabledParts : List Step → List Step
  | [] => []
  | step :: rest =>
      if step.header.enabled then enabledPart step :: enabledParts rest else enabledParts rest

end

theorem enabledPartHeader (step : Step) : step.enabledPart.header = step.header := by
  cases step <;> simp only [enabledPart, header]

theorem enabledPartId (step : Step) : step.enabledPart.id = step.id := by
  rw [id, enabledPartHeader, id]

theorem enabledPartType (step : Step) : step.enabledPart.stepType = step.stepType := by
  cases step <;> simp only [enabledPart, stepType]

end Step

/-- Only the steps that are enabled, and are in no step that is not, are left of a script. -/
def Script.enabledPart (script : Script) : Script :=
  { script with steps := Step.enabledParts script.steps }

/-- The depth of a script is the least bound above the levels of its steps. -/
theorem Script.boundKept (visited : List (Nat × Step)) (bound : Nat) :
    bound ≤ visited.foldl (fun depth (level, _) => max depth (level + 1)) bound := by
  induction visited generalizing bound with
  | nil => exact Nat.le_refl bound
  | cons head rest inductionHypothesis =>
      calc bound ≤ max bound (head.1 + 1) := Nat.le_max_left _ _
        _ ≤ _ := inductionHypothesis (max bound (head.1 + 1))

theorem Script.levelBelowBound (visited : List (Nat × Step)) (bound : Nat) (found : Nat × Step)
    (inside : found ∈ visited) :
    found.1 < visited.foldl (fun depth (level, _) => max depth (level + 1)) bound := by
  induction visited generalizing bound with
  | nil => exact absurd inside List.not_mem_nil
  | cons head rest inductionHypothesis =>
      rcases List.mem_cons.mp inside with rfl | further
      · calc found.1 < max bound (found.1 + 1) := by omega
          _ ≤ _ := boundKept rest _
      · exact inductionHypothesis _ further

/-- All steps of a script lie above its depth. -/
theorem Script.visitBelowDepth (script : Script) (visited : Nat × Step)
    (inside : visited ∈ script.visit) : visited.1 < script.maxDepth :=
  levelBelowBound script.visit 0 visited inside

/-! ### Parts of a run without the skipped steps -/

theorem Flow.andThenUnskipped (flow : Flow device) (part full : Session device → Flow device)
    (alike : ∀ session, flow = .goOn session → part session.unskipped = (full session).unskipped) :
    flow.unskipped.andThen part = (flow.andThen full).unskipped := by
  obtain ⟨session, _ | reason⟩ := flow
  · exact alike session rfl
  · rfl

/-- After a checkpoint the run need not stop. -/
theorem Session.checkpointPassed {session after : Session device} {stepId : String}
    (passed : session.checkpoint stepId = .goOn after) :
    after = session ∧ ¬session.context.Stopped := by
  rw [checkpoint] at passed
  split at passed
  · cases passed
  · rename_i free
    cases passed
    exact ⟨rfl, RunContext.freeOfCheckpoint free⟩

/-- Only the identity and the type of a step are recorded. -/
theorem Session.recordSame (session : Session device) (place : Workplace device)
    {first second : Step} (sameId : first.id = second.id)
    (sameType : first.stepType = second.stepType) (depth : Nat) (outcome : StepOutcome)
    (notes : StepNotes) (error : Option String) (attempts : UInt32)
    (startedAt : Time.Timestamp) :
    session.record place first depth outcome notes error attempts startedAt =
      session.record place second depth outcome notes error attempts startedAt := by
  rw [record, record, sameId, sameType]

/--
Two parts of a run are alike when one of them does without the skipped steps what the other one
does, provided that the run need not stop when they begin.
-/
def RunsAlike (part full : Session device → Flow device) : Prop :=
  ∀ session, ¬session.context.Stopped → part session.unskipped = (full session).unskipped

/-- Between two checkpoints both parts meet the same reasons to stop. -/
theorem RunsAlike.checked {part full : Session device → Flow device} (alike : RunsAlike part full)
    (session : Session device) (stepId : String) :
    (session.unskipped.checkpoint stepId).andThen part =
      ((session.checkpoint stepId).andThen full).unskipped := by
  rw [Session.checkpointUnskipped]
  refine Flow.andThenUnskipped _ _ _ fun after passed => ?_
  obtain ⟨rfl, free⟩ := Session.checkpointPassed passed
  exact alike after free

namespace Interpreter

/-! ### Loops -/

def LoopRun.unskipped (run : LoopRun device) : LoopRun device :=
  { run with session := run.session.unskipped }

section

variable {part full : Session device → Flow device} (alike : RunsAlike part full)

include alike

theorem iterateUnskipped (stepId : String) (rule : LoopRule) (iteration : Nat)
    (session : Session device) :
    iterate stepId rule part iteration session.unskipped =
      (iterate stepId rule full iteration session).unskipped := by
  refine RunsAlike.checked (fun session free => ?_) session stepId
  cases rule.indexVariable with
  | none => exact alike session free
  | some index => exact alike (session.bind index (toString iteration)) free

theorem countUpUnskipped (stepId : String) (rule : LoopRule) (left iterations : Nat)
    (session : Session device) :
    countUp stepId rule part left iterations session.unskipped =
      (countUp stepId rule full left iterations session).unskipped := by
  induction left generalizing iterations session with
  | zero => rfl
  | succ left inductionHypothesis =>
      rw [countUp, countUp, iterateUnskipped alike]
      generalize iterate stepId rule full (iterations + 1) session = flow
      obtain ⟨after, _ | reason⟩ := flow
      · exact inductionHypothesis (iterations + 1) after
      · rfl

theorem repeatWhileUnskipped (stepId : String) (rule : LoopRule) (condition : Condition)
    (left iterations : Nat) (notes : StepNotes) (session : Session device) :
    repeatWhile stepId rule condition part left iterations notes session.unskipped =
      (repeatWhile stepId rule condition full left iterations notes session).unskipped := by
  have sameContext (session : Session device) : session.unskipped.context = session.context := rfl
  have sameBindings (session : Session device) : session.unskipped.bindings = session.bindings := rfl
  induction left generalizing iterations notes session with
  | zero =>
      rw [repeatWhile, repeatWhile, sameContext, sameBindings, ← Session.unskippedWarn]
      split
      · rfl
      · simp only
        split <;> rfl
  | succ left inductionHypothesis =>
      rw [repeatWhile, repeatWhile, sameContext, sameBindings, iterateUnskipped alike]
      split
      · rfl
      · simp only
        split
        · rfl
        · generalize iterate stepId rule full (iterations + 1) session = flow
          obtain ⟨after, _ | reason⟩ := flow
          · exact inductionHypothesis (iterations + 1) _ after
          · rfl

theorem runLoopUnskipped (stepId : String) (rule : LoopRule) (session : Session device) :
    runLoop stepId rule part session.unskipped = (runLoop stepId rule full session).unskipped := by
  rw [runLoop, runLoop]
  cases rule.mode with
  | count times => exact countUpUnskipped alike stepId rule times.toNat 0 session
  | while_ condition =>
      exact repeatWhileUnskipped alike stepId rule condition rule.limit.toNat 0 .empty session

end

theorem endLoopUnskipped (place : Workplace device) (step : Step) (depth : Nat)
    (startedAt : Time.Timestamp) (run : LoopRun device) :
    endLoop place step.enabledPart depth startedAt run.unskipped =
      (endLoop place step depth startedAt run).unskipped := by
  have recorded (outcome : StepOutcome) (error : Option String) (ran : outcome ≠ .skip) :
      run.session.unskipped.record place step.enabledPart depth outcome run.notes error
          (UInt32.ofNat run.iterations) startedAt =
        (run.session.record place step depth outcome run.notes error
          (UInt32.ofNat run.iterations) startedAt).unskipped := by
    rw [run.session.unskippedRecord place step depth outcome _ _ _ _ ran]
    exact Session.recordSame _ place step.enabledPartId step.enabledPartType ..
  obtain ⟨session, iterations, limited, notes, halt⟩ := run
  rw [endLoop, endLoop]
  obtain _ | _ | _ | _ := halt
  · exact congrArg Flow.goOn (recorded _ _ (by simp))
  · exact congrArg (Flow.halt · _) (recorded _ _ (by simp))
  · exact congrArg (Flow.halt · _) (recorded _ _ (by simp))
  · rfl

/-! ### Steps -/

/-- A step that is enabled and not too deep is run. -/
theorem enterEnabled (place : Workplace device) (step : Step) (depth : Nat)
    (session : Session device) (run : Time.Timestamp → Session device → Flow device)
    (enabled : step.header.enabled = true) (fits : depth < place.config.maxDepth.toNat) :
    enter place step depth session run =
      run (session.time place)
        (session.publish (.stepStarted step.id step.stepType (UInt64.ofNat depth))) := by
  rw [enter, if_neg (Nat.not_le.mpr fits)]
  simp [enabled]

/-- A step that is not enabled, but not too deep either, is skipped. -/
theorem enterDisabled (place : Workplace device) (step : Step) (depth : Nat)
    (session : Session device) (run : Time.Timestamp → Session device → Flow device)
    (disabled : step.header.enabled = false) (fits : depth < place.config.maxDepth.toNat) :
    enter place step depth session run =
      .goOn (session.record place step depth .skip .empty none 0 (session.time place)) := by
  rw [enter, if_neg (Nat.not_le.mpr fits)]
  simp [disabled]

/-- A step that is run begins in the same way without the steps in it that are not enabled. -/
theorem enterUnskipped (place : Workplace device) (step : Step) (depth : Nat)
    (part full : Time.Timestamp → Session device → Flow device)
    (enabled : step.header.enabled = true) (fits : depth < place.config.maxDepth.toNat)
    (alike : ∀ startedAt, RunsAlike (part startedAt) (full startedAt)) :
    RunsAlike (fun session => enter place step.enabledPart depth session part)
      (fun session => enter place step depth session full) := by
  intro session free
  have alsoEnabled : step.enabledPart.header.enabled = true := by
    rw [step.enabledPartHeader, enabled]
  simp only
  rw [enterEnabled _ _ _ _ _ alsoEnabled fits, enterEnabled _ _ _ _ _ enabled fits,
    step.enabledPartId, step.enabledPartType, ← Session.unskippedPublish _ _ rfl]
  exact alike (session.time place) _ free

theorem runStepDisabled (place : Workplace device) (depth : Nat) (step : Step)
    (session : Session device) (disabled : step.header.enabled = false)
    (fits : depth < place.config.maxDepth.toNat) :
    runStep place depth step session =
      .goOn (session.record place step depth .skip .empty none 0 (session.time place)) := by
  cases step <;> rw [runStep] <;> exact enterDisabled place _ depth session _ disabled fits

theorem recordBranchUnskipped (place : Workplace device) (step : Step) (depth : Nat)
    (startedAt : Time.Timestamp) (evaluation : Evaluation) (session : Session device) :
    recordBranch place step.enabledPart depth startedAt evaluation session.unskipped =
      (recordBranch place step depth startedAt evaluation session).unskipped := by
  rw [recordBranch, recordBranch, Session.unskippedRecord _ _ _ _ _ _ _ _ _ (by simp)]
  exact Session.recordSame _ place step.enabledPartId step.enabledPartType ..

/-- A branch records which way it goes, and goes there. -/
theorem waysUnskipped (place : Workplace device) (step : Step) (condition : Condition)
    (depth : Nat) (startedAt : Time.Timestamp)
    {partTrue fullTrue partFalse fullFalse : Session device → Flow device}
    (whenTrue : RunsAlike partTrue fullTrue) (whenFalse : RunsAlike partFalse fullFalse) :
    RunsAlike
      (fun session =>
        let evaluation := condition.evaluate session.bindings
        let session := recordBranch place step.enabledPart depth startedAt evaluation session
        if evaluation.result then partTrue session else partFalse session)
      (fun session =>
        let evaluation := condition.evaluate session.bindings
        let session := recordBranch place step depth startedAt evaluation session
        if evaluation.result then fullTrue session else fullFalse session) := by
  intro session free
  have sameBindings : session.unskipped.bindings = session.bindings := rfl
  simp only [sameBindings, recordBranchUnskipped]
  split
  · exact whenTrue _ free
  · exact whenFalse _ free

/-- All of these steps are allowed to run. -/
def AllFit (place : Workplace device) (visited : List (Nat × Step)) : Prop :=
  ∀ entry ∈ visited, entry.1 < place.config.maxDepth.toNat

/-- Every step is visited itself. -/
theorem AllFit.own {place : Workplace device} {depth : Nat} {step : Step}
    (fits : AllFit place (step.visit depth)) : depth < place.config.maxDepth.toNat := by
  refine fits (depth, step) ?_
  cases step <;> simp [Step.visit]

mutual

/-- Without the steps in it that are not enabled a step has the same effects. -/
theorem runStepEnabledPart (place : Workplace device) (depth : Nat) : ∀ step : Step,
    step.header.enabled = true → AllFit place (step.visit depth) →
      RunsAlike (runStep place depth step.enabledPart) (runStep place depth step)
  | .leaf header action, enabled, fits => by
      intro session free
      rw [Step.enabledPart, runStep, runStep]
      exact enterUnskipped place (.leaf header action) depth _ _ enabled fits.own
        (fun startedAt session _ => Leaf.attemptUnskipped place _ action depth startedAt _ 1 session)
        session free
  | .branch header condition whenTrue whenFalse, enabled, fits => by
      intro session free
      have shallow := fits.own
      rw [Step.visit, AllFit, List.forall_mem_cons, List.forall_mem_append] at fits
      have inTrue := runAllEnabledParts place (depth + 1) whenTrue fits.2.1
      have inFalse := runAllEnabledParts place (depth + 1) whenFalse fits.2.2
      rw [Step.enabledPart, runStep, runStep]
      exact enterUnskipped place (.branch header condition whenTrue whenFalse) depth _ _ enabled
        shallow
        (fun startedAt => waysUnskipped place (.branch header condition whenTrue whenFalse)
          condition depth startedAt inTrue inFalse)
        session free
  | .loop header rule body, enabled, fits => by
      intro session free
      have shallow := fits.own
      rw [Step.visit, AllFit, List.forall_mem_cons] at fits
      have inBody := runAllEnabledParts place (depth + 1) body fits.2
      rw [Step.enabledPart, runStep, runStep]
      refine enterUnskipped place (.loop header rule body) depth _ _ enabled shallow
        (fun startedAt session _ => ?_) session free
      rw [runLoopUnskipped inBody]
      exact endLoopUnskipped place (.loop header rule body) depth startedAt _

/-- A list of steps has the same effects without the steps that are not enabled. -/
theorem runAllEnabledParts (place : Workplace device) (depth : Nat) : ∀ steps : List Step,
    AllFit place (Step.visitAll depth steps) →
      RunsAlike (runAll place depth (Step.enabledParts steps)) (runAll place depth steps)
  | [], _ => fun _ _ => by
      rw [Step.enabledParts, runAll, runAll]
      rfl
  | step :: rest, fits => by
      intro session free
      rw [Step.visitAll, AllFit, List.forall_mem_append] at fits
      have inRest := runAllEnabledParts place depth rest fits.2
      have passed := RunContext.checkpointFree free (some step.id)
      rw [Step.enabledParts]
      split
      · rename_i enabled
        have inStep := runStepEnabledPart place depth step enabled fits.1
        rw [runAll, runAll, step.enabledPartId]
        refine RunsAlike.checked (fun session free => ?_) session step.id
        rw [inStep session free]
        refine Flow.andThenUnskipped _ _ _ fun after _ => ?_
        exact inRest.checked after step.id
      · rename_i disabled
        rw [Bool.not_eq_true] at disabled
        -- The checkpoints around a skipped step are passed, because no time has passed since the
        -- last one.
        have skipped := runStepDisabled place depth step session disabled (AllFit.own fits.1)
        have checked (other : Session device) (same : other.context = session.context) :
            other.checkpoint step.id = .goOn other := by
          rw [Session.checkpoint, same, passed]
        have checkedAfter := checked
          (session.record place step depth .skip .empty none 0 (session.time place)) rfl
        rw [runAll, checked session rfl, Flow.andThenGoOn, skipped, Flow.andThenGoOn, checkedAfter,
          Flow.andThenGoOn, ← inRest (session.record ..) free, Session.unskippedSkip]

end

/-! ### Runs -/

end Interpreter

/-- This is a report without the entries of the steps that were skipped. -/
def RunReport.unskipped (report : RunReport) : RunReport :=
  { report with trace := report.trace.filter fun entry => !entry.isSkip }

namespace Interpreter

theorem reportUnskipped (place : Workplace device) (script : Script) (startedAt : Time.Timestamp)
    (session : Session device) (outcome : RunOutcome) :
    report place script.enabledPart startedAt session.unskipped outcome =
      ((report place script startedAt session outcome).1.unskipped,
        (report place script startedAt session outcome).2.unskipped) := by
  have published := Session.unskippedPublish { session with context := session.context.cancel }
    (.runFinished outcome) rfl
  refine Prod.ext published.symm ?_
  simp [report, RunReport.unskipped, Session.unskipped, Session.publish, Session.time,
    Script.enabledPart]

/-- Both runs end in the same way and with the same report, except for the skipped steps. -/
theorem runUnskipped (place : Workplace device) (script : Script) (session : Session device)
    (fits : script.maxDepth ≤ place.config.maxDepth.toNat) (free : ¬session.context.Stopped) :
    run place script.enabledPart session.unskipped =
      ((run place script session).1.unskipped,
        (run place script session).2.map RunReport.unskipped) := by
  have allFit : AllFit place (Step.visitAll 0 script.steps) := fun visited inside =>
    Nat.lt_of_lt_of_le (script.visitBelowDepth visited inside) fits
  have ran := runAllEnabledParts place 0 script.steps allFit
    { session with context := session.context.arm } free
  have armed : { session.unskipped with context := session.unskipped.context.arm } =
      Session.unskipped { session with context := session.context.arm } := rfl
  have sameTime : session.unskipped.time place = session.time place := rfl
  have sameSteps : script.enabledPart.steps = Step.enabledParts script.steps := rfl
  rw [run, run, armed, sameTime, sameSteps, ran]
  generalize runAll place 0 script.steps { session with context := session.context.arm } = flow
  obtain ⟨after, halt⟩ := flow
  simp only [Flow.unskipped]
  cases outcome? halt with
  | none => rfl
  | some outcome => simp only [reportUnskipped, Option.map_some]

/--
Steps that are not enabled can be deleted. Suppose that a script is nested no deeper than allowed,
and that the run need not stop when it begins. Then a run of what is left of the script calls the
devices in the same way and at the same times, and leaves them in the same state. It ends with the
same report, where only the entries of the skipped steps are missing, and publishes the same events
but for these steps. It also breaks down if the run of the whole script does.
-/
theorem disabledDeletable (place : Workplace device) (script : Script) (context : RunContext)
    (bindings : Bindings) (state : device)
    (fits : script.maxDepth ≤ place.config.maxDepth.toNat) (free : ¬context.Stopped) :
    let whole := run place script (Session.start context bindings state)
    let left := run place script.enabledPart (Session.start context bindings state)
    left.1.calls = whole.1.calls ∧ left.1.device = whole.1.device ∧
      left.1.warnings = whole.1.warnings ∧ left.1.bindings = whole.1.bindings ∧
      left.1.trace = whole.1.trace.filter (fun entry => !entry.isSkip) ∧
      left.1.events = whole.1.events.filter (fun event => !event.isSkip) ∧
      left.2 = whole.2.map RunReport.unskipped := by
  intro whole left
  have begun : (Session.start context bindings state).unskipped =
      Session.start context bindings state := by simp [Session.unskipped, Session.start]
  have ran : left = (whole.1.unskipped, whole.2.map RunReport.unskipped) := by
    have same := runUnskipped place script (Session.start context bindings state) fits free
    rwa [begun] at same
  rw [ran]
  exact ⟨rfl, rfl, rfl, rfl, rfl, rfl, rfl⟩

/-- In this script a loop has a step that is not enabled, and another loop is not enabled. -/
def drowsy : Script :=
  let off (step : Step) : Step := step.withHeader { step.header with enabled := false }
  { Script.new "script" "doze" .epoch with
    steps :=
      [Step.newRepeat "twice" 2
          [off (Step.newType "mumble" "zzz"), Step.newWait "pause" 5, Step.newType "greet" "hi"],
        off (Step.newRepeat "snore" 3 [Step.newWait "breath" 5])] }

theorem disabledDeletableDrowsy :
    drowsy.maxDepth ≤ EngineConfig.standard.maxDepth.toNat ∧
      ¬(RunContext.start "run" none 0).Stopped ∧
      (run .idle drowsy (Session.start (.start "run" none 0) .empty ())).1.calls.size = 2 ∧
      (run .idle drowsy (Session.start (.start "run" none 0) .empty ())).1.trace.size = 8 ∧
      (run .idle drowsy.enabledPart (Session.start (.start "run" none 0) .empty ())).1.trace.size =
        5 ∧
      (run .idle drowsy.enabledPart (Session.start (.start "run" none 0) .empty ())).1.calls =
        (run .idle drowsy (Session.start (.start "run" none 0) .empty ())).1.calls ∧
      (run .idle drowsy.enabledPart (Session.start (.start "run" none 0) .empty ())).2 =
        (run .idle drowsy (Session.start (.start "run" none 0) .empty ())).2.map
          RunReport.unskipped := by
  have fits : drowsy.maxDepth ≤ EngineConfig.standard.maxDepth.toNat := by decide +kernel
  have free : ¬(RunContext.start "run" none 0).Stopped := by decide
  have calls :
      (run .idle drowsy (Session.start (.start "run" none 0) .empty ())).1.calls.size = 2 := by
    decide +kernel
  have entries :
      (run .idle drowsy (Session.start (.start "run" none 0) .empty ())).1.trace.size = 8 := by
    decide +kernel
  have entriesLeft : (run .idle drowsy.enabledPart
      (Session.start (.start "run" none 0) .empty ())).1.trace.size = 5 := by decide +kernel
  have alike := disabledDeletable .idle drowsy (.start "run" none 0) .empty () fits free
  exact ⟨fits, free, calls, entries, entriesLeft, alike.1, alike.2.2.2.2.2.2⟩

end Interpreter

end DeskScript
