/-
This file shows that a run is as deep at a step as the step is in its script, and that a run fails
for its depth only at a step of the first level that is not allowed.
-/

import DeskScript.Proofs.Run.EnabledPart
import DeskScript.Proofs.Run.FailureTrace

namespace DeskScript

variable {device : Type} {place : Workplace device}

namespace Interpreter

/-! ### Levels of tasks -/

/-- The steps of a task are at most on the first level that is not allowed, and loops above it. -/
def Task.Within (limit : Nat) : Task → Prop
  | .steps depth _ => depth ≤ limit
  | .loop opened => opened.depth < limit
  | .check _ => True

/-- Every step that is not too deep has its steps at most on the first level that is not allowed. -/
theorem Move.within {before after : Moment device} (moves : Move place before after)
    (within : ∀ task ∈ before.tasks, task.Within place.config.maxDepth.toNat) :
    ∀ task ∈ after.tasks, task.Within place.config.maxDepth.toNat := by
  have behind {depth : Nat} {step : Step} {rest : List Step} {tasks : List Task}
      (within : ∀ task ∈ .steps depth (step :: rest) :: tasks,
        Task.Within place.config.maxDepth.toNat task) :
      ∀ task ∈ .check step.id :: .steps depth rest :: tasks,
        Task.Within place.config.maxDepth.toNat task := by
    simpa [Task.Within] using within
  cases moves with
  | idle => exact within
  | tooDeep => exact behind within
  | skipped => exact behind within
  | leaf => exact behind within
  | branch session depth header condition whenTrue whenFalse way taken notes rest tasks begins =>
      exact List.forall_mem_cons.mpr ⟨begins.fits, behind within⟩
  | loop session depth header rule body opened rest tasks begins isOpened isDepth =>
      have above := Nat.lt_of_le_of_lt (Nat.le_of_eq isDepth) begins.fits
      exact List.forall_mem_cons.mpr ⟨above, behind within⟩
  | loopStopped session loop later abort tasks stops same sameDepth =>
      rw [List.forall_mem_cons] at within
      have above := Nat.lt_of_le_of_lt (Nat.le_of_eq sameDepth) within.1
      exact List.forall_mem_cons.mpr ⟨above, within.2⟩
  | iterated session loop later tasks same sameDepth =>
      rw [List.forall_mem_cons] at within
      have above := Nat.lt_of_le_of_lt (Nat.le_of_eq sameDepth) within.1
      exact List.forall_mem_cons.mpr ⟨within.1, List.forall_mem_cons.mpr ⟨above, within.2⟩⟩
  | _ => exact (List.forall_mem_cons.mp within).2

theorem withinAlong {script : Script} {session : Session device} {moment : Moment device}
    (leads : Leads place (.start script session) moment) :
    ∀ task ∈ moment.tasks, task.Within place.config.maxDepth.toNat := by
  refine leads.keeps ?_ Move.within
  intro task member
  rw [List.mem_singleton.mp member]
  exact Nat.zero_le _

/-- A run that comes to a step that is too deep comes to it at the first level not allowed. -/
theorem tooDeepLevel {script : Script} {session after : Session device} {depth : Nat} {step : Step}
    {rest : List Step} {tasks : List Task}
    (leads : Leads place (.start script session) (.atStep after depth step rest tasks))
    (deep : place.config.maxDepth.toNat ≤ depth) : depth = place.config.maxDepth.toNat :=
  Nat.le_antisymm (withinAlong leads _ (List.mem_cons_self ..)) deep

end Interpreter

/-! ### Messages -/

/-- A run fails with this message when it comes to a step that is too deep. -/
def EngineConfig.depthMessage (config : EngineConfig) : String :=
  "maximum nesting depth " ++ toString config.maxDepth.toNat ++ " exceeded"

theorem firstOfAppend {text : String} {first : Char} (begins : text.toList.head? = some first)
    (more : String) : (text ++ more).toList.head? = some first := by
  rw [String.toList_append, List.head?_append, begins]
  rfl

/-- The message of a step never begins with a small letter. -/
theorem StepFailure.messageFirst (failure : StepFailure) :
    ∃ first ∈ ['S', 'I', 'U', 'C', 'F', 'M', 'R'], failure.message.toList.head? = some first := by
  cases failure with
  | matchTimeout stepId target timeout attempts =>
      refine ⟨'S', by decide, ?_⟩
      repeat apply firstOfAppend
      rfl
  | input fault =>
      cases fault with
      | synthesis text => exact ⟨'I', by decide, firstOfAppend rfl text⟩
      | unknownKey text => exact ⟨'U', by decide, firstOfAppend rfl text⟩
      | clipboard text => exact ⟨'C', by decide, firstOfAppend rfl text⟩
      | unsupported text => exact ⟨'U', by decide, firstOfAppend rfl text⟩
  | invalidValue field value reason =>
      refine ⟨'F', by decide, ?_⟩
      repeat apply firstOfAppend
      rfl
  | unavailable missing => exact ⟨'M', by decide, firstOfAppend rfl missing.reason⟩
  | internal text => exact ⟨'I', by decide, firstOfAppend rfl text⟩
  | aborted abort =>
      refine ⟨'R', by decide, ?_⟩
      repeat apply firstOfAppend
      rfl

theorem StepFailure.messageOther (failure : StepFailure) (config : EngineConfig) :
    failure.message ≠ config.depthMessage := by
  intro same
  obtain ⟨first, capital, begins⟩ := failure.messageFirst
  have small : config.depthMessage.toList.head? = some 'm' :=
    firstOfAppend (firstOfAppend rfl _) _
  rw [same, small, Option.some.injEq] at begins
  subst begins
  revert capital
  decide

namespace Interpreter

/-! ### Runs -/

/--
In the report of a run every entry tells the level of its step, and this is one that is allowed. The
run fails for its depth only if the script has too many levels, and then at a step of the first one
that is not allowed.
-/
structure LevelsReported (config : EngineConfig) (script : Script) (found : RunReport) : Prop where
  level : ∀ entry ∈ found.trace, (∃ step, (entry.depth.toNat, step) ∈ script.visit ∧
    step.id = entry.stepId) ∧ ∀ depth step, (depth, step) ∈ script.visit →
      step.id = entry.stepId → entry.depth.toNat = depth
  allowed : ∀ entry ∈ found.trace, entry.depth < config.maxDepth
  shallow : script.maxDepth ≤ config.maxDepth.toNat →
    ∀ stepId, found.outcome ≠ .failed config.depthMessage stepId
  tooDeep : ∀ stepId, found.outcome = .failed config.depthMessage stepId →
    ∃ step, stepId = some step.id ∧ (config.maxDepth.toNat, step) ∈ script.visit ∧
      ∀ depth other, (depth, other) ∈ script.visit → other.id = step.id →
        depth = config.maxDepth.toNat

/-- Only before a step that is too deep does a run fail with the message for it. -/
theorem depthFails {script : Script} {context : RunContext} {bindings : Bindings} {state : device}
    {final : Session device} {found : RunReport} {stepId : Option String}
    (ended : run place script (Session.start context bindings state) = (final, some found))
    (fails : found.outcome = .failed place.config.depthMessage stepId) :
    ∃ step, stepId = some step.id ∧ (place.config.maxDepth.toNat, step) ∈ script.visit := by
  obtain ⟨leaf, last, entry, after, executed⟩ | ⟨session, depth, step, rest, tasks, leads, deep,
    isDepth⟩ := runFails ended fails
  · obtain ⟨failure, -, -, isMessage, -⟩ := executed.fatal
    exact absurd isMessage.symm (failure.messageOther place.config)
  · rw [depthFailure, Halt.failed.injEq] at isDepth
    have visited := atStepVisited leads
    rw [tooDeepLevel leads deep] at visited
    exact ⟨step, isDepth.2, visited⟩

theorem runLevels (place : Workplace device) (script : Script) (context : RunContext)
    (bindings : Bindings) (state : device) (final : Session device) (found : RunReport)
    (distinct : (script.visit.map fun (_, step) => step.id).Nodup)
    (ended : run place script (Session.start context bindings state) = (final, some found)) :
    LevelsReported place.config script found := by
  have sameLevel {depth other : Nat} {step otherStep : Step}
      (visited : (depth, step) ∈ script.visit) (otherVisited : (other, otherStep) ∈ script.visit)
      (same : step.id = otherStep.id) : depth = other :=
    congrArg Prod.fst (List.inj_on_of_nodup_map distinct visited otherVisited same)
  have entryLevel {entry : TraceEntry} (member : entry ∈ found.trace) :
      ∃ step, (entry.depth.toNat, step) ∈ script.visit ∧ step.id = entry.stepId ∧
        entry.depth.toNat < place.config.maxDepth.toNat := by
    obtain ⟨depth, step, visited, fits, started⟩ := entryVisited ended member
    have isDepth : entry.depth = UInt64.ofNat depth := congrArg Started.depth started
    have inRange : depth < UInt64.size := Nat.lt_trans fits place.config.maxDepth.toNat_lt
    rw [isDepth, UInt64.toNat_ofNat_of_lt' inRange]
    exact ⟨step, visited, (congrArg Started.stepId started).symm, fits⟩
  exact {
    level := fun entry member => by
      obtain ⟨step, visited, own, -⟩ := entryLevel member
      exact ⟨⟨step, visited, own⟩, fun depth other otherVisited otherOwn =>
        sameLevel visited otherVisited (own.trans otherOwn.symm)⟩
    allowed := fun entry member => by
      obtain ⟨-, -, -, fits⟩ := entryLevel member
      exact UInt64.lt_iff_toNat_lt.mpr fits
    shallow := fun few stepId fails => by
      obtain ⟨step, -, visited⟩ := depthFails ended fails
      have level : place.config.maxDepth.toNat < script.maxDepth :=
        script.visitBelowDepth _ visited
      exact absurd few (Nat.not_le.mpr level)
    tooDeep := fun stepId fails => by
      obtain ⟨step, isStep, visited⟩ := depthFails ended fails
      exact ⟨step, isStep, visited, fun depth other otherVisited own =>
        sameLevel otherVisited visited own⟩ }

theorem runLevelsWaitWithin :
    ∃ final found, run .shallow waitWithin (Session.start (.start "run" none 0) .empty ()) =
        (final, some found) ∧
      found.outcome = .failed "maximum nesting depth 1 exceeded" (some "deep") ∧
      (waitWithin.visit.map fun (_, step) => step.id).Nodup ∧
      LevelsReported Workplace.shallow.config waitWithin found := by
  have ended : ((run .shallow waitWithin (Session.start (.start "run" none 0) .empty ())).2.any
      fun found => found.outcome = .failed "maximum nesting depth 1 exceeded" (some "deep")) =
        true := by
    decide +kernel
  obtain ⟨final, found, isRun, isOutcome⟩ := reportFound ended
  have distinct : (waitWithin.visit.map fun (_, step) => step.id).Nodup := by decide +kernel
  exact ⟨final, found, isRun, of_decide_eq_true isOutcome, distinct,
    runLevels .shallow waitWithin _ _ _ final found distinct isRun⟩

end Interpreter

end DeskScript
