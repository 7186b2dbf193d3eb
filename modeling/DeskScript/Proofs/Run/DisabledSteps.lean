/-
This file shows that a step which is not enabled does nothing in a run. No device is called for it,
no variable changes, and the run does not fail with it, unless it is too deep.
-/

import DeskScript.Proofs.Run.FailureTrace
import DeskScript.Proofs.Step.Forest

namespace DeskScript

variable {device : Type} {place : Workplace device}

namespace Interpreter

/-- No device is called, and the variables keep their values. -/
structure Unmoved (before after : Session device) : Prop where
  calls : after.calls = before.calls
  device : after.device = before.device
  bindings : after.bindings = before.bindings

theorem Unmoved.refl (session : Session device) : Unmoved session session := ⟨rfl, rfl, rfl⟩

theorem recordUnmoved (session : Session device) (place : Workplace device) (step : Step)
    (depth : Nat) (outcome : StepOutcome) (notes : StepNotes) (error : Option String)
    (attempts : UInt32) (startedAt : Time.Timestamp) :
    Unmoved session (session.record place step depth outcome notes error attempts startedAt) :=
  ⟨rfl, rfl, rfl⟩

theorem closeUnmoved (loop : OpenLoop) (session : Session device) (limited : Bool)
    (halt : Option Halt) : Unmoved session (loop.close place session limited halt) := by
  cases halt with
  | none => exact recordUnmoved ..
  | some reason =>
      cases reason with
      | aborted abort => exact recordUnmoved ..
      | failed error stepId => exact recordUnmoved ..
      | brokeDown => exact .refl session

namespace Moment

/-- A run goes on from a moment on behalf of this step. -/
def actor? (moment : Moment device) : Option String :=
  match moment.tasks with
  | .steps _ (step :: _) :: _ => some step.id
  | .check stepId :: _ => some stepId
  | .loop loop :: _ => some loop.header.id
  | _ => none

end Moment

/--
A step is inert in a run if no device is called and no variable changes on behalf of it. The run
fails with it only if it is too deep.
-/
structure Inert (place : Workplace device) (script : Script) (session : Session device)
    (step : Step) : Prop where
  unmoved : ∀ moment, Leads place (.start script session) moment →
    moment.actor? = some step.id → Unmoved moment.session (moment.next place).session
  halts : ∀ moment reason, Leads place (.start script session) moment → moment.halt = none →
    moment.actor? = some step.id → (moment.next place).halt = some reason →
    (∃ abort, reason = .aborted abort) ∨
      ∃ depth, (depth, step) ∈ script.visit ∧ place.config.maxDepth.toNat ≤ depth
  fails : ∀ final found error, run place script session = (final, some found) →
    found.outcome = .failed error (some step.id) →
    ∃ depth, (depth, step) ∈ script.visit ∧ place.config.maxDepth.toNat ≤ depth

section

variable {script : Script} {context : RunContext} {bindings : Bindings} {state : device}

/-- A loop that has been opened is a step of the script that is enabled. -/
structure Openable (script : Script) (step : Step) : Prop where
  enabled : step.header.enabled = true
  visited : ∃ depth, (depth, step) ∈ script.visit

/-- An open loop has just been started, or it has been open before. -/
theorem Move.openLoop {before after : Moment device} (moves : Move place before after)
    {loop : OpenLoop} (isOpen : .loop loop ∈ after.tasks) :
    (∃ session depth rest tasks,
      before = ⟨session, none, .steps depth (loop.step :: rest) :: tasks⟩ ∧
        Begins place session depth loop.step) ∨
      ∃ earlier, .loop earlier ∈ before.tasks ∧ loop.step = earlier.step := by
  cases moves with
  | loop session depth header rule body opened rest tasks begins isOpened isDepth =>
      rcases List.mem_cons.mp isOpen with same | further
      · rw [Task.loop.inj same, isOpened]
        exact .inl ⟨session, depth, rest, tasks, rfl, begins⟩
      · exact .inr ⟨loop, by simpa using further, rfl⟩
  | loopStopped session opened last abort tasks stops same sameDepth =>
      rcases List.mem_cons.mp isOpen with isLast | further
      · exact .inr ⟨opened, List.mem_cons_self, by rw [Task.loop.inj isLast, same]⟩
      · exact .inr ⟨loop, List.mem_cons_of_mem _ further, rfl⟩
  | iterated session opened last tasks same sameDepth =>
      have behind : Task.loop loop ∈ .loop last :: tasks := by simpa using isOpen
      rcases List.mem_cons.mp behind with isLast | further
      · exact .inr ⟨opened, List.mem_cons_self, by rw [Task.loop.inj isLast, same]⟩
      · exact .inr ⟨loop, List.mem_cons_of_mem _ further, rfl⟩
  | idle => exact .inr ⟨loop, isOpen, rfl⟩
  | dropped | unwound | exhausted | passed | stopped | ended | limited =>
      exact .inr ⟨loop, List.mem_cons_of_mem _ isOpen, rfl⟩
  | tooDeep | skipped | leaf | branch =>
      exact .inr ⟨loop, List.mem_cons_of_mem _ (by simpa [Moment.ofFlow] using isOpen), rfl⟩

theorem openLoops {moment : Moment device}
    (leads : Leads place (.start script (Session.start context bindings state)) moment) :
    ∀ loop : OpenLoop, .loop loop ∈ moment.tasks → Openable script loop.step := by
  induction leads with
  | refl =>
      intro loop member
      cases List.mem_singleton.mp member
  | @tail middle later before next inductionHypothesis =>
      have moves : Move place middle later := next ▸ moveOfNext middle
      intro loop member
      obtain ⟨session, depth, rest, tasks, rfl, begins⟩ | ⟨earlier, wasOpen, same⟩ :=
        moves.openLoop member
      · exact ⟨begins.enabled, depth, atStepVisited before⟩
      · exact same ▸ inductionHypothesis earlier wasOpen

/-- No two steps of a script with distinct identities have one identity. -/
theorem sameStep (distinct : (Step.forestIds script.steps).Nodup) {depth other : Nat}
    {step found : Step} (visited : (depth, step) ∈ script.visit)
    (isFound : (other, found) ∈ script.visit) (sameId : found.id = step.id) :
    other = depth ∧ found = step := by
  rw [Step.forestIds, Step.forest, List.map_map] at distinct
  have same := List.inj_on_of_nodup_map distinct isFound visited sameId
  exact ⟨congrArg Prod.fst same, congrArg Prod.snd same⟩

/-- These are the ways on from a moment at which a disabled step is the next one. -/
inductive PassedOver (place : Workplace device) (session : Session device) (depth : Nat) :
    Moment device → Prop where
  | stopped (abort : Abort) (tasks : List Task) :
      PassedOver place session depth ⟨session, some (.aborted abort), tasks⟩
  | tooDeep (reason : Halt) (tasks : List Task) (deep : place.config.maxDepth.toNat ≤ depth) :
      PassedOver place session depth ⟨session, some reason, tasks⟩
  | goesOn (after : Session device) (tasks : List Task) (unmoved : Unmoved session after) :
      PassedOver place session depth ⟨after, none, tasks⟩

theorem disabledPassedOver {session : Session device} {depth : Nat} {step : Step}
    {rest : List Step} {tasks : List Task} (disabled : step.header.enabled = false) :
    PassedOver place session depth ((Moment.atStep session depth step rest tasks).next place) := by
  have idle : step.header.enabled ≠ true := by
    rw [disabled]
    decide
  have moves : Move place _ ((Moment.atStep session depth step rest tasks).next place) :=
    moveOfNext _
  generalize (Moment.atStep session depth step rest tasks).next place = later at moves
  cases moves with
  | stopped _ stepId abort _ _ stops noLoop => exact .stopped abort tasks
  | tooDeep _ _ _ _ _ deep => exact .tooDeep _ _ deep
  | skipped => exact .goesOn _ _ (recordUnmoved ..)
  | leaf _ _ _ _ _ _ begins => exact absurd begins.enabled idle
  | branch _ _ _ _ _ _ _ _ _ _ _ begins => exact absurd begins.enabled idle
  | loop _ _ _ _ _ _ _ _ begins => exact absurd begins.enabled idle

/-- The moments at which something may be done on behalf of a step are of these kinds. -/
inductive Acts (stepId : String) : Moment device → Prop where
  | halted (session : Session device) (reason : Halt) (tasks : List Task) :
      Acts stepId ⟨session, some reason, tasks⟩
  | begins (session : Session device) (depth : Nat) (step : Step) (rest : List Step)
      (tasks : List Task) (own : step.id = stepId) :
      Acts stepId (.atStep session depth step rest tasks)
  | checks (session : Session device) (tasks : List Task) :
      Acts stepId ⟨session, none, .check stepId :: tasks⟩
  | goesRound (session : Session device) (loop : OpenLoop) (tasks : List Task)
      (own : loop.header.id = stepId) : Acts stepId ⟨session, none, .loop loop :: tasks⟩

theorem actsOfActor {moment : Moment device} {stepId : String}
    (isActor : moment.actor? = some stepId) : Acts stepId moment := by
  obtain ⟨session, halt, tasks⟩ := moment
  cases halt with
  | some reason => exact .halted session reason tasks
  | none =>
      cases tasks with
      | nil => cases isActor
      | cons task others =>
          cases task with
          | steps depth steps =>
              cases steps with
              | nil => cases isActor
              | cons step rest =>
                  exact .begins session depth step rest others (Option.some.inj isActor)
          | check other =>
              rw [← Option.some.inj isActor]
              exact .checks session others
          | loop loop => exact .goesRound session loop others (Option.some.inj isActor)

theorem haltedUnmoved (session : Session device) (reason : Halt) (tasks : List Task) :
    Unmoved session ((Moment.mk session (some reason) tasks).next place).session := by
  cases tasks with
  | nil => exact .refl session
  | cons task others =>
      cases task with
      | loop loop => exact closeUnmoved loop session false (some reason)
      | _ => exact .refl session

/-- At a checkpoint the run goes on as it is, or it stops. -/
theorem checkPassedOver (session : Session device) (stepId : String) (tasks : List Task) :
    ((Moment.mk session none (.check stepId :: tasks)).next place).session = session ∧
      ∀ reason, ((Moment.mk session none (.check stepId :: tasks)).next place).halt = some reason →
        ∃ abort, reason = .aborted abort := by
  rw [Moment.next, Task.perform, Moment.checkpoint]
  split
  · exact ⟨rfl, fun reason isReason => ⟨_, (Option.some.inj isReason).symm⟩⟩
  · refine ⟨rfl, fun reason isReason => ?_⟩
    cases isReason

/-- A step that is not enabled is inert in every run of a script with distinct identities. -/
theorem disabledInert (distinct : (Step.forestIds script.steps).Nodup) {depth : Nat} {step : Step}
    (visited : (depth, step) ∈ script.visit) (disabled : step.header.enabled = false) :
    Inert place script (Session.start context bindings state) step := by
  -- No loop with this identity is ever open, since it would be an enabled step of the script.
  have closed {session : Session device} {loop : OpenLoop} {tasks : List Task}
      (leads : Leads place (.start script (Session.start context bindings state))
        ⟨session, none, .loop loop :: tasks⟩) (own : loop.header.id = step.id) : False := by
    have openable := openLoops leads loop List.mem_cons_self
    obtain ⟨other, isVisited⟩ := openable.visited
    obtain ⟨-, same⟩ := sameStep distinct visited isVisited own
    have enabled := openable.enabled
    rw [same, disabled] at enabled
    cases enabled
  have next {session : Session device} {other : Nat} {found : Step} {rest : List Step}
      {tasks : List Task}
      (leads : Leads place (.start script (Session.start context bindings state))
        (.atStep session other found rest tasks)) (own : found.id = step.id) :
      PassedOver place session depth
        ((Moment.atStep session other found rest tasks).next place) := by
    obtain ⟨rfl, rfl⟩ := sameStep distinct visited (atStepVisited leads) own
    exact disabledPassedOver disabled
  refine ⟨fun moment leads isActor => ?_, fun moment reason leads goes isActor isReason => ?_, ?_⟩
  · cases actsOfActor isActor with
    | halted session reason tasks => exact haltedUnmoved session reason tasks
    | begins session other found rest tasks own =>
        have passed := next leads own
        generalize (Moment.atStep session other found rest tasks).next place = later at passed
        cases passed with
        | stopped | tooDeep => exact .refl session
        | goesOn after tasks unmoved => exact unmoved
    | checks session tasks =>
        rw [(checkPassedOver session step.id tasks).1]
        exact .refl session
    | goesRound session loop tasks own => exact (closed leads own).elim
  · cases actsOfActor isActor with
    | halted => cases goes
    | begins session other found rest tasks own =>
        have passed := next leads own
        generalize (Moment.atStep session other found rest tasks).next place = later
          at passed isReason
        cases passed with
        | stopped abort => exact .inl ⟨abort, (Option.some.inj isReason).symm⟩
        | tooDeep _ _ deep => exact .inr ⟨depth, visited, deep⟩
        | goesOn => cases isReason
    | checks session tasks => exact .inl ((checkPassedOver session step.id tasks).2 reason isReason)
    | goesRound session loop tasks own => exact (closed leads own).elim
  · intro final found error ended fails
    refine ⟨depth, visited, ?_⟩
    obtain ⟨leaf, last, entry, after, executed⟩ | ⟨session, other, found, rest, tasks, leads, deep,
      isDepth⟩ := runFails ended fails
    · obtain ⟨failure, -, -, -, isStep⟩ := executed.fatal
      have own : (Step.leaf leaf.header leaf.action).id = step.id := (Option.some.inj isStep).symm
      obtain ⟨-, same⟩ := sameStep distinct visited (atStepVisited leaf.leads) own
      have enabled := leaf.begins.enabled
      rw [same, disabled] at enabled
      cases enabled
    · rw [depthFailure, Halt.failed.injEq] at isDepth
      have own : found.id = step.id := (Option.some.inj isDepth.2).symm
      obtain ⟨rfl, -⟩ := sameStep distinct visited (atStepVisited leads) own
      exact deep

end

end Interpreter

end DeskScript
