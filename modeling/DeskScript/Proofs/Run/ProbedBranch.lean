/-
This file is about a branching step that asks what the step right before it has found. Whatever else
is run, the branching step is only reached right after that step.
-/

import DeskScript.Proofs.Run.Findings
import DeskScript.Proofs.Run.Retries

namespace DeskScript

variable {device : Type}

/-! ### Where the steps are -/

/-- These are the lists of steps right inside a step. -/
def Step.lists : Step → List (List Step)
  | .leaf _ _ => []
  | .branch _ _ whenTrue whenFalse => [whenTrue, whenFalse]
  | .loop _ _ body => [body]

/--
A probe looks once for something that it does not click on, and the condition of the branch asks
whether the output variable of the probe has a value.
-/
structure ProbedBranch where
  probe : StepHeader
  action : Action
  sensing : Sensing
  output : String
  header : StepHeader
  condition : Condition
  whenTrue : List Step
  whenFalse : List Step
  isSensing : Leaf.sensing? action = some sensing
  isOutput : sensing.output = some output
  noClick : sensing.click = none
  enabled : probe.enabled = true
  single : probe.retryCount = 0
  decides : ∀ bindings,
    (condition.evaluate bindings).result = !((bindings.find? output).getD "").isEmpty

namespace ProbedBranch

def probeStep (pair : ProbedBranch) : Step := .leaf pair.probe pair.action

def branchStep (pair : ProbedBranch) : Step :=
  .branch pair.header pair.condition pair.whenTrue pair.whenFalse

def way (pair : ProbedBranch) : BranchTaken → List Step
  | .whenTrue => pair.whenTrue
  | .whenFalse => pair.whenFalse

/-- In a list of steps and in all lists in it, the branch is nowhere but right behind its probe. -/
inductive Guards (pair : ProbedBranch) : List Step → Prop where
  | nil : Guards pair []
  | other {step : Step} {rest : List Step} (different : step.id ≠ pair.header.id)
      (inside : ∀ steps, steps ∈ step.lists → Guards pair steps) (further : Guards pair rest) :
      Guards pair (step :: rest)
  | pair {rest : List Step} (inside : ∀ taken, Guards pair (pair.way taken))
      (further : Guards pair rest) : Guards pair (pair.probeStep :: pair.branchStep :: rest)

end ProbedBranch

namespace Leaf

theorem Ending.noBranch {config : EngineConfig} {step : Step} {ending : ActionEnd}
    {outcome : StepOutcome} {error : Option String} {halt : Option Halt}
    (ends : Ending config step ending outcome error halt) (taken : BranchTaken) :
    outcome ≠ .branch taken := by
  rcases ends.outcomes with rfl | rfl | rfl | rfl <;> exact nofun

end Leaf

namespace Interpreter

variable {place : Workplace device} {pair : ProbedBranch}

/-! ### What has been found -/

/-- The last step that was recorded is the probe, whose output variable tells how it ended. -/
structure Looked (pair : ProbedBranch) (session : Session device) (earlier : List TraceEntry)
    (entry : TraceEntry) : Prop where
  trace : session.trace.toList = earlier ++ [entry]
  own : entry.stepId = pair.probe.id
  found : entry.outcome = .success →
    ∃ label, label ≠ "" ∧ session.bindings.find? pair.output = some label
  missed : entry.outcome = .timeout → session.bindings.find? pair.output = none

/-- A branch that takes a way answers how the probe has ended. -/
structure Answers (pair : ProbedBranch) (entry : TraceEntry) (taken : BranchTaken) : Prop where
  own : entry.stepId = pair.probe.id
  found : entry.outcome = .success → taken = .whenTrue
  missed : entry.outcome = .timeout → taken = .whenFalse

theorem Looked.answers {session : Session device} {earlier : List TraceEntry} {entry : TraceEntry}
    (looked : Looked pair session earlier entry) {taken : BranchTaken}
    (decided : taken =
      if (pair.condition.evaluate session.bindings).result then .whenTrue else .whenFalse) :
    Answers pair entry taken where
  own := looked.own
  found success := by
    obtain ⟨label, written, bound⟩ := looked.found success
    have unequal : label.isEmpty = false := by
      rw [String.isEmpty_eq_false_iff]
      exact written
    rw [decided, pair.decides, bound, Option.getD_some, unequal]
    rfl
  missed timeout := by
    rw [decided, pair.decides, looked.missed timeout]
    rfl

theorem probeLooked (labels : place.devices.Labelled) {session after : Session device}
    {depth last : Nat} {entry : TraceEntry} {halt : Option Halt}
    (executed : LeafExecution place session depth pair.probe pair.action last entry after halt) :
    Looked pair after session.trace.toList entry := by
  have once : last = 0 := by
    have bounded := executed.bounded
    have single : pair.probe.retryCount.toNat = 0 := by
      rw [pair.single]
      rfl
    rw [Leaf.allowance] at bounded
    omega
  subst once
  have leaves : Leaf.Leaves pair.output (tried place session depth pair.probe pair.action 0) :=
    Leaf.actLeaves labels _ _ pair.isSensing pair.isOutput pair.noClick
  have bindings : after.bindings =
      (tried place session depth pair.probe pair.action 0).session.bindings := by
    rw [executed.recorded]
  have ends := executed.ends
  refine ⟨by rw [executed.trace, Array.toList_push], congrArg Started.stepId executed.own, ?_, ?_⟩
  · intro success
    rw [success] at ends
    rw [bindings]
    exact leaves.found ends.done
  · intro timeout
    obtain ⟨failure, failed, -⟩ := ends.failure (.inl timeout)
    rw [bindings]
    exact leaves.failed failure failed

/-! ### The trace -/

/-- An entry is about the branch and tells which way was taken. -/
def Tells (pair : ProbedBranch) (entry : TraceEntry) (taken : BranchTaken) : Prop :=
  entry.stepId = pair.header.id ∧ entry.outcome = .branch taken

/-- Right before every entry that tells which way was taken is the entry of the probe. -/
def Answered (pair : ProbedBranch) (trace : List TraceEntry) : Prop :=
  ∀ before entry after taken, trace = before ++ entry :: after → Tells pair entry taken →
    ∃ earlier probe, before = earlier ++ [probe] ∧ Answers pair probe taken

theorem Answered.snoc {trace : List TraceEntry} {entry : TraceEntry}
    (answered : Answered pair trace)
    (last : ∀ taken, Tells pair entry taken →
      ∃ earlier probe, trace = earlier ++ [probe] ∧ Answers pair probe taken) :
    Answered pair (trace ++ [entry]) := by
  intro before found after taken split tells
  rcases List.eq_nil_or_concat after with rfl | ⟨inner, final, rfl⟩
  · obtain ⟨rfl, same⟩ := List.append_inj' split rfl
    cases same
    exact last taken tells
  · have longer : trace ++ [entry] = (before ++ found :: inner) ++ [final] := by
      rw [split, List.concat_eq_append, List.append_assoc]
      rfl
    obtain ⟨rfl, -⟩ := List.append_inj' longer rfl
    exact answered before found inner taken rfl tells

/-- Entries that do not tell which way was taken do not matter. -/
theorem Answered.push {before after : Session device} {entry : TraceEntry}
    (answered : Answered pair before.trace.toList) (trace : after.trace = before.trace.push entry)
    (silent : ∀ taken, ¬Tells pair entry taken) : Answered pair after.trace.toList := by
  rw [trace, Array.toList_push]
  exact answered.snoc fun taken tells => absurd tells (silent taken)

theorem Answered.close {session : Session device} (answered : Answered pair session.trace.toList)
    (loop : OpenLoop) (limited : Bool) (halt : Option Halt) (works : halt ≠ some .brokeDown) :
    Answered pair (loop.close place session limited halt).trace.toList := by
  obtain ⟨outcome, error, ends, recorded⟩ := closeRecords place loop session limited halt works
  rw [recorded]
  refine answered.push rfl fun taken tells => ?_
  have isBranch : outcome = .branch taken := tells.2
  cases ends <;> cases isBranch

/-! ### Moments -/

/-- The lists of steps in a task have the branch nowhere but right behind its probe. -/
def GuardsTask (pair : ProbedBranch) : Task → Prop
  | .steps _ steps => pair.Guards steps
  | .check _ => True
  | .loop opened => pair.Guards opened.body

/--
As long as a run goes on the branch is left to be done right behind its probe, except between the
two: then the probe is the last step that was recorded.
-/
inductive Watched (pair : ProbedBranch) : Moment device → Prop where
  | halted (session : Session device) (reason : Halt) (tasks : List Task) :
      Watched pair ⟨session, some reason, tasks⟩
  | apart {session : Session device} {tasks : List Task}
      (guards : ∀ task ∈ tasks, GuardsTask pair task) : Watched pair ⟨session, none, tasks⟩
  | behind {session : Session device} {earlier : List TraceEntry} {entry : TraceEntry} {depth : Nat}
      {rest : List Step} {tasks : List Task} (looked : Looked pair session earlier entry)
      (inside : ∀ taken, pair.Guards (pair.way taken)) (further : pair.Guards rest)
      (guards : ∀ task ∈ tasks, GuardsTask pair task) :
      Watched pair ⟨session, none,
        .check pair.probe.id :: .steps depth (pair.branchStep :: rest) :: tasks⟩
  | before {session : Session device} {earlier : List TraceEntry} {entry : TraceEntry} {depth : Nat}
      {rest : List Step} {tasks : List Task} (looked : Looked pair session earlier entry)
      (inside : ∀ taken, pair.Guards (pair.way taken)) (further : pair.Guards rest)
      (guards : ∀ task ∈ tasks, GuardsTask pair task) :
      Watched pair ⟨session, none, .steps depth (pair.branchStep :: rest) :: tasks⟩

theorem guardsBehind {stepId : String} {depth : Nat} {rest : List Step} {tasks : List Task}
    (further : pair.Guards rest) (guards : ∀ task ∈ tasks, GuardsTask pair task) :
    ∀ task ∈ (.check stepId :: .steps depth rest :: tasks : List Task), GuardsTask pair task :=
  List.forall_mem_cons.mpr ⟨trivial, List.forall_mem_cons.mpr ⟨further, guards⟩⟩

/-- A step that is to be run next is the probe, or the branch behind it, or any other step. -/
inductive Arrives (pair : ProbedBranch) (session : Session device) (step : Step)
    (rest : List Step) : Prop where
  | other (different : step.id ≠ pair.header.id) (inside : ∀ steps ∈ step.lists, pair.Guards steps)
      (further : pair.Guards rest)
  | probe {others : List Step} (isProbe : step = pair.probeStep)
      (isRest : rest = pair.branchStep :: others) (inside : ∀ taken, pair.Guards (pair.way taken))
      (further : pair.Guards others)
  | branch {earlier : List TraceEntry} {entry : TraceEntry} (isBranch : step = pair.branchStep)
      (looked : Looked pair session earlier entry) (inside : ∀ taken, pair.Guards (pair.way taken))
      (further : pair.Guards rest)

theorem Watched.arrives {session : Session device} {depth : Nat} {step : Step} {rest : List Step}
    {tasks : List Task}
    (watched : Watched pair ⟨session, none, .steps depth (step :: rest) :: tasks⟩) :
    Arrives pair session step rest ∧ ∀ task ∈ tasks, GuardsTask pair task := by
  cases watched with
  | apart guards =>
      obtain ⟨here, others⟩ := List.forall_mem_cons.mp guards
      refine ⟨?_, others⟩
      have guarded : pair.Guards (step :: rest) := here
      cases guarded with
      | other different inside further => exact .other different inside further
      | pair inside further => exact .probe rfl rfl inside further
  | before looked inside further guards => exact ⟨.branch rfl looked inside further, guards⟩

theorem Watched.behindSteps {session : Session device} {depth : Nat} {tasks : List Task}
    (watched : Watched pair ⟨session, none, .steps depth [] :: tasks⟩) :
    ∀ task ∈ tasks, GuardsTask pair task := by
  cases watched with
  | apart guards => exact (List.forall_mem_cons.mp guards).2

theorem Watched.atLoop {session : Session device} {loop : OpenLoop} {tasks : List Task}
    (watched : Watched pair ⟨session, none, .loop loop :: tasks⟩) :
    pair.Guards loop.body ∧ ∀ task ∈ tasks, GuardsTask pair task := by
  cases watched with
  | apart guards => exact List.forall_mem_cons.mp guards

namespace Arrives

variable {session after : Session device} {header : StepHeader} {condition : Condition}
  {rule : LoopRule} {whenTrue whenFalse way body rest : List Step} {step : Step}

/-- The probe is never passed over. -/
theorem passedOver (arrives : Arrives pair session step rest)
    (disabled : step.header.enabled = false) : pair.Guards rest := by
  cases arrives with
  | other different inside further => exact further
  | probe isProbe =>
      rw [isProbe] at disabled
      exact absurd pair.enabled (by rw [show pair.probe.enabled = false from disabled]; decide)
  | branch isBranch looked inside further => exact further

/-- Behind a leaf step the branch comes next if the leaf step was its probe. -/
theorem afterLeaf (labels : place.devices.Labelled) {action : Action} {depth last : Nat}
    {entry : TraceEntry} {tasks : List Task}
    (arrives : Arrives pair session (.leaf header action) rest)
    (guards : ∀ task ∈ tasks, GuardsTask pair task)
    (executed : LeafExecution place session depth header action last entry after none) :
    Watched pair ⟨after, none, .check header.id :: .steps depth rest :: tasks⟩ := by
  cases arrives with
  | other different inside further => exact .apart (guardsBehind further guards)
  | probe isProbe isRest inside further =>
      cases isProbe
      rw [isRest]
      exact .behind (probeLooked labels executed) inside further guards
  | branch isBranch => cases isBranch

/-- On both ways of a branching step and behind it the branch is only behind its probe. -/
theorem onWay (arrives : Arrives pair session (.branch header condition whenTrue whenFalse) rest)
    (isWay : way = whenTrue ∨ way = whenFalse) : pair.Guards way ∧ pair.Guards rest := by
  cases arrives with
  | other different inside further =>
      exact ⟨inside way (List.mem_cons.mpr (isWay.imp_right List.mem_singleton.mpr)), further⟩
  | probe isProbe => cases isProbe
  | branch isBranch looked inside further =>
      cases isBranch
      refine ⟨?_, further⟩
      rcases isWay with rfl | rfl
      · exact inside .whenTrue
      · exact inside .whenFalse

/-- A branching step that is recorded is another one or answers how the probe has ended. -/
theorem answered {taken : BranchTaken} {entry : TraceEntry}
    (arrives : Arrives pair session (.branch header condition whenTrue whenFalse) rest)
    (earlier : Answered pair session.trace.toList) (own : entry.stepId = header.id)
    (isOutcome : entry.outcome = .branch taken)
    (decided : taken =
      if (condition.evaluate session.bindings).result then .whenTrue else .whenFalse) :
    Answered pair (session.trace.toList ++ [entry]) := by
  refine earlier.snoc fun other tells => ?_
  cases arrives with
  | other different => exact absurd (own.symm.trans tells.1) different
  | probe isProbe => cases isProbe
  | branch isBranch looked =>
      cases isBranch
      have same : taken = other := StepOutcome.branch.inj (isOutcome.symm.trans tells.2)
      exact ⟨_, _, looked.trace, looked.answers (same ▸ decided)⟩

theorem inLoop (arrives : Arrives pair session (.loop header rule body) rest) :
    pair.Guards body ∧ pair.Guards rest := by
  cases arrives with
  | other different inside further => exact ⟨inside body List.mem_cons_self, further⟩
  | probe isProbe => cases isProbe
  | branch isBranch => cases isBranch

end Arrives

/-- What is left to be done is watched, and what was recorded is answered. -/
structure Sound (pair : ProbedBranch) (moment : Moment device) : Prop where
  watched : Watched pair moment
  answered : Answered pair moment.session.trace.toList

/-- One move keeps this, because the branch never comes next but right behind its probe. -/
theorem Sound.move (labels : place.devices.Labelled) {before after : Moment device}
    (moves : Move place before after) (works : after.halt ≠ some .brokeDown)
    (sound : Sound pair before) : Sound pair after := by
  obtain ⟨watched, answered⟩ := sound
  cases moves with
  | idle => exact ⟨watched, answered⟩
  | dropped session reason task tasks => exact ⟨.halted session reason tasks, answered⟩
  | unwound session reason loop tasks =>
      exact ⟨.halted _ reason tasks, answered.close loop false (some reason) works⟩
  | exhausted session depth tasks =>
      exact ⟨.apart watched.behindSteps, answered⟩
  | passed session stepId tasks free =>
      refine ⟨?_, answered⟩
      cases watched with
      | apart guards => exact .apart (List.forall_mem_cons.mp guards).2
      | behind looked inside further guards => exact .before looked inside further guards
  | stopped session stepId abort task tasks => exact ⟨.halted session _ tasks, answered⟩
  | tooDeep session depth step rest tasks => exact ⟨.halted session _ _, answered⟩
  | skipped session depth step rest tasks fits disabled =>
      obtain ⟨arrives, guards⟩ := watched.arrives
      exact ⟨.apart (guardsBehind (arrives.passedOver disabled) guards),
        answered.push rfl fun taken tells => by cases tells.2⟩
  | leaf session depth header action rest tasks begins =>
      obtain ⟨arrives, guards⟩ := watched.arrives
      simp only [Moment.ofFlow] at works ⊢
      obtain ⟨last, entry, executed⟩ := leafExecuted place session depth header action works
      generalize Leaf.attempt place (.leaf header action) action depth (session.time place)
        (Leaf.furtherAttempts header) 1 (startStep depth (.leaf header action) session) = flow
        at executed ⊢
      obtain ⟨after, halt⟩ := flow
      refine ⟨?_, answered.push executed.trace fun taken tells =>
        executed.ends.noBranch taken tells.2⟩
      cases halt with
      | some reason => exact .halted after reason _
      | none => exact arrives.afterLeaf labels guards executed
  | branch session depth header condition whenTrue whenFalse way taken notes rest tasks begins isWay
      decided =>
      obtain ⟨arrives, guards⟩ := watched.arrives
      obtain ⟨onWay, further⟩ := arrives.onWay isWay
      refine ⟨.apart (List.forall_mem_cons.mpr ⟨onWay, guardsBehind further guards⟩), ?_⟩
      simp only [Session.record, Array.toList_push]
      exact arrives.answered answered rfl rfl decided
  | loop session depth header rule body opened rest tasks begins isOpened isDepth =>
      obtain ⟨arrives, guards⟩ := watched.arrives
      obtain ⟨inBody, further⟩ := arrives.inLoop
      have isBody : opened.body = body := (Step.loop.inj isOpened).2.2
      have inLoop : GuardsTask pair (.loop opened) := by
        rw [GuardsTask, isBody]
        exact inBody
      exact ⟨.apart (List.forall_mem_cons.mpr ⟨inLoop, guardsBehind further guards⟩), answered⟩
  | loopStopped session loop later abort tasks => exact ⟨.halted session _ _, answered⟩
  | iterated session loop later tasks same sameDepth =>
      obtain ⟨here, others⟩ := watched.atLoop
      have isBody : later.body = loop.body := (Step.loop.inj same).2.2
      have isLater : GuardsTask pair (.loop later) := by
        rw [GuardsTask, isBody]
        exact here
      refine ⟨.apart (List.forall_mem_cons.mpr ⟨here, List.forall_mem_cons.mpr
        ⟨isLater, others⟩⟩), ?_⟩
      rw [later.bindIndexTrace session]
      exact answered
  | ended session loop later tasks same sameDepth =>
      exact ⟨.apart watched.atLoop.2, answered.close later false none worksOfNone⟩
  | limited session loop later tasks same sameDepth =>
      have warned : Answered pair (session.warn ⟨loop.header.id, loop.rule.limit⟩).trace.toList :=
        answered
      exact ⟨.apart watched.atLoop.2, warned.close later true none worksOfNone⟩

theorem Sound.along (labels : place.devices.Labelled) {before after : Moment device}
    (leads : Leads place before after) (works : after.halt ≠ some .brokeDown)
    (sound : Sound pair before) : Sound pair after :=
  leads.keepsWorking works sound fun moves works sound => sound.move labels moves works

theorem soundStart {script : Script} (guards : pair.Guards script.steps) (context : RunContext)
    (bindings : Bindings) (state : device) :
    Sound pair (.start script (Session.start context bindings state)) where
  watched := .apart (List.forall_mem_cons.mpr
    ⟨guards, fun task member => absurd member List.not_mem_nil⟩)
  answered before entry after taken split := by
    cases before <;> cases split

/-! ### Runs -/

/-- At a moment of a run the branch is executed. -/
structure BranchRun (place : Workplace device) (start : Moment device) (pair : ProbedBranch) where
  session : Session device
  depth : Nat
  rest : List Step
  tasks : List Task
  leads : Leads place start (.atStep session depth pair.branchStep rest tasks)
  begins : Begins place session depth pair.branchStep

namespace BranchRun

variable {start : Moment device}

def before (branch : BranchRun place start pair) : Moment device :=
  .atStep branch.session branch.depth pair.branchStep branch.rest branch.tasks

/-- The branch is recorded with the way it takes, and the steps on this way are the next ones. -/
structure Takes (branch : BranchRun place start pair) (taken : BranchTaken)
    (after : Session device) : Prop where
  next : branch.before.next place = ⟨after, none, .steps (branch.depth + 1) (pair.way taken) ::
    .check pair.header.id :: .steps branch.depth branch.rest :: branch.tasks⟩
  recorded : ∃ entry, after.trace = branch.session.trace.push entry ∧ Tells pair entry taken

theorem takes (branch : BranchRun place start pair) :
    ∃ after, branch.Takes
      (if (pair.condition.evaluate branch.session.bindings).result then .whenTrue else .whenFalse)
      after := by
  have next := nextBranch branch.session branch.depth pair.header pair.condition pair.whenTrue
    pair.whenFalse branch.rest branch.tasks branch.begins
  have isWay : (if (pair.condition.evaluate branch.session.bindings).result then pair.whenTrue
      else pair.whenFalse) = pair.way
        (if (pair.condition.evaluate branch.session.bindings).result then .whenTrue
          else .whenFalse) := by
    split <;> rfl
  rw [isWay] at next
  exact ⟨_, next, _, rfl, rfl, rfl⟩

end BranchRun

/-- In a run the branch takes the way that its probe tells, and the report of the run shows this. -/
structure Heeded (place : Workplace device) (script : Script) (session : Session device)
    (pair : ProbedBranch) : Prop where
  executed : ∀ branch : BranchRun place (.start script session) pair, ∃ earlier entry taken after,
    branch.session.trace.toList = earlier ++ [entry] ∧ Answers pair entry taken ∧
    branch.Takes taken after
  reported : ∀ final found, run place script session = (final, some found) →
    Answered pair found.trace

/-- The report of a run shows what holds at its last moment. -/
theorem heeded (labels : place.devices.Labelled) {script : Script}
    (guards : pair.Guards script.steps) (context : RunContext) (bindings : Bindings)
    (state : device) : Heeded place script (Session.start context bindings state) pair where
  executed branch := by
    have sound := (soundStart guards context bindings state).along labels branch.leads worksOfNone
    obtain ⟨arrives, -⟩ := sound.watched.arrives
    cases arrives with
    | other different => exact absurd rfl different
    | probe isProbe => cases isProbe
    | branch _ looked =>
        obtain ⟨after, takes⟩ := branch.takes
        exact ⟨_, _, _, after, looked.trace, looked.answers rfl, takes⟩
  reported final found ended := by
    obtain ⟨after, halt, leads, isOutcome, reported⟩ := runEnded script _ final found ended
    have sound := (soundStart guards context bindings state).along labels leads
      (worksOfOutcome isOutcome)
    have trace : found.trace = after.trace.toList := by
      rw [report, Prod.mk.injEq] at reported
      rw [← reported.2]
      rfl
    rw [trace]
    exact sound.answered

end Interpreter

end DeskScript
