/-
This file shows that the events of a run tell what it does step by step: what is started is finished
once, in brackets around the steps in it, and the trace holds what the events say.
-/

import DeskScript.Proofs.Run.Arrival
import DeskScript.Proofs.Run.LeafExecution
import DeskScript.Proofs.Run.NestedNews

namespace DeskScript

variable {device : Type}

namespace Interpreter

variable {place : Workplace device}

/-! ### News while loops are open -/

/-- These are the steps that may run while some steps are open, the last one of them first. -/
def scope (script : Script) : List (Nat × Step) → List (Nat × Step)
  | [] => Step.surfaceAll 0 script.steps
  | (depth, step) :: _ => step.within depth

/-- The news of a run that goes on are nested news, except that some steps are still open. -/
inductive Told (limit : Nat) (script : Script) : List (Nat × Step) → List RunNews → Prop where
  | top {news : List RunNews} (nested : Nested limit (Step.surfaceAll 0 script.steps) news) :
      Told limit script [] news
  | inside {opened : List (Nat × Step)} {depth : Nat} {step : Step} {earlier news : List RunNews}
      (told : Told limit script opened earlier) (member : (depth, step) ∈ scope script opened)
      (fits : depth < limit) (enabled : step.header.enabled = true)
      (nested : Nested limit (step.within depth) news) :
      Told limit script ((depth, step) :: opened)
        (earlier ++ (Started.ofStep depth step).news :: news)

namespace Told

variable {limit : Nat} {script : Script} {opened : List (Nat × Step)} {earlier : List RunNews}

theorem further {news : List RunNews} (told : Told limit script opened earlier)
    (nested : Nested limit (scope script opened) news) :
    Told limit script opened (earlier ++ news) := by
  cases told with
  | top first => exact .top (first.append nested)
  | inside told member fits enabled first =>
      rw [List.append_assoc]
      exact .inside told member fits enabled (first.append nested)

theorem start {depth : Nat} {step : Step} (told : Told limit script opened earlier)
    (member : (depth, step) ∈ scope script opened) (fits : depth < limit)
    (enabled : step.header.enabled = true) :
    Told limit script ((depth, step) :: opened)
      (earlier ++ [(Started.ofStep depth step).news]) :=
  .inside told member fits enabled (.nothing _)

theorem finish {depth : Nat} {step : Step} {warned : List RunNews} {entry : TraceEntry}
    (told : Told limit script ((depth, step) :: opened) earlier)
    (limits : warned = [] ∨ warned = step.limitNews) (own : entry.started = .ofStep depth step)
    (ran : entry.outcome ≠ .skip) :
    Told limit script opened (earlier ++ (warned ++ [.stepFinished entry])) := by
  cases told with
  | inside told member fits enabled nested =>
      rw [List.append_assoc, List.cons_append]
      exact told.further (.executed member fits enabled ran own nested limits (.nothing _))

end Told

/-! ### Tasks and open loops -/

/-- These are the loops that are open while some tasks are left. -/
def openSteps : List Task → List (Nat × Step)
  | [] => []
  | .loop loop :: tasks => (loop.depth, loop.step) :: openSteps tasks
  | _ :: tasks => openSteps tasks

/-- Only steps are left to be done that may run while the loops around them are open. -/
def Placed (script : Script) : List Task → Prop
  | [] => True
  | .steps depth steps :: tasks =>
      Step.surfaceAll depth steps ⊆ scope script (openSteps tasks) ∧ Placed script tasks
  | _ :: tasks => Placed script tasks

theorem openStepsOther {task : Task} (noLoop : ∀ loop, task ≠ .loop loop) (tasks : List Task) :
    openSteps (task :: tasks) = openSteps tasks := by
  cases task with
  | loop loop => exact absurd rfl (noLoop loop)
  | _ => rfl

theorem Placed.tail {script : Script} {task : Task} {tasks : List Task}
    (placed : Placed script (task :: tasks)) : Placed script tasks := by
  cases task with
  | steps => exact placed.2
  | _ => exact placed

/-! ### Moments -/

/-- At every moment the news tell which loops are open, and the steps left belong into them. -/
structure Narrated (place : Workplace device) (script : Script) (runId : String)
    (moment : Moment device) : Prop where
  placed : Placed script moment.tasks
  told : ∃ news, moment.session.Tells runId news ∧
    Told place.config.maxDepth.toNat script (openSteps moment.tasks) news

namespace Narrated

variable {script : Script} {runId : String} {session after : Session device}
  {halt further : Option Halt} {tasks : List Task}

theorem drop {task : Task} (narrated : Narrated place script runId ⟨session, halt, task :: tasks⟩)
    (noLoop : ∀ loop, task ≠ .loop loop) :
    Narrated place script runId ⟨session, further, tasks⟩ := by
  obtain ⟨news, tells, told⟩ := narrated.told
  exact ⟨narrated.placed.tail, news, tells, openStepsOther noLoop tasks ▸ told⟩

/-- A step is over, and what was told meanwhile belongs to this step. -/
theorem goOn {depth : Nat} {step : Step} {rest : List Step} {more : List RunNews}
    (narrated : Narrated place script runId ⟨session, halt, .steps depth (step :: rest) :: tasks⟩)
    (adds : session.Adds after more)
    (nested : Nested place.config.maxDepth.toNat (scope script (openSteps tasks)) more) :
    Narrated place script runId ⟨after, further, .check step.id :: .steps depth rest :: tasks⟩ := by
  obtain ⟨news, tells, told⟩ := narrated.told
  obtain ⟨inScope, placed⟩ := narrated.placed
  rw [Step.surfaceAll, List.append_subset] at inScope
  exact ⟨⟨inScope.2, placed⟩, news ++ more, adds.tells tells, told.further nested⟩

/-- The steps in a step may run where the step may run, unless it is a loop. -/
theorem surface {depth : Nat} {step : Step} {rest : List Step}
    (narrated : Narrated place script runId ⟨session, halt, .steps depth (step :: rest) :: tasks⟩) :
    step.surface depth ⊆ scope script (openSteps tasks) := by
  have inScope := narrated.placed.1
  rw [Step.surfaceAll, List.append_subset] at inScope
  exact inScope.1

/-- A step is executed from its start to its end. -/
theorem executes {depth : Nat} {step : Step} {rest : List Step} {entry : TraceEntry}
    (narrated : Narrated place script runId ⟨session, halt, .steps depth (step :: rest) :: tasks⟩)
    (fits : depth < place.config.maxDepth.toNat) (enabled : step.header.enabled = true)
    (records : (startStep depth step session).Adds after [.stepFinished entry])
    (own : entry.started = .ofStep depth step) (ran : entry.outcome ≠ .skip) :
    Narrated place script runId ⟨after, further, .check step.id :: .steps depth rest :: tasks⟩ :=
  narrated.goOn ((startAdds depth step session).trans records)
    (.executed (narrated.surface (step.surfaceSelf depth)) fits enabled ran own (.nothing _)
      (.inl rfl) (.nothing _))

/-- A loop is closed, perhaps with a warning before its end. -/
theorem close {loop later : OpenLoop} {middle : Session device} {warned : List RunNews}
    {limited : Bool}
    (narrated : Narrated place script runId ⟨session, halt, .loop loop :: tasks⟩)
    (same : later.step = loop.step) (sameDepth : later.depth = loop.depth)
    (warns : session.Adds middle warned) (limits : warned = [] ∨ warned = loop.step.limitNews)
    (works : further ≠ some .brokeDown) :
    Narrated place script runId ⟨later.close place middle limited further, further, tasks⟩ := by
  obtain ⟨news, tells, told⟩ := narrated.told
  obtain ⟨entry, own, ran, records⟩ := closeAdds place later middle limited further works
  rw [same, sameDepth] at own
  exact ⟨narrated.placed, _, (warns.trans records).tells tells, told.finish limits own ran⟩

theorem move {before after : Moment device} (moves : Move place before after)
    (works : after.halt ≠ some .brokeDown) (narrated : Narrated place script runId before) :
    Narrated place script runId after := by
  cases moves with
  | idle => exact narrated
  | dropped session reason task tasks noLoop => exact narrated.drop noLoop
  | unwound session reason loop tasks =>
      exact narrated.close rfl rfl (Session.Quiet.refl session).adds (.inl rfl) works
  | exhausted => exact narrated.drop fun _ same => nomatch same
  | passed => exact narrated.drop fun _ same => nomatch same
  | stopped session stepId abort task tasks stops noLoop => exact narrated.drop noLoop
  | tooDeep session => exact narrated.goOn (Session.Quiet.refl session).adds (.nothing _)
  | skipped session depth step rest tasks fits disabled =>
      have adds := session.recordAdds place step depth .skip .empty none 0 (session.time place)
      exact narrated.goOn adds
        (.skipped (narrated.surface (step.surfaceSelf depth)) fits disabled rfl rfl (.nothing _))
  | leaf session depth header action rest tasks begins =>
      obtain ⟨last, entry, executed⟩ := leafExecuted place session depth header action works
      exact narrated.executes begins.fits begins.enabled executed.adds executed.own executed.ran
  | branch session depth header condition whenTrue whenFalse way taken notes rest tasks begins
      isWay =>
      have inScope := narrated.surface
      have records := Session.recordAdds
        (startStep depth (.branch header condition whenTrue whenFalse) session) place
        (.branch header condition whenTrue whenFalse) depth (.branch taken) notes none 1
        (session.time place)
      have goesOn : Narrated place script runId
          ⟨_, none, .check header.id :: .steps depth rest :: tasks⟩ :=
        narrated.executes begins.fits begins.enabled records rfl (by exact nofun)
      -- The step is closed already, so the steps of its way may run where the step may.
      rw [Step.surface, List.cons_subset, List.append_subset] at inScope
      obtain rfl | rfl := isWay
      · exact ⟨⟨inScope.2.1, goesOn.placed⟩, goesOn.told⟩
      · exact ⟨⟨inScope.2.2, goesOn.placed⟩, goesOn.told⟩
  | loop session depth header rule body opened rest tasks begins isOpened isDepth =>
      have inScope := narrated.placed.1
      obtain ⟨news, tells, told⟩ := narrated.told
      rw [Step.surfaceAll, List.append_subset] at inScope
      refine ⟨⟨inScope.2, narrated.placed.2⟩, _, (startAdds depth _ session).tells tells, ?_⟩
      rw [openSteps, isOpened, isDepth]
      exact told.start (inScope.1 (Step.surfaceSelf depth _)) begins.fits begins.enabled
  | loopStopped session loop later abort tasks stops same sameDepth =>
      obtain ⟨news, tells, told⟩ := narrated.told
      rw [openSteps, ← same, ← sameDepth] at told
      exact ⟨narrated.placed, news, tells, told⟩
  | iterated session loop later tasks same sameDepth =>
      obtain ⟨news, tells, told⟩ := narrated.told
      have bound := (later.bindAdds session).tells tells
      rw [List.append_nil] at bound
      rw [openSteps, ← same, ← sameDepth] at told
      refine ⟨⟨?_, narrated.placed⟩, news, bound, told⟩
      rw [openSteps, same, sameDepth]
      exact List.Subset.refl _
  | ended session loop later tasks same sameDepth =>
      exact narrated.close same sameDepth (Session.Quiet.refl session).adds (.inl rfl) works
  | limited session loop later tasks same sameDepth =>
      exact narrated.close same sameDepth (session.warnAdds _) (.inr rfl) works

theorem along {before after : Moment device} (leads : Leads place before after)
    (works : after.halt ≠ some .brokeDown) (narrated : Narrated place script runId before) :
    Narrated place script runId after :=
  leads.keepsWorking works narrated move

end Narrated

/-! ### What a run adds -/

theorem Move.adds {before after : Moment device} (moves : Move place before after)
    (works : after.halt ≠ some .brokeDown) : ∃ more, before.session.Adds after.session more := by
  cases moves with
  | unwound session reason loop tasks =>
      obtain ⟨entry, -, -, adds⟩ := closeAdds place loop session false (some reason) works
      exact ⟨_, adds⟩
  | skipped session depth step => exact ⟨_, session.recordAdds place step depth ..⟩
  | leaf session depth header action =>
      obtain ⟨last, entry, executed⟩ := leafExecuted place session depth header action works
      exact ⟨_, (startAdds depth _ session).trans executed.adds⟩
  | branch session depth header condition whenTrue whenFalse =>
      exact ⟨_, (startAdds depth _ session).trans (Session.recordAdds ..)⟩
  | loop session depth => exact ⟨_, startAdds depth _ session⟩
  | iterated session loop later => exact ⟨_, later.bindAdds session⟩
  | ended session loop later =>
      obtain ⟨entry, -, -, adds⟩ := closeAdds place later session false none works
      exact ⟨_, adds⟩
  | limited session loop later =>
      obtain ⟨entry, -, -, adds⟩ := closeAdds place later
        (session.warn ⟨loop.header.id, loop.rule.limit⟩) true none works
      exact ⟨_, (session.warnAdds _).trans adds⟩
  | _ => exact ⟨[], (Session.Quiet.refl _).adds⟩

theorem Leads.adds {before after : Moment device} (leads : Leads place before after)
    (works : after.halt ≠ some .brokeDown) : ∃ more, before.session.Adds after.session more := by
  have nothing : ∃ more, before.session.Adds before.session more :=
    ⟨[], (Session.Quiet.refl _).adds⟩
  refine leads.keepsWorking works nothing fun moves works before => ?_
  obtain ⟨first, one⟩ := before
  obtain ⟨second, other⟩ := moves.adds works
  exact ⟨first ++ second, one.trans other⟩

/-! ### Runs -/

theorem narratedStart (place : Workplace device) (script : Script) (context : RunContext)
    (bindings : Bindings) (state : device) :
    Narrated place script context.runId
      (.start script (Session.start context bindings state)) where
  placed := ⟨List.Subset.refl _, trivial⟩
  told := ⟨[], ⟨rfl, rfl, rfl⟩, .top (.nothing _)⟩

/-- In the news of a run every start of a step and every end of a step has its place. -/
structure Narration (limit : Nat) (script : Script) (news : List RunNews) : Prop where
  nested : Nested limit (Step.surfaceAll 0 script.steps) news
  /-- Every step that is started is finished in one place only, and at once unless it is a loop. -/
  started : ∀ before started later, news = before ++ started.news :: later →
    ∃ inside entry rest, later = inside ++ .stepFinished entry :: rest ∧
      Bracket started inside entry ∧ (started.stepType ≠ .loop → inside = []) ∧
      ∀ inside' entry' rest', later = inside' ++ .stepFinished entry' :: rest' →
        Bracket started inside' entry' → inside' = inside ∧ entry' = entry ∧ rest' = rest
  /-- Every step that is finished was started, unless it is passed over because it is disabled. -/
  finished : ∀ before entry later, news = before ++ .stepFinished entry :: later →
    ∃ depth step, (depth, step) ∈ script.visit ∧ depth < limit ∧
      entry.started = .ofStep depth step ∧
      ((∃ earlier inside, before = earlier ++ entry.started.news :: inside ∧
          Bracket entry.started inside entry) ∨
        step.header.enabled = false ∧ entry.outcome = .skip)

theorem narrationOfNested {limit : Nat} {script : Script} {news : List RunNews}
    (nested : Nested limit (Step.surfaceAll 0 script.steps) news) :
    Narration limit script news := by
  have parts := NewsPart.ofNested (Step.withinAllVisited 0 script.steps) nested
    (Step.surfaceAllVisited 0 script.steps)
  refine ⟨nested, fun before started later same => ?_, fun before entry later same => ?_⟩
  · have part := parts before started.news later same
    generalize isItem : started.news = item at part
    cases part with
    | starts _ rest execution =>
        rw [Started.newsInjective isItem]
        exact ⟨_, _, rest, rfl, execution.toBracket, execution.prompt, fun _ _ _ other bracket =>
          execution.toBracket.once bracket other⟩
    | _ => cases isItem
  · have part := parts before _ later same
    generalize isItem : RunNews.stepFinished entry = item at part
    cases part with
    | skips _ _ member fits disabled skip own =>
        cases isItem
        exact ⟨_, _, member, fits, own, .inr ⟨disabled, skip⟩⟩
    | starts => cases isItem
    | finishes earlier _ execution =>
        cases isItem
        obtain ⟨depth, step, member, fits, -, isStep⟩ := execution.step
        have own := execution.own
        rw [← own] at isStep ⊢
        exact ⟨depth, step, member, fits, isStep, .inl ⟨earlier, _, rfl, own ▸ execution.toBracket⟩⟩
    | warns => cases isItem

/-- In its report a run tells what it has told until then, and its last event is its outcome. -/
theorem reportTells {script : Script} {startedAt : Time.Timestamp} {after final : Session device}
    {found : RunReport} {runId : String} {news : List RunNews}
    (reported : report place script startedAt after found.outcome = (final, found))
    (tells : after.Tells runId news) :
    found.runId = runId ∧ found.trace = news.filterMap RunNews.entry? ∧
      final.events.toList =
        (news ++ [RunNews.runFinished found.outcome]).map (RunEvent.mk runId) := by
  rw [report, Prod.mk.injEq] at reported
  have told := (Session.publishAdds { after with context := after.context.cancel }
    (RunNews.runFinished found.outcome) rfl).tells ⟨tells.own, tells.events, tells.trace⟩
  rw [← reported.1]
  exact ⟨reported.2 ▸ tells.own, reported.2 ▸ tells.trace, told.events⟩

/-- A moment of a run that has a report agrees with the report. -/
theorem momentReported {script : Script} {context : RunContext} {bindings : Bindings}
    {state : device} {final : Session device} {found : RunReport} {moment : Moment device}
    (ended : run place script (Session.start context bindings state) = (final, some found))
    (leads : Leads place (.start script (Session.start context bindings state)) moment) :
    moment.halt ≠ some .brokeDown ∧
      (moment.halt ≠ none → outcome? moment.halt = some found.outcome) ∧
      ∃ later, found.trace = moment.session.trace.toList ++ later := by
  obtain ⟨after, halt, leadsEnd, isOutcome, reported⟩ := runEnded script _ final found ended
  have onwards := leads.reaches leadsEnd
  have works : moment.halt ≠ some .brokeDown := fun broken =>
    worksOfOutcome isOutcome (Leads.halted onwards broken)
  refine ⟨works, fun halted => ?_, ?_⟩
  · obtain ⟨reason, isReason⟩ := Option.ne_none_iff_exists'.mp halted
    have same : halt = some reason := Leads.halted onwards isReason
    rw [isReason, ← same]
    exact isOutcome
  · obtain ⟨-, news, tells, -⟩ :=
      (narratedStart place script context bindings state).along leads works
    obtain ⟨more, adds⟩ := Leads.adds onwards (worksOfOutcome isOutcome)
    obtain ⟨-, trace, -⟩ := reportTells reported (adds.tells tells)
    rw [List.filterMap_append, ← tells.trace] at trace
    exact ⟨_, trace⟩

/--
The events of a run are about its steps, in brackets, and at last about its outcome. The entries
among them, in their order, are the trace of the report.
-/
theorem runNarrated (place : Workplace device) (script : Script) (context : RunContext)
    (bindings : Bindings) (state : device) (final : Session device) (found : RunReport)
    (ended : run place script (Session.start context bindings state) = (final, some found)) :
    ∃ news, final.events.toList =
        (news ++ [.runFinished found.outcome]).map (RunEvent.mk found.runId) ∧
      news.filterMap RunNews.entry? = found.trace ∧
      Narration place.config.maxDepth.toNat script news := by
  obtain ⟨after, halt, leads, isOutcome, reported⟩ := runEnded script _ final found ended
  have narrated := (narratedStart place script context bindings state).along leads
    (worksOfOutcome isOutcome)
  obtain ⟨news, tells, told⟩ := narrated.told
  obtain ⟨sameRun, trace, events⟩ := reportTells reported tells
  cases told with
  | top nested => exact ⟨news, sameRun ▸ events, trace.symm, narrationOfNested nested⟩

theorem runNarratedWaitTwice :
    ∃ final found, run .idle waitTwice (Session.start (.start "run" none 0) .empty ()) =
        (final, some found) ∧
      ∃ news, final.events.toList =
          (news ++ [.runFinished found.outcome]).map (RunEvent.mk found.runId) ∧
        news.filterMap RunNews.entry? = found.trace ∧
        Narration EngineConfig.standard.maxDepth.toNat waitTwice news := by
  have ended : ((run .idle waitTwice (Session.start (.start "run" none 0) .empty ())).2.any
      fun _ => true) = true := by decide +kernel
  obtain ⟨final, found, isRun, -⟩ := reportFound ended
  exact ⟨final, found, isRun, runNarrated .idle waitTwice _ _ _ final found isRun⟩

end Interpreter

end DeskScript
