/-
This file shows that steps of all kinds keep sessions alike, so that a run depends on the variables
that its script refers to only.
-/

import DeskScript.Proofs.Run.Frame
import DeskScript.Proofs.Run.Requests
import DeskScript.Run.Interpreter

namespace DeskScript

variable {device : Type}

/-! ### Actions -/

/-- Two runs of an action are alike when they have the same notes and end in the same way. -/
structure ActionRun.Alike (names : List String) (first second : ActionRun device) : Prop where
  session : Session.Alike names first.session second.session
  notes : first.notes = second.notes
  ending : first.ending = second.ending
  named : first.notes.Named names

theorem ActionRun.Alike.parts {names : List String} {first second : ActionRun device}
    (alike : ActionRun.Alike names first second) :
    ∃ firstAfter secondAfter notes ending, first = ⟨firstAfter, notes, ending⟩ ∧
      second = ⟨secondAfter, notes, ending⟩ ∧ Session.Alike names firstAfter secondAfter ∧
      notes.Named names :=
  ⟨first.session, second.session, first.notes, first.ending, rfl,
    by rw [alike.notes, alike.ending], alike.session, alike.named⟩

namespace Leaf

variable {names : List String} {first second : Session device}

theorem inputAlike (alike : Session.Alike names first second) (place : Workplace device)
    (notes : StepNotes) (named : notes.Named names) (action : InputAction) :
    ActionRun.Alike names (input place first notes action) (input place second notes action) := by
  obtain ⟨firstAfter, secondAfter, answer, isFirst, isSecond, used⟩ :=
    (alike.input place action).parts
  rw [input, input, isFirst, isSecond]
  cases answer <;> exact ⟨used, rfl, rfl, named⟩

/-- Both runs look at the screen in the same rhythm and see the same. -/
theorem pollAlike (alike : Session.Alike names first second) (place : Workplace device)
    (wait : Wait) (rounds attempts : Nat) :
    EndAlike names (poll place wait rounds attempts first)
      (poll place wait rounds attempts second) := by
  induction rounds generalizing attempts first second with
  | zero => exact ⟨alike, rfl⟩
  | succ rounds inductionHypothesis =>
      obtain ⟨firstAfter, secondAfter, answer, isFirst, isSecond, looked⟩ :=
        (alike.look place wait.look).parts
      rw [poll, poll, alike.context, isFirst, isSecond]
      split
      · exact ⟨alike, rfl⟩
      · obtain reason | found | _ | unavailable | _ := answer
        · exact ⟨looked, by simp only [looked.abort reason wait.stepId]⟩
        · exact ⟨looked, rfl⟩
        · simp only
          rw [looked.context]
          split
          · exact ⟨looked, rfl⟩
          · generalize min place.config.pollWait
              (wait.timeout - (secondAfter.context.now - wait.startedAt)) = duration
            obtain ⟨firstLater, secondLater, reason, isFirst, isSecond, slept⟩ :=
              (looked.sleep duration).parts
            rw [isFirst, isSecond]
            cases reason with
            | none => exact inductionHypothesis slept (attempts + 1)
            | some reason => exact ⟨slept, by simp only [slept.abort reason wait.stepId]⟩
        · exact ⟨looked, rfl⟩
        · exact ⟨looked, rfl⟩

theorem clearOutputsAlike (alike : Session.Alike names first second) (output : Option String) :
    Session.Alike names (clearOutputs first output) (clearOutputs second output) := by
  cases output with
  | none => exact alike
  | some output =>
      exact ((alike.unbind output).unbind (outputX output)).unbind (outputY output)

theorem bindAllAlike (alike : Session.Alike names first second) (named : List (String × String)) :
    Session.Alike names (named.foldl (fun session (name, value) => session.bind name value) first)
      (named.foldl (fun session (name, value) => session.bind name value) second) := by
  induction named generalizing first second with
  | nil => exact alike
  | cons head rest inductionHypothesis => exact inductionHypothesis (alike.bind head.1 head.2)

theorem useMatchAlike (alike : Session.Alike names first second) (place : Workplace device)
    (notes : StepNotes) (named : notes.Named names) (sensing : Sensing) (found : Match Float) :
    ActionRun.Alike names (useMatch place first notes sensing found)
      (useMatch place second notes sensing found) := by
  have bound := bindAllAlike alike (matchBindings found sensing.output)
  rw [useMatch, useMatch]
  cases sensing.click with
  | none => exact ⟨bound, rfl, rfl, named⟩
  | some click =>
      simp only
      split
      · exact inputAlike bound place { notes with matchedText := some found.label } named _
      · exact ⟨bound, rfl, rfl, named⟩

theorem senseAlike (alike : Session.Alike names first second) (place : Workplace device)
    (stepId : String) (notes : StepNotes) (named : notes.Named names) (target : Target)
    (sensing : Sensing) :
    ActionRun.Alike names (sense place stepId first notes target sensing)
      (sense place stepId second notes target sensing) := by
  have cleared := clearOutputsAlike alike sensing.output
  rw [sense, sense, cleared.context]
  obtain ⟨firstAfter, secondAfter, ending, isFirst, isSecond, polled⟩ :=
    (pollAlike cleared place ⟨stepId, ⟨target, sensing.region, sensing.threshold⟩,
      sensing.timeout.toNat, (clearOutputs second sensing.output).context.now⟩
      (sensing.timeout.toNat + 1) 0).parts
  rw [isFirst, isSecond]
  cases ending with
  | found found => exact useMatchAlike polled place notes named sensing found
  | failed failure => exact ⟨polled, rfl, rfl, named⟩
  | brokeDown => exact ⟨polled, rfl, rfl, named⟩

/-- What both runs ask for is done in both with the same effects. -/
theorem performAlike (alike : Session.Alike names first second) (place : Workplace device)
    (stepId : String) (asked : Except StepFailure Request × StepNotes)
    (named : asked.2.Named names) :
    ActionRun.Alike names (perform place stepId first asked) (perform place stepId second asked) := by
  obtain ⟨failure | asked, notes⟩ := asked
  · exact ⟨alike, rfl, rfl, named⟩
  cases asked with
  | input action => exact inputAlike alike place notes named action
  | pause duration =>
      obtain ⟨firstAfter, secondAfter, reason, isFirst, isSecond, slept⟩ :=
        (alike.sleep duration).parts
      rw [perform, perform, isFirst, isSecond]
      cases reason with
      | none => exact ⟨slept, rfl, rfl, named⟩
      | some reason => exact ⟨slept, rfl, by simp only [slept.abort reason stepId], named⟩
  | search target sensing => exact senseAlike alike place stepId notes named target sensing

/-- An action that mentions names on which both runs agree has the same effects in both. -/
theorem actAlike (alike : Session.Alike names first second) (place : Workplace device)
    (header : StepHeader) (action : Action)
    (mentions : (Step.leaf header action).Mentions names) :
    ActionRun.Alike names (act place header.id first action) (act place header.id second action) := by
  obtain ⟨same, named⟩ := requestAgree mentions alike.bindings
  rw [actPerforms, actPerforms, ← same]
  exact performAlike alike place header.id _ named

/-! ### Attempts -/

theorem succeedAlike (alike : Session.Alike names first second) (place : Workplace device)
    (step : Step) (depth : Nat) (startedAt : Time.Timestamp) (notes : StepNotes)
    (named : notes.Named names) (attempt : Nat) :
    EndAlike names (succeed place step depth startedAt first notes attempt)
      (succeed place step depth startedAt second notes attempt) := by
  have recorded := alike.record place step depth .success notes none (UInt32.ofNat attempt)
    startedAt named
  obtain ⟨firstAfter, secondAfter, reason, isFirst, isSecond, slept⟩ :=
    (recorded.sleep place.config.stepDelay.toNat).parts
  rw [succeed, succeed]
  simp only [isFirst, isSecond]
  cases reason with
  | none => exact ⟨slept, rfl⟩
  | some reason => exact ⟨slept, by simp only [Flow.halt, slept.abort reason step.id]⟩

theorem failAlike (alike : Session.Alike names first second) (place : Workplace device)
    (step : Step) (depth : Nat) (startedAt : Time.Timestamp) (notes : StepNotes)
    (named : notes.Named names) (failure : StepFailure) (attempt : Nat) :
    EndAlike names (fail place step depth startedAt first notes failure attempt)
      (fail place step depth startedAt second notes failure attempt) := by
  have recorded := alike.record place step depth failure.outcome notes (some failure.message)
    (UInt32.ofNat attempt) startedAt named
  rw [fail, fail]
  split
  · exact ⟨recorded, rfl⟩
  · exact ⟨recorded, rfl⟩

/-- This is one attempt, after which the further attempts may follow. -/
theorem attemptAlikeOnce (alike : Session.Alike names first second) (place : Workplace device)
    (header : StepHeader) (action : Action) (depth : Nat) (startedAt : Time.Timestamp)
    (left number : Nat) (mentions : (Step.leaf header action).Mentions names)
    (again : ∀ fewer, left = fewer + 1 → ∀ firstLater secondLater : Session device,
      Session.Alike names firstLater secondLater →
      EndAlike names
        (attempt place (.leaf header action) action depth startedAt fewer (number + 1) firstLater)
        (attempt place (.leaf header action) action depth startedAt fewer (number + 1)
          secondLater)) :
    EndAlike names (attempt place (.leaf header action) action depth startedAt left number first)
      (attempt place (.leaf header action) action depth startedAt left number second) := by
  obtain ⟨firstAfter, secondAfter, notes, ending, isFirst, isSecond, acted, named⟩ :=
    (actAlike alike place header action mentions).parts
  have sameId : (Step.leaf header action).id = header.id := rfl
  rw [attempt, attempt, sameId, isFirst, isSecond]
  cases ending with
  | done => exact succeedAlike acted place _ depth startedAt notes named number
  | brokeDown => exact ⟨acted, rfl⟩
  | failed failure =>
      cases failure with
      | aborted abort => exact ⟨acted.record place _ depth .aborted notes none _ startedAt named, rfl⟩
      | _ =>
          cases left with
          | zero => exact failAlike acted place _ depth startedAt notes named _ number
          | succ fewer =>
              simp only
              split
              · exact again fewer rfl firstAfter secondAfter acted
              · exact failAlike acted place _ depth startedAt notes named _ number

theorem attemptAlike (alike : Session.Alike names first second) (place : Workplace device)
    (header : StepHeader) (action : Action) (depth : Nat) (startedAt : Time.Timestamp)
    (left number : Nat) (mentions : (Step.leaf header action).Mentions names) :
    EndAlike names (attempt place (.leaf header action) action depth startedAt left number first)
      (attempt place (.leaf header action) action depth startedAt left number second) := by
  induction left generalizing number first second with
  | zero =>
      exact attemptAlikeOnce alike place header action depth startedAt 0 number mentions
        fun _ equal => absurd equal (Nat.succ_ne_zero _).symm
  | succ left inductionHypothesis =>
      refine attemptAlikeOnce alike place header action depth startedAt (left + 1) number mentions ?_
      intro fewer equal firstLater secondLater later
      rw [← Nat.succ.inj equal]
      exact inductionHypothesis later (number + 1)

end Leaf

/-! ### Loops -/

/-- Sessions that are alike stay alike while a part of a run goes on. -/
def KeepsAlike (names : List String) (run : Session device → Flow device) : Prop :=
  ∀ first second, Session.Alike names first second → EndAlike names (run first) (run second)

theorem KeepsAlike.andThen {names : List String} {first second : Flow device}
    {next : Session device → Flow device} (alike : EndAlike names first second)
    (keeps : KeepsAlike names next) :
    EndAlike names (first.andThen next) (second.andThen next) := by
  obtain ⟨firstAfter, secondAfter, halt, rfl, rfl, after⟩ := alike.parts
  cases halt with
  | none => exact keeps firstAfter secondAfter after
  | some reason => exact ⟨after, rfl⟩

namespace Interpreter

variable {names : List String}

/-- Two runs of a loop are alike when they count the same and end in the same way. -/
structure LoopRun.Alike (names : List String) (first second : LoopRun device) : Prop where
  session : Session.Alike names first.session second.session
  iterations : first.iterations = second.iterations
  limited : first.limited = second.limited
  notes : first.notes = second.notes
  halt : first.halt = second.halt
  named : first.notes.Named names

theorem iterateAlike (stepId : String) (rule : LoopRule) (body : Session device → Flow device)
    (keeps : KeepsAlike names body) (iteration : Nat) :
    KeepsAlike names (iterate stepId rule body iteration) := by
  intro first second alike
  refine KeepsAlike.andThen (alike.checkpoint stepId) fun firstAfter secondAfter after => ?_
  cases rule.indexVariable with
  | none => exact keeps firstAfter secondAfter after
  | some index => exact keeps _ _ (after.bind index (toString iteration))

theorem countUpAlike (stepId : String) (rule : LoopRule) (body : Session device → Flow device)
    (keeps : KeepsAlike names body) (left iterations : Nat) (first second : Session device)
    (alike : Session.Alike names first second) :
    LoopRun.Alike names (countUp stepId rule body left iterations first)
      (countUp stepId rule body left iterations second) := by
  induction left generalizing iterations first second with
  | zero => exact ⟨alike, rfl, rfl, rfl, rfl, StepNotes.emptyNamed⟩
  | succ left inductionHypothesis =>
      obtain ⟨firstAfter, secondAfter, halt, isFirst, isSecond, iterated⟩ :=
        (iterateAlike stepId rule body keeps (iterations + 1) first second alike).parts
      rw [countUp, countUp, isFirst, isSecond]
      cases halt with
      | none => exact inductionHypothesis (iterations + 1) firstAfter secondAfter iterated
      | some reason => exact ⟨iterated, rfl, rfl, rfl, rfl, StepNotes.emptyNamed⟩

theorem conditionNamed (condition : Condition)
    (mentions : ∀ template ∈ Step.conditionTemplates condition, Template.Mentions names template)
    (bindings : Bindings) (notes : StepNotes) (named : notes.Named names) :
    StepNotes.Named names { notes with
      unresolved := Template.addNames notes.unresolved
        (condition.evaluate bindings).unresolved } := by
  intro name inside
  rcases (Template.memAddNames _ _ _).mp inside with old | new
  · exact named name old
  · exact Condition.unresolvedMentioned mentions bindings name new

/-- Both runs decide the condition of a loop in the same way, and so repeat it equally often. -/
theorem repeatWhileAlike (stepId : String) (rule : LoopRule) (condition : Condition)
    (body : Session device → Flow device) (keeps : KeepsAlike names body)
    (mentions : ∀ template ∈ Step.conditionTemplates condition, Template.Mentions names template)
    (left iterations : Nat) (notes : StepNotes) (named : notes.Named names)
    (first second : Session device) (alike : Session.Alike names first second) :
    LoopRun.Alike names (repeatWhile stepId rule condition body left iterations notes first)
      (repeatWhile stepId rule condition body left iterations notes second) := by
  induction left generalizing iterations notes first second with
  | zero =>
      have noted := conditionNamed condition mentions second.bindings notes named
      rw [repeatWhile, repeatWhile, alike.context, Condition.evaluateAgree mentions alike.bindings]
      split
      · exact ⟨alike, rfl, rfl, rfl, rfl, named⟩
      · simp only
        split
        · exact ⟨alike, rfl, rfl, rfl, rfl, noted⟩
        · exact ⟨alike.warn _, rfl, rfl, rfl, rfl, noted⟩
  | succ left inductionHypothesis =>
      have noted := conditionNamed condition mentions second.bindings notes named
      rw [repeatWhile, repeatWhile, alike.context, Condition.evaluateAgree mentions alike.bindings]
      split
      · exact ⟨alike, rfl, rfl, rfl, rfl, named⟩
      · simp only
        split
        · exact ⟨alike, rfl, rfl, rfl, rfl, noted⟩
        · obtain ⟨firstAfter, secondAfter, halt, isFirst, isSecond, iterated⟩ :=
            (iterateAlike stepId rule body keeps (iterations + 1) first second alike).parts
          rw [isFirst, isSecond]
          cases halt with
          | none =>
              exact inductionHypothesis (iterations + 1) _ noted firstAfter secondAfter iterated
          | some reason => exact ⟨iterated, rfl, rfl, rfl, rfl, noted⟩

theorem runLoopAlike (header : StepHeader) (rule : LoopRule) (steps : List Step)
    (body : Session device → Flow device) (keeps : KeepsAlike names body)
    (mentions : (Step.loop header rule steps).Mentions names) (first second : Session device)
    (alike : Session.Alike names first second) :
    LoopRun.Alike names (runLoop header.id rule body first)
      (runLoop header.id rule body second) := by
  rw [Step.Mentions, Step.templates] at mentions
  rw [runLoop, runLoop]
  cases isMode : rule.mode with
  | count times => exact countUpAlike header.id rule body keeps times.toNat 0 first second alike
  | while_ condition =>
      simp only [isMode] at mentions
      exact repeatWhileAlike header.id rule condition body keeps mentions rule.limit.toNat 0 .empty
        StepNotes.emptyNamed first second alike

theorem endLoopAlike (place : Workplace device) (step : Step) (depth : Nat)
    (startedAt : Time.Timestamp) (first second : LoopRun device)
    (alike : LoopRun.Alike names first second) :
    EndAlike names (endLoop place step depth startedAt first)
      (endLoop place step depth startedAt second) := by
  have record (outcome : StepOutcome) (error : Option String) :=
    alike.session.record place step depth outcome first.notes error
      (UInt32.ofNat first.iterations) startedAt alike.named
  rw [endLoop, endLoop, ← alike.iterations, ← alike.notes, ← alike.halt, ← alike.limited]
  split
  · exact ⟨record _ none, rfl⟩
  · exact ⟨record _ none, rfl⟩
  · exact ⟨record _ _, rfl⟩
  · exact ⟨alike.session, rfl⟩

/-! ### Steps -/

theorem enterAlike (place : Workplace device) (step : Step) (depth : Nat)
    (run : Time.Timestamp → Session device → Flow device)
    (keeps : ∀ startedAt, KeepsAlike names (run startedAt)) :
    KeepsAlike names fun session => enter place step depth session run := by
  intro first second alike
  simp only [enter, alike.time place]
  split
  · exact ⟨alike, rfl⟩
  · split
    · exact ⟨alike.record place step depth .skip .empty none 0 _ StepNotes.emptyNamed, rfl⟩
    · exact keeps _ _ _ (alike.publish _ _ rfl)

mutual

/-- A step that mentions names on which both runs agree has the same effects in both. -/
theorem runStepAlike (place : Workplace device) (depth : Nat) : ∀ step : Step,
    (∀ inner ∈ Step.forest [step], inner.Mentions names) →
      KeepsAlike names (runStep place depth step)
  | .leaf header action, mentions => by
      intro first second alike
      rw [runStep, runStep]
      have own := mentions _ (List.mem_singleton_self _)
      exact enterAlike place (.leaf header action) depth _ (fun startedAt firstLater secondLater
        later => Leaf.attemptAlike later place header action depth startedAt _ 1 own)
        first second alike
  | .branch header condition whenTrue whenFalse, mentions => by
      intro first second alike
      rw [runStep, runStep]
      rw [Step.forestBranch, List.forall_mem_cons, List.forall_mem_append] at mentions
      obtain ⟨own, ofTrue, ofFalse⟩ := mentions
      refine enterAlike place (.branch header condition whenTrue whenFalse) depth _ ?_ first second
        alike
      intro startedAt firstLater secondLater later
      have named := Condition.unresolvedMentioned own secondLater.bindings
      have decided := Condition.evaluateAgree own later.bindings
      simp only [decided]
      generalize condition.evaluate secondLater.bindings = evaluation at named ⊢
      have recorded := later.record place (.branch header condition whenTrue whenFalse) depth
        (.branch (if evaluation.result then .whenTrue else .whenFalse))
        ⟨evaluation.unresolved, none⟩ none 1 startedAt named
      split
      · exact runAllAlike place (depth + 1) whenTrue ofTrue _ _ recorded
      · exact runAllAlike place (depth + 1) whenFalse ofFalse _ _ recorded
  | .loop header rule body, mentions => by
      intro first second alike
      rw [runStep, runStep]
      rw [Step.forestLoop, List.forall_mem_cons] at mentions
      exact enterAlike place (.loop header rule body) depth _ (fun startedAt firstLater secondLater
        later => endLoopAlike place (.loop header rule body) depth startedAt _ _
          (runLoopAlike header rule body _ (runAllAlike place (depth + 1) body mentions.2)
            mentions.1 firstLater secondLater later)) first second alike

theorem runAllAlike (place : Workplace device) (depth : Nat) : ∀ steps : List Step,
    (∀ inner ∈ Step.forest steps, inner.Mentions names) →
      KeepsAlike names (runAll place depth steps)
  | [], _ => by
      intro first second alike
      rw [runAll, runAll]
      exact ⟨alike, rfl⟩
  | step :: rest, mentions => by
      intro first second alike
      rw [Step.forestCons, List.forall_mem_append] at mentions
      rw [runAll, runAll]
      refine KeepsAlike.andThen (alike.checkpoint step.id) fun firstNow secondNow now => ?_
      refine KeepsAlike.andThen (runStepAlike place depth step mentions.1 firstNow secondNow now)
        fun firstNow secondNow now => ?_
      exact KeepsAlike.andThen (now.checkpoint step.id)
        (runAllAlike place depth rest mentions.2)

end

end Interpreter

/-! ### Runs -/

/-- This is a report without the variables at the end of the run and of its steps. -/
def RunReport.unbound (report : RunReport) : RunReport :=
  { report with trace := report.trace.map TraceEntry.unbound, bindings := .empty }

namespace Interpreter

/-- A run reports nothing but names that the script refers to as unresolved. -/
def ReportsNamed (names : List String) (report : RunReport) : Prop :=
  ∀ entry ∈ report.trace, ∀ name ∈ entry.unresolved, name ∈ names

theorem startAlike (names : List String) (context : RunContext) (first second : Bindings)
    (state : device) (agree : Bindings.Agree names first second) :
    Session.Alike names (Session.start context first state)
      (Session.start context second state) where
  context := rfl
  device := rfl
  calls := rfl
  warnings := rfl
  trace := rfl
  events := rfl
  bindings := agree
  named _ inside := absurd inside (Array.not_mem_empty _)

theorem reportAlike {names : List String} (place : Workplace device) (script : Script)
    (startedAt : Time.Timestamp) (outcome : RunOutcome) (first second : Session device)
    (alike : Session.Alike names first second) :
    (report place script startedAt first outcome).2.unbound =
      (report place script startedAt second outcome).2.unbound := by
  have trace : first.trace.toList.map TraceEntry.unbound =
      second.trace.toList.map TraceEntry.unbound := by
    rw [← Array.toList_map, ← Array.toList_map, alike.trace]
  have cancelled := alike.withContext second.context.cancel
  have time := (cancelled.publish (.runFinished outcome) (.runFinished outcome) rfl).time place
  rw [report, report, alike.context]
  simp only [RunReport.unbound, RunReport.mk.injEq, true_and]
  exact ⟨rfl, trace, congrArg Array.toList alike.warnings, time⟩

/-- Two runs that start alike use their devices alike and make reports that are alike. -/
theorem runAlike (place : Workplace device) (script : Script) (first second : Session device)
    (alike : Session.Alike script.referencedVariables first second) :
    (run place script first).1.calls = (run place script second).1.calls ∧
      (run place script first).2.map RunReport.unbound =
        (run place script second).2.map RunReport.unbound ∧
      ∀ report, (run place script first).2 = some report →
        ReportsNamed script.referencedVariables report := by
  have armed := alike.withContext second.context.arm
  obtain ⟨firstAfter, secondAfter, halt, isFirst, isSecond, after⟩ :=
    (runAllAlike place 0 script.steps script.mentionsReferenced _ _ armed).parts
  rw [run, run, alike.context, alike.time place, isFirst, isSecond]
  cases isOutcome : outcome? halt with
  | none =>
      simp only [isOutcome]
      exact ⟨after.calls, trivial, fun _ reported => nomatch reported⟩
  | some outcome =>
      simp only [isOutcome]
      refine ⟨after.calls, ?_, ?_⟩
      · exact congrArg some (reportAlike place script _ outcome firstAfter secondAfter after)
      · intro report reported entry inside
        rw [← Option.some.inj reported] at inside
        exact after.named entry (Array.mem_toList_iff.mp inside)

/--
Variables that a script does not refer to have no influence on a run. Where two bindings agree on
the names that the script refers to, both runs call the devices in the same way and at the same
times, and their reports differ in the values of variables only. No run reports another name than
these as unresolved.
-/
theorem runIndependent (place : Workplace device) (script : Script) (context : RunContext)
    (state : device) (first second : Bindings)
    (agree : Bindings.Agree script.referencedVariables first second) :
    (run place script (Session.start context first state)).1.calls =
        (run place script (Session.start context second state)).1.calls ∧
      (run place script (Session.start context first state)).2.map RunReport.unbound =
        (run place script (Session.start context second state)).2.map RunReport.unbound ∧
      ∀ report, (run place script (Session.start context first state)).2 = some report ∨
          (run place script (Session.start context second state)).2 = some report →
        ReportsNamed script.referencedVariables report := by
  have forward := runAlike place script _ _
    (startAlike script.referencedVariables context first second state agree)
  have backward := runAlike place script _ _
    (startAlike script.referencedVariables context second first state
      fun name inside => (agree name inside).symm)
  exact ⟨forward.1, forward.2.1, fun report reported =>
    reported.elim (forward.2.2 report) (backward.2.2 report)⟩

/-- This script greets someone. -/
def greet : Script :=
  { Script.new "script" "greet" .epoch with
    steps := [Step.newType "greeting" "Hello, $\x7bname\x7d!"] }

theorem greetReferencedVariables : greet.referencedVariables = ["name"] := by decide +kernel

/-- These bindings differ in a variable that nothing refers to. -/
def greetBindings (other : String) : Bindings := (Table.empty.put "name" "Ann").put "other" other

theorem runIndependentGreet :
    (run .idle greet (Session.start (.start "run" none 0) (greetBindings "1") ())).1.calls =
        (run .idle greet (Session.start (.start "run" none 0) (greetBindings "2") ())).1.calls ∧
      (run .idle greet
          (Session.start (.start "run" none 0) (greetBindings "1") ())).2.map RunReport.unbound =
        (run .idle greet
          (Session.start (.start "run" none 0) (greetBindings "2") ())).2.map RunReport.unbound := by
  have agree : Bindings.Agree greet.referencedVariables (greetBindings "1") (greetBindings "2") := by
    intro name inside
    rw [greetReferencedVariables] at inside
    rw [List.mem_singleton.mp inside]
    decide
  obtain ⟨calls, reports, -⟩ :=
    runIndependent .idle greet (.start "run" none 0) () (greetBindings "1") (greetBindings "2") agree
  exact ⟨calls, reports⟩

end Interpreter

end DeskScript
