/-
This file shows that a run warns of the loops that are recorded as ended by their limits, in this
order, and that the limit of a loop ends it where its condition still holds after all iterations.
-/

import DeskScript.Proofs.Run.Iterations

namespace DeskScript

variable {device : Type} {place : Workplace device}

/-- The entry of a loop that was ended by its limit says what a warning says. -/
def TraceEntry.limitWarning? (entry : TraceEntry) : Option LoopWarning :=
  match entry.outcome with
  | .loop iterations true => some ⟨entry.stepId, iterations⟩
  | _ => none

theorem TraceEntry.noWarning {entry : TraceEntry}
    (noLoop : ∀ iterations limited, entry.outcome ≠ .loop iterations limited) :
    entry.limitWarning? = none := by
  rw [limitWarning?]
  split
  · rename_i iterations isLoop
    exact absurd isLoop (noLoop iterations true)
  · rfl

namespace Leaf

/-- No warning is given by an action. -/
theorem actionWarnings (place : Workplace device) (names : List String) :
    ActionKeeps place names fun before after => after.warnings = before.warnings where
  refl _ := rfl
  trans first second := second.trans first
  look session look := (session.lookKeeps place look).2
  sleep _ _ := rfl
  input _ _ := rfl
  bind _ _ _ _ := rfl
  unbind _ _ _ := rfl

/-- A leaf step is never recorded like a loop. -/
theorem Ending.noLoop {config : EngineConfig} {step : Step} {ending : ActionEnd}
    {outcome : StepOutcome} {error : Option String} {halt : Option Halt}
    (ends : Ending config step ending outcome error halt) (iterations : UInt32) (limited : Bool) :
    outcome ≠ .loop iterations limited := by
  rcases ends.outcomes with rfl | rfl | rfl | rfl <;> exact nofun

end Leaf

namespace Interpreter

theorem LeafExecution.warnings {session after : Session device} {depth last : Nat}
    {header : StepHeader} {action : Action} {entry : TraceEntry} {halt : Option Halt}
    (executed : LeafExecution place session depth header action last entry after halt) :
    after.warnings = session.warnings := by
  rw [executed.recorded]
  exact Leaf.furtherAttemptKeeps (Leaf.actionWarnings place _) header.id last
    (startStep depth (.leaf header action) session)

namespace LoopStart

variable {start : Moment device} {loop : LoopStart place start}

/-! ### Limits of loops -/

/-- After the greatest number of iterations the condition of a loop still holds. -/
def Outlasts (loop : LoopStart place start) : Prop :=
  ∃ condition after, loop.rule.mode = .while_ condition ∧
    loop.Iterated loop.rule.limit.toNat after ∧ (condition.evaluate after.bindings).result = true

/-- A loop that ends by itself is ended by its limit if its condition still holds then. -/
theorem Ends.limitedIff {run : LoopRun device} (ends : loop.Ends run) (done : run.halt = none) :
    run.limited = true ↔ loop.Outlasts := by
  cases ends with
  | counted isMode =>
      refine ⟨nofun, fun ⟨condition, after, isWhile, _⟩ => ?_⟩
      rw [isMode] at isWhile
      cases isWhile
  | @refused condition count session notes iterated answers =>
      refine ⟨nofun, fun ⟨other, after, isMode, reached, holds⟩ => ?_⟩
      obtain rfl := LoopMode.while_.inj (answers.repeats.symm.trans isMode)
      have bound := iterated.bounded
      rw [allowedWhile isMode] at bound
      obtain before | all := Nat.lt_or_eq_of_le bound
      · cases reached.wentOn before iterated with
        | counts isCount => cases isCount.symm.trans isMode
        | holds others =>
            obtain rfl := LoopMode.while_.inj (others.repeats.symm.trans isMode)
            exact answers.decided.symm.trans others.decided
      · subst all
        rw [reached.unique iterated, answers.decided] at holds
        exact holds
  | limited iterated answers =>
      exact ⟨fun _ => ⟨_, _, answers.repeats, iterated, answers.decided⟩, fun _ => rfl⟩
  | stopped => cases done
  | halted => cases done

/-- A limit ends a loop after as many iterations, and only then there is a warning. -/
theorem Ends.limit {run : LoopRun device} (ends : loop.Ends run) :
    run.limited = true → run.halt = none ∧ run.iterations = loop.rule.limit.toNat := by
  cases ends with
  | limited => exact fun _ => ⟨rfl, rfl⟩
  | _ => exact nofun

/-- This is what the entry of a loop tells about its limit. -/
structure LimitTold (loop : LoopStart place start) (iterations : UInt32) (limited : Bool) :
    Prop where
  outlasts : limited = true ↔ loop.Outlasts
  all : limited = true → iterations = loop.rule.limit
  counted : ∀ times, loop.rule.mode = .count times → limited = false

/-- The run of a loop is recorded with an entry after the entries of the steps in it. -/
structure Recorded (loop : LoopStart place start) (earlier : List TraceEntry) (entry : TraceEntry) :
    Prop where
  own : entry.started = .ofStep loop.depth loop.step
  trace : earlier = loop.run.session.trace.toList
  outcome : ∀ iterations limited, entry.outcome = .loop iterations limited ↔
    loop.run.halt = none ∧ iterations = .ofNat loop.run.iterations ∧ limited = loop.run.limited

theorem Recorded.told {earlier : List TraceEntry} {entry : TraceEntry} {iterations : UInt32}
    {limited : Bool} (recorded : loop.Recorded earlier entry)
    (isLoop : entry.outcome = .loop iterations limited) : loop.LimitTold iterations limited := by
  obtain ⟨done, isCount, isLimited⟩ := (recorded.outcome iterations limited).mp isLoop
  have outlasts : limited = true ↔ loop.Outlasts := isLimited ▸ loop.ends.limitedIff done
  refine ⟨outlasts, fun ended => ?_, fun times isMode => ?_⟩
  · rw [isCount, (loop.ends.limit (isLimited.symm.trans ended)).2, UInt32.ofNat_toNat]
  · refine Bool.eq_false_iff.mpr fun ended => ?_
    obtain ⟨condition, after, isWhile, -⟩ := outlasts.mp ended
    cases isMode.symm.trans isWhile

/-- This is where the run of a loop comes with its entry. -/
def ending (loop : LoopStart place start) : Flow device :=
  endLoop place loop.step loop.depth (loop.session.time place) loop.run

theorem runs (loop : LoopStart place start) :
    runStep place loop.depth loop.step loop.session = loop.ending := by
  have enabled : (Step.loop loop.header loop.rule loop.body).header.enabled = true :=
    loop.begins.enabled
  rw [step, runStep, enter, if_neg (Nat.not_le.mpr loop.begins.fits)]
  simp only [enabled, Bool.not_true, Bool.false_eq_true, if_false]
  rfl

theorem recorded (loop : LoopStart place start) (works : loop.ending.2 ≠ some .brokeDown) :
    ∃ entry, loop.Recorded loop.run.session.trace.toList entry ∧
      loop.ending.1.trace = loop.run.session.trace.push entry ∧
      loop.ending.1.warnings = loop.run.session.warnings := by
  rw [ending, endLoopHalt] at works
  obtain ⟨outcome, error, ends, records⟩ := closeRecords place
    (loop.opened 0 loop.run.iterations loop.run.notes) loop.run.session loop.run.limited
    loop.run.halt works
  have closes : loop.ending.1 = loop.run.session.record place loop.step loop.depth outcome
    loop.run.notes error (UInt32.ofNat loop.run.iterations) (loop.session.time place) := records
  rw [closes]
  refine ⟨loop.run.session.entry place loop.step loop.depth outcome loop.run.notes error
    (UInt32.ofNat loop.run.iterations) (loop.session.time place),
    ⟨rfl, rfl, fun _ _ => ?_⟩, rfl, rfl⟩
  rw [Session.entry]
  generalize loop.run.halt = halt at ends
  cases ends with
  | done => simp [opened, eq_comm]
  | _ => simp

end LoopStart

/-! ### What a run accounts for -/

/-- Until now the warnings are those of the trace, and every entry of a loop comes from a loop. -/
structure Accounted (place : Workplace device) (start : Moment device) (session : Session device) :
    Prop where
  warnings : session.warnings.toList = session.trace.toList.filterMap TraceEntry.limitWarning?
  loops : ∀ earlier entry, earlier ++ [entry] <+: session.trace.toList →
    ∀ iterations limited, entry.outcome = .loop iterations limited →
    ∃ loop : LoopStart place start, loop.Recorded earlier entry

namespace Accounted

variable {start : Moment device} {before after : Session device} {entry : TraceEntry}

theorem unchanged (accounted : Accounted place start before) (trace : after.trace = before.trace)
    (warnings : after.warnings = before.warnings) : Accounted place start after := by
  refine ⟨?_, ?_⟩
  · rw [warnings, trace]
    exact accounted.warnings
  · rw [trace]
    exact accounted.loops

theorem push (accounted : Accounted place start before)
    (trace : after.trace = before.trace.push entry)
    (warnings : after.warnings.toList = before.warnings.toList ++ entry.limitWarning?.toList)
    (ofLoop : ∀ iterations limited, entry.outcome = .loop iterations limited →
      ∃ loop : LoopStart place start, loop.Recorded before.trace.toList entry) :
    Accounted place start after := by
  refine ⟨?_, fun earlier other within => ?_⟩
  · rw [warnings, trace, Array.toList_push, List.filterMap_append, ← accounted.warnings,
      List.filterMap_cons, List.filterMap_nil]
    cases entry.limitWarning? <;> rfl
  · rw [trace, Array.toList_push, List.prefix_concat_iff] at within
    obtain last | before := within
    · obtain ⟨rfl, same⟩ := List.append_inj' last rfl
      obtain rfl := List.singleton_inj.mp same
      exact ofLoop
    · exact accounted.loops earlier other before

theorem pushOther (accounted : Accounted place start before)
    (trace : after.trace = before.trace.push entry) (warnings : after.warnings = before.warnings)
    (noLoop : ∀ iterations limited, entry.outcome ≠ .loop iterations limited) :
    Accounted place start after := by
  refine accounted.push trace ?_ fun iterations limited isLoop =>
    absurd isLoop (noLoop iterations limited)
  rw [warnings, TraceEntry.noWarning noLoop]
  exact (List.append_nil _).symm

end Accounted

/-- Steps of the run account for all that they add. -/
def AllAccount (place : Workplace device) (start : Moment device) (depth : Nat)
    (steps : List Step) : Prop :=
  ∀ session tasks, Leads place start ⟨session, none, .steps depth steps :: tasks⟩ →
    (runAll place depth steps session).2 ≠ some .brokeDown → Accounted place start session →
    Accounted place start (runAll place depth steps session).1

namespace LoopStart

variable {start : Moment device} {loop : LoopStart place start}

theorem iterationAccounts (inner : AllAccount place start (loop.depth + 1) loop.body) {count : Nat}
    {session : Session device} (iterated : loop.Iterated count session)
    (isLeft : count < iterationsAllowed loop.rule) (goesOn : loop.GoesOn session)
    (works : (loop.iteration (count + 1) session).2 ≠ some .brokeDown)
    (accounted : Accounted place start session) :
    Accounted place start (loop.iteration (count + 1) session).1 := by
  cases checked : session.context.checkpoint (some loop.header.id) with
  | some abort =>
      rw [iterationStopped checked]
      exact accounted
  | none =>
      obtain ⟨tasks, leads⟩ := bodyLeads iterated isLeft goesOn checked
      have bound : Accounted place start (loop.bound (count + 1) session) := by
        rw [LoopStart.bound]
        cases loop.rule.indexVariable with
        | none => exact accounted
        | some index => exact accounted.unchanged rfl rfl
      rw [iterationPassed checked] at works ⊢
      exact inner _ tasks leads works bound

theorem Iterated.accounted (inner : AllAccount place start (loop.depth + 1) loop.body)
    (first : Accounted place start loop.opening) {count : Nat} {session : Session device}
    (iterated : loop.Iterated count session) : Accounted place start session := by
  induction iterated with
  | zero => exact first
  | next earlier isLeft goesOn executes inductionHypothesis =>
      have accounted := iterationAccounts inner earlier isLeft goesOn
        (by rw [executes]; exact worksOfNone) inductionHypothesis
      rwa [executes] at accounted

/-- Where a loop ends all is accounted for, except that its limit may just have been warned of. -/
theorem Ends.accounted (inner : AllAccount place start (loop.depth + 1) loop.body)
    (first : Accounted place start loop.opening) {run : LoopRun device} (ends : loop.Ends run)
    (works : run.halt ≠ some .brokeDown) :
    ∃ before, Accounted place start before ∧ run.session.trace = before.trace ∧
      run.session.warnings.toList = before.warnings.toList ++
        if run.limited then [⟨loop.header.id, loop.rule.limit⟩] else [] := by
  cases ends with
  | counted isMode iterated => exact ⟨_, iterated.accounted inner first, rfl, by simp⟩
  | refused iterated => exact ⟨_, iterated.accounted inner first, rfl, by simp⟩
  | limited iterated =>
      exact ⟨_, iterated.accounted inner first, rfl, by simp [Session.warn, Session.publish]⟩
  | stopped iterated => exact ⟨_, iterated.accounted inner first, rfl, by simp⟩
  | @halted reason count session after notes iterated isLeft goesOn halts =>
      have accounted := iterationAccounts inner iterated isLeft goesOn (by rw [halts]; exact works)
        (iterated.accounted inner first)
      rw [halts] at accounted
      exact ⟨_, accounted, rfl, by simp⟩

/-- The entry of a loop has a warning if the loop has been ended by its limit. -/
theorem Recorded.warning {earlier : List TraceEntry} {entry : TraceEntry}
    (recorded : loop.Recorded earlier entry) :
    entry.limitWarning?.toList =
      if loop.run.limited then [⟨loop.header.id, loop.rule.limit⟩] else [] := by
  split
  · rename_i limited
    obtain ⟨done, all⟩ := loop.ends.limit limited
    have outcome : entry.outcome = .loop loop.rule.limit true :=
      (recorded.outcome _ _).mpr ⟨done, by rw [all, UInt32.ofNat_toNat], limited.symm⟩
    have own : entry.stepId = loop.header.id := congrArg Started.stepId recorded.own
    rw [TraceEntry.limitWarning?, outcome, own]
    rfl
  · rename_i unlimited
    rw [TraceEntry.limitWarning?]
    split
    · rename_i iterations isLoop
      exact absurd ((recorded.outcome _ _).mp isLoop).2.2.symm unlimited
    · rfl

/-- A loop is accounted for by its entry. If its limit ended it the warning came just before. -/
theorem accounts (inner : AllAccount place start (loop.depth + 1) loop.body)
    (works : loop.ending.2 ≠ some .brokeDown) (accounted : Accounted place start loop.session) :
    Accounted place start loop.ending.1 := by
  have alive : loop.run.halt ≠ some .brokeDown := by rwa [ending, endLoopHalt] at works
  obtain ⟨entry, recorded, trace, warnings⟩ := loop.recorded works
  obtain ⟨before, settled, sameTrace, warned⟩ :=
    loop.ends.accounted inner (accounted.unchanged rfl rfl) alive
  rw [← recorded.warning] at warned
  rw [sameTrace] at trace recorded
  exact settled.push trace (by rw [warnings, warned]) fun _ _ _ => ⟨loop, recorded⟩

end LoopStart

/-! ### Steps -/

section

variable {start : Moment device} {session : Session device} {depth : Nat}

/-- A step that does not begin is accounted for at once. -/
theorem enterAccounts {step : Step} {run : Time.Timestamp → Session device → Flow device}
    (passed : session.context.checkpoint (some step.id) = none)
    (works : (enter place step depth session run).2 ≠ some .brokeDown)
    (accounted : Accounted place start session)
    (runs : Begins place session depth step →
      (run (session.time place) (startStep depth step session)).2 ≠ some .brokeDown →
      Accounted place start (run (session.time place) (startStep depth step session)).1) :
    Accounted place start (enter place step depth session run).1 := by
  rw [enter] at works ⊢
  split
  · exact accounted
  · rename_i shallow
    simp only [if_neg shallow] at works ⊢
    split
    · exact accounted.pushOther rfl rfl nofun
    · rename_i enabled
      rw [if_neg enabled] at works
      exact runs ⟨passed, Nat.lt_of_not_le shallow, by simpa using enabled⟩ works

theorem leafAccounts {header : StepHeader} {action : Action} {startedAt : Time.Timestamp}
    (works : (Leaf.attempt place (.leaf header action) action depth startedAt
      (Leaf.furtherAttempts header) 1 (startStep depth (.leaf header action) session)).2 ≠
        some .brokeDown)
    (accounted : Accounted place start session) :
    Accounted place start (Leaf.attempt place (.leaf header action) action depth startedAt
      (Leaf.furtherAttempts header) 1 (startStep depth (.leaf header action) session)).1 := by
  obtain ⟨last, entry, executed⟩ := leafExecuted place session depth header action works
  exact accounted.pushOther executed.trace executed.warnings executed.ends.noLoop

end

mutual

/-- A step of the run accounts for what it adds if it is reached in the run. -/
theorem stepAccounts (place : Workplace device) (start : Moment device) (depth : Nat) :
    ∀ (step : Step) (session : Session device) (rest : List Step) (tasks : List Task),
      Leads place start (.atStep session depth step rest tasks) →
      session.context.checkpoint (some step.id) = none →
      (runStep place depth step session).2 ≠ some .brokeDown →
      Accounted place start session → Accounted place start (runStep place depth step session).1
  | .leaf header action, session, rest, tasks, leads, passed, works, accounted => by
      rw [runStep] at works ⊢
      exact enterAccounts passed works accounted fun _ works => leafAccounts works accounted
  | .branch header condition whenTrue whenFalse, session, rest, tasks, leads, passed, works,
      accounted => by
      rw [runStep] at works ⊢
      refine enterAccounts passed works accounted fun begins works => ?_
      have onWay := leads.tail
        (nextBranch session depth header condition whenTrue whenFalse rest tasks begins)
      have recorded : Accounted place start (recordBranch place
          (.branch header condition whenTrue whenFalse) depth (session.time place)
          (condition.evaluate session.bindings)
          (startStep depth (.branch header condition whenTrue whenFalse) session)) :=
        accounted.pushOther rfl rfl nofun
      have sameBindings :
          (startStep depth (.branch header condition whenTrue whenFalse) session).bindings =
            session.bindings := rfl
      simp only [sameBindings] at works ⊢
      cases decided : (condition.evaluate session.bindings).result with
      | true =>
          rw [decided] at onWay works
          exact allAccount place start (depth + 1) whenTrue _ _ onWay works recorded
      | false =>
          rw [decided] at onWay works
          exact allAccount place start (depth + 1) whenFalse _ _ onWay works recorded
  | .loop header rule body, session, rest, tasks, leads, passed, works, accounted => by
      rw [runStep] at works ⊢
      refine enterAccounts passed works accounted fun begins works => ?_
      let loop : LoopStart place start :=
        ⟨session, depth, header, rule, body, rest, tasks, leads, begins⟩
      exact loop.accounts (allAccount place start (depth + 1) body) works accounted

theorem allAccount (place : Workplace device) (start : Moment device) (depth : Nat) :
    ∀ steps : List Step, AllAccount place start depth steps
  | [] => fun session tasks _ _ accounted => by
      rw [runAll]
      exact accounted
  | step :: rest => fun session tasks leads works accounted => by
      rw [runAll, Session.checkpoint] at works ⊢
      cases checked : session.context.checkpoint (some step.id) with
      | some abort => exact accounted
      | none =>
          rw [checked] at works
          simp only [Flow.andThenGoOn] at works ⊢
          have stepped := stepAccounts place start depth step session rest tasks leads checked
          have reached := leads.trans (stepLeads checked depth rest tasks)
          generalize runStep place depth step session = flow at stepped reached works ⊢
          obtain ⟨after, _ | reason⟩ := flow
          · have accounted := stepped worksOfNone accounted
            simp only [Flow.andThen, Session.checkpoint] at works ⊢
            cases passed : after.context.checkpoint (some step.id) with
            | some abort => exact accounted
            | none =>
                rw [passed] at works
                have onwards := reached.tail (nextPassed passed (.steps depth rest :: tasks))
                exact allAccount place start depth rest after tasks onwards works accounted
          · exact stepped works accounted

end

/-! ### Runs -/

/--
The warnings of a report are those of its trace, in order. Every loop of the run has its entry, and
every entry with iterations belongs to a loop of the run. It tells that the limit ended the loop if
the condition of the loop still held after the greatest number of iterations.
-/
structure LimitsReported (place : Workplace device) (start : Moment device) (found : RunReport) :
    Prop where
  warnings : found.warnings = found.trace.filterMap TraceEntry.limitWarning?
  recorded : ∀ loop : LoopStart place start, ∃ earlier entry later,
    found.trace = earlier ++ entry :: later ∧ loop.Recorded earlier entry
  given : ∀ earlier entry later, found.trace = earlier ++ entry :: later →
    ∀ iterations limited, entry.outcome = .loop iterations limited →
    ∃ loop : LoopStart place start, loop.Recorded earlier entry
  told : ∀ (loop : LoopStart place start) earlier entry, loop.Recorded earlier entry →
    ∀ iterations limited, entry.outcome = .loop iterations limited →
    loop.LimitTold iterations limited

/-- In every run with a report, whatever its outcome, warnings and limits agree with the trace. -/
theorem runLimits (place : Workplace device) (script : Script) (context : RunContext)
    (bindings : Bindings) (state : device) (final : Session device) (found : RunReport)
    (ended : run place script (Session.start context bindings state) = (final, some found)) :
    LimitsReported place (.start script (Session.start context bindings state)) found := by
  obtain ⟨works, trace, warnings⟩ := reportOfSteps ended
  have accounted := allAccount place (.start script (Session.start context bindings state)) 0
    script.steps _ [] .refl works ⟨rfl, fun earlier entry within => ?_⟩
  · refine ⟨?_, fun loop => ?_, fun earlier entry later isTrace => ?_, fun _ _ _ recorded _ _ =>
      recorded.told⟩
    · rw [warnings, trace]
      exact accounted.warnings
    · obtain ⟨works, -, later, trace⟩ := momentReported ended
        (loop.leads.trans (stepLeads loop.begins.passed loop.depth loop.rest loop.tasks))
      rw [Moment.ofFlow, show Step.loop loop.header loop.rule loop.body = loop.step from rfl,
        loop.runs] at works trace
      obtain ⟨entry, recorded, pushed, -⟩ := loop.recorded works
      rw [pushed, Array.toList_push, List.append_assoc] at trace
      exact ⟨_, entry, later, trace, recorded⟩
    · refine accounted.loops earlier entry ?_
      rw [← trace, isTrace]
      exact ⟨later, by rw [List.append_assoc]; rfl⟩
  · exact absurd (List.prefix_nil.mp within) (by simp)

/-- In this script the condition of a loop always holds. -/
def waitAlways : Script :=
  { Script.new "script" "wait" .epoch with
    steps := [Step.newWhile "always" ⟨"a", .equals, "a"⟩ 2 [Step.newWait "pause" 5]] }

theorem runLimitsWaitAlways :
    ∃ final found, run .idle waitAlways (Session.start (.start "run" none 0) .empty ()) =
        (final, some found) ∧ found.warnings = [⟨"always", 2⟩] ∧
      LimitsReported .idle (.start waitAlways (Session.start (.start "run" none 0) .empty ()))
        found := by
  have ended : ((run .idle waitAlways (Session.start (.start "run" none 0) .empty ())).2.any
      fun found => found.warnings = [⟨"always", 2⟩]) = true := by decide +kernel
  obtain ⟨final, found, isRun, warned⟩ := reportFound ended
  exact ⟨final, found, isRun, of_decide_eq_true warned,
    runLimits .idle waitAlways _ _ _ final found isRun⟩

end Interpreter

end DeskScript
