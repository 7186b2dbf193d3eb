/-
This file shows what every kind of step adds to the trace, and how often a run executes the steps of
its script.
-/

import DeskScript.Proofs.Run.Growth
import DeskScript.Proofs.Run.Records

namespace DeskScript

variable {device : Type}

namespace Interpreter

/-- A step that is passed over is recorded, and no step in it is run. -/
theorem skipCounts (step : Step) (entry : TraceEntry)
    (distinct : (Step.forestIds [step]).Nodup) (own : entry.stepId = step.id)
    (skipped : entry.outcome = .skip) (unattempted : entry.attempts = 0) (completed : Prop) :
    ExecutionCounts completed 1 [entry] [step] := by
  have entries : entriesOf step.id [entry] = [entry] := by rw [← own, entriesOfOwn]
  have once : Within completed (entryCount step.id [entry]) 1 := by
    rw [entryCount, entries]
    exact Within.refl 1
  have neverTaken (taken : BranchTaken) : takenCount step.id taken [entry] = 0 := by
    rw [takenCount, entries]
    simp [skipped]
  have neverBegun : iterationsBegun step.id [entry] = 0 := by
    rw [iterationsBegun, entries]
    simp [unattempted]
  have foreign (steps : List Step) (apart : step.id ∉ Step.forestIds steps) :
      ExecutionCounts completed 0 [entry] steps :=
    ExecutionCounts.foreign fun other inside => by
      rw [List.mem_singleton.mp inside, own]
      exact apart
  cases step with
  | leaf header action => exact ExecutionCounts.ofLeaf header action once
  | branch header condition whenTrue whenFalse =>
      rw [Step.forestIdsBranch, List.nodup_cons, List.mem_append, not_or] at distinct
      refine ExecutionCounts.ofBranch header condition whenTrue whenFalse once ?_ ?_
      · rw [show takenCount header.id .whenTrue [entry] = 0 from neverTaken .whenTrue]
        exact foreign whenTrue distinct.1.1
      · rw [show takenCount header.id .whenFalse [entry] = 0 from neverTaken .whenFalse]
        exact foreign whenFalse distinct.1.2
  | loop header rule body =>
      rw [Step.forestIdsLoop, List.nodup_cons] at distinct
      refine ExecutionCounts.ofLoop header rule body once ?_ ?_
      · rw [show iterationsBegun header.id [entry] = 0 from neverBegun]
        exact foreign body distinct.1
      · intro _ other inside _ notSkipped
        rw [List.mem_singleton.mp inside] at notSkipped
        exact absurd skipped notSkipped

theorem ownOfSelf (step : Step) : step.id ∈ Step.forestIds [step] :=
  List.mem_map_of_mem (Step.ofMemForest [step] step (List.mem_singleton_self step))

/-- A step is not run if it is too deep, and passed over if it is not enabled. -/
theorem enterGrows (place : Workplace device) (step : Step) (depth : Nat)
    (run : Time.Timestamp → Session device → Flow device)
    (distinct : (Step.forestIds [step]).Nodup)
    (grows : ∀ startedAt, Grows (run startedAt) [step]) :
    Grows (fun session => enter place step depth session run) [step] := by
  intro session works
  simp only [enter] at works ⊢
  split at works
  · rename_i tooDeep
    rw [if_pos tooDeep]
    exact ⟨[], Growth.halted session _ rfl⟩
  · rename_i fits
    rw [if_neg fits]
    split at works
    · rename_i disabled
      rw [if_pos disabled]
      obtain ⟨entry, own, skipped, unattempted, recorded⟩ := session.recordEntry place step depth
        .skip .empty none 0 (session.time place)
      refine ⟨[entry], ?_, ?_, ?_⟩
      · rw [Flow.goOn, recorded, Array.toList_push]
      · intro other inside
        rw [List.mem_singleton.mp inside, own]
        exact ownOfSelf step
      · exact skipCounts step entry distinct own skipped unattempted _
    · rename_i enabled
      rw [if_neg enabled]
      obtain ⟨entries, grown⟩ := grows (session.time place)
        (session.publish (.stepStarted step.id step.stepType (UInt64.ofNat depth))) works
      exact ⟨entries, grown.ofSameTrace session rfl⟩

theorem leafGrows (place : Workplace device) (header : StepHeader) (action : Action) (depth : Nat)
    (startedAt : Time.Timestamp) (left number : Nat) :
    Grows (Leaf.attempt place (.leaf header action) action depth startedAt left number)
      [.leaf header action] := by
  intro session works
  obtain ⟨entry, own, recorded⟩ := Leaf.attemptRecords place (.leaf header action) action depth
    startedAt left number session works
  refine ⟨[entry], ?_, ?_, ?_⟩
  · rw [recorded, Array.toList_push]
  · intro other inside
    rw [List.mem_singleton.mp inside, own]
    exact ownOfSelf _
  · refine ExecutionCounts.ofLeaf header action ?_
    have ownHeader : entry.stepId = header.id := own
    rw [entryCount, ← ownHeader, entriesOfOwn]
    exact Within.refl 1

/-- These are the steps on one of the ways of a branching step. -/
def wayOf (whenTrue whenFalse : List Step) : BranchTaken → List Step
  | .whenTrue => whenTrue
  | .whenFalse => whenFalse

/-- The entries of a branching step and of the steps on the way that it took. -/
theorem branchCounts (header : StepHeader) (condition : Condition) (whenTrue whenFalse : List Step)
    (taken : BranchTaken) (entry : TraceEntry) (entries : List TraceEntry) (completed : Prop)
    (distinct : (Step.forestIds [.branch header condition whenTrue whenFalse]).Nodup)
    (own : entry.stepId = header.id) (isBranch : entry.outcome = .branch taken)
    (inside : ∀ other ∈ entries, other.stepId ∈ Step.forestIds (wayOf whenTrue whenFalse taken))
    (counts : ExecutionCounts completed 1 entries (wayOf whenTrue whenFalse taken)) :
    ExecutionCounts completed 1 ([entry] ++ entries)
      [.branch header condition whenTrue whenFalse] := by
  rw [Step.forestIdsBranch, List.nodup_cons, List.mem_append, not_or, List.nodup_append] at distinct
  obtain ⟨⟨notTrue, notFalse⟩, -, -, apart⟩ := distinct
  have notOnWay (way : BranchTaken) : header.id ∉ Step.forestIds (wayOf whenTrue whenFalse way) := by
    cases way with
    | whenTrue => exact notTrue
    | whenFalse => exact notFalse
  have foreign : ∀ other ∈ entries, other.stepId ≠ header.id := fun other member same =>
    notOnWay taken (same ▸ inside other member)
  have entryForeign (way : BranchTaken) :
      ExecutionCounts completed 0 [entry] (wayOf whenTrue whenFalse way) :=
    ExecutionCounts.foreign fun other member => by
      rw [List.mem_singleton.mp member, own]
      exact notOnWay way
  have onWay (way : BranchTaken) : ExecutionCounts completed
      (takenCount header.id way ([entry] ++ entries)) ([entry] ++ entries)
      (wayOf whenTrue whenFalse way) := by
    rw [takenCountAppend, takenCountForeign header.id way entries foreign, takenCount, ← own,
      entriesOfOwn]
    by_cases same : way = taken
    · have one : ([entry].filter fun entry => entry.outcome = .branch way).length = 1 := by
        simp [isBranch, same]
      rw [one, same, Nat.add_comm]
      exact (entryForeign taken).append counts
    · have different : taken ≠ way := fun equal => same equal.symm
      have zero : ([entry].filter fun entry => entry.outcome = .branch way).length = 0 := by
        simp [isBranch, different]
      rw [zero]
      refine (entryForeign way).append (ExecutionCounts.foreign fun other member onOther => ?_)
      have onTaken := inside other member
      cases way <;> cases taken
      · exact same rfl
      · exact apart _ onOther _ onTaken rfl
      · exact apart _ onTaken _ onOther rfl
      · exact same rfl
  refine ExecutionCounts.ofBranch header condition whenTrue whenFalse ?_ (onWay .whenTrue)
    (onWay .whenFalse)
  rw [entryCountAppend, entryCountForeign header.id entries foreign, entryCount, ← own,
    entriesOfOwn]
  exact Within.refl 1

/-- A branching step is recorded with the way that it takes, and runs the steps on this way. -/
theorem branchGrows (place : Workplace device) (header : StepHeader) (condition : Condition)
    (whenTrue whenFalse : List Step) (depth : Nat) (startedAt : Time.Timestamp)
    (runTrue runFalse : Session device → Flow device)
    (distinct : (Step.forestIds [.branch header condition whenTrue whenFalse]).Nodup)
    (trueGrows : Grows runTrue whenTrue) (falseGrows : Grows runFalse whenFalse) :
    Grows (fun session =>
      let evaluation := condition.evaluate session.bindings
      let session := recordBranch place (.branch header condition whenTrue whenFalse) depth
        startedAt evaluation session
      if evaluation.result then runTrue session else runFalse session)
      [.branch header condition whenTrue whenFalse] := by
  intro session works
  simp only at works ⊢
  generalize condition.evaluate session.bindings = evaluation at works ⊢
  generalize isTaken : (if evaluation.result then BranchTaken.whenTrue else .whenFalse) = taken
  obtain ⟨entry, own, isBranch, -, recorded⟩ := session.recordEntry place
    (.branch header condition whenTrue whenFalse) depth (.branch taken)
    ⟨evaluation.unresolved, none⟩ none 1 startedAt
  rw [← isTaken, ← recordBranch] at recorded
  generalize recordBranch place (.branch header condition whenTrue whenFalse) depth startedAt
    evaluation session = after at works recorded ⊢
  have grown : ∃ entries, Growth after
      (if evaluation.result = true then runTrue after else runFalse after) 1
      (wayOf whenTrue whenFalse taken) entries := by
    rw [← isTaken]
    split at works
    · rename_i holds
      rw [if_pos holds, if_pos holds]
      exact trueGrows after works
    · rename_i fails
      rw [if_neg fails, if_neg fails]
      exact falseGrows after works
  obtain ⟨entries, grown⟩ := grown
  refine ⟨[entry] ++ entries, ?_, ?_, ?_⟩
  · rw [grown.trace, recorded, Array.toList_push, List.append_assoc]
  · intro other inside
    rw [Step.forestIdsBranch, List.mem_cons, List.mem_append]
    rcases List.mem_append.mp inside with early | late
    · rw [List.mem_singleton.mp early]
      exact .inl own
    · have onWay := grown.own other late
      cases taken with
      | whenTrue => exact .inr (.inl onWay)
      | whenFalse => exact .inr (.inr onWay)
  · exact branchCounts header condition whenTrue whenFalse taken entry entries _ distinct own
      isBranch grown.own grown.counts

/-- A loop that ends is recorded with its iterations, unless a device breaks down. -/
theorem endLoopRecords (place : Workplace device) (header : StepHeader) (rule : LoopRule)
    (body : List Step) (depth : Nat) (startedAt : Time.Timestamp) (run : LoopRun device)
    (works : run.halt ≠ some .brokeDown) :
    ∃ entry : TraceEntry, entry.stepId = header.id ∧
      entry.attempts = UInt32.ofNat run.iterations ∧
      (run.halt = none → entry.outcome = .loop (UInt32.ofNat run.iterations) run.limited) ∧
      (endLoop place (.loop header rule body) depth startedAt run).1.trace =
        run.session.trace.push entry ∧
      (endLoop place (.loop header rule body) depth startedAt run).2 = run.halt := by
  obtain ⟨after, iterations, limited, notes, halt⟩ := run
  have record (outcome : StepOutcome) (error : Option String) :=
    after.recordEntry place (.loop header rule body) depth outcome notes error
      (UInt32.ofNat iterations) startedAt
  cases halt with
  | none =>
      obtain ⟨entry, own, isLoop, attempts, recorded⟩ :=
        record (.loop (UInt32.ofNat iterations) limited) none
      exact ⟨entry, own, attempts, fun _ => isLoop, recorded, rfl⟩
  | some reason =>
      cases reason with
      | aborted abort =>
          obtain ⟨entry, own, -, attempts, recorded⟩ := record .aborted none
          exact ⟨entry, own, attempts, (nomatch ·), recorded, rfl⟩
      | failed error stepId =>
          obtain ⟨entry, own, -, attempts, recorded⟩ := record .error (some error)
          exact ⟨entry, own, attempts, (nomatch ·), recorded, rfl⟩
      | brokeDown => exact absurd rfl works

/-- The entries of the steps in a loop and of the loop. -/
theorem loopCounts (header : StepHeader) (rule : LoopRule) (body : List Step) (entry : TraceEntry)
    (entries : List TraceEntry) (iterations : Nat) (completed : Prop)
    (distinct : (Step.forestIds [.loop header rule body]).Nodup) (own : entry.stepId = header.id)
    (begun : entry.attempts.toNat = iterations)
    (inside : ∀ other ∈ entries, other.stepId ∈ Step.forestIds body)
    (counts : ExecutionCounts completed iterations entries body)
    (sound : completed → rule.Allows entry.outcome) :
    ExecutionCounts completed 1 (entries ++ [entry]) [.loop header rule body] := by
  rw [Step.forestIdsLoop, List.nodup_cons] at distinct
  have foreign : ∀ other ∈ entries, other.stepId ≠ header.id := fun other member same =>
    distinct.1 (same ▸ inside other member)
  refine ExecutionCounts.ofLoop header rule body ?_ ?_ ?_
  · rw [entryCountAppend, entryCountForeign header.id entries foreign, entryCount, ← own,
      entriesOfOwn]
    exact Within.refl 1
  · rw [iterationsBegunAppend, iterationsBegunForeign header.id entries foreign, iterationsBegun,
      ← own, entriesOfOwn, List.map_singleton, List.sum_singleton, begun, Nat.zero_add]
    have entryForeign : ExecutionCounts completed 0 [entry] body :=
      ExecutionCounts.foreign fun other member => by
        rw [List.mem_singleton.mp member, own]
        exact distinct.1
    exact counts.append entryForeign
  · intro all other member same _
    rcases List.mem_append.mp member with ofBody | ofLoop
    · exact absurd same (foreign other ofBody)
    · rw [List.mem_singleton.mp ofLoop]
      exact sound all

theorem loopGrows (place : Workplace device) (header : StepHeader) (rule : LoopRule)
    (body : List Step) (depth : Nat) (startedAt : Time.Timestamp)
    (runBody : Session device → Flow device)
    (distinct : (Step.forestIds [.loop header rule body]).Nodup) (grows : Grows runBody body) :
    Grows (fun session => endLoop place (.loop header rule body) depth startedAt
      (runLoop header.id rule runBody session)) [.loop header rule body] := by
  intro session works
  simp only at works ⊢
  have alive : (runLoop header.id rule runBody session).halt ≠ some .brokeDown := fun broken => by
    simp only [endLoop, broken] at works
    exact works rfl
  obtain ⟨entries, small, grown, allowed⟩ :=
    runLoopGrowth header.id rule runBody body grows session alive
  generalize runLoop header.id rule runBody session = run at works alive small grown allowed ⊢
  obtain ⟨entry, own, attempts, isLoop, recorded, sameHalt⟩ :=
    endLoopRecords place header rule body depth startedAt run alive
  have begun : entry.attempts.toNat = run.iterations := by
    rw [attempts]
    exact UInt32.toNat_ofNat_of_lt' small
  refine ⟨entries ++ [entry], ?_, ?_, ?_⟩
  · rw [recorded, Array.toList_push, grown.trace, List.append_assoc]
  · intro other inside
    rw [Step.forestIdsLoop, List.mem_cons]
    rcases List.mem_append.mp inside with ofBody | ofLoop
    · exact .inr (grown.own other ofBody)
    · rw [List.mem_singleton.mp ofLoop]
      exact .inl own
  · rw [sameHalt]
    refine loopCounts header rule body entry entries run.iterations _ distinct own begun grown.own
      grown.counts fun completed => ?_
    rw [isLoop completed]
    exact allowed completed

/-! ### All steps -/

mutual

theorem runStepGrows (place : Workplace device) (depth : Nat) : ∀ step : Step,
    (Step.forestIds [step]).Nodup → Grows (runStep place depth step) [step]
  | .leaf header action, distinct => by
      intro session works
      rw [runStep] at works ⊢
      exact enterGrows place (.leaf header action) depth _ distinct
        (fun startedAt => leafGrows place header action depth startedAt _ 1) session works
  | .branch header condition whenTrue whenFalse, distinct => by
      intro session works
      rw [runStep] at works ⊢
      have apart := distinct
      rw [Step.forestIdsBranch, List.nodup_cons, List.nodup_append] at apart
      exact enterGrows place (.branch header condition whenTrue whenFalse) depth _ distinct
        (fun startedAt => branchGrows place header condition whenTrue whenFalse depth startedAt
          _ _ distinct (runAllGrows place (depth + 1) whenTrue apart.2.1)
          (runAllGrows place (depth + 1) whenFalse apart.2.2.1)) session works
  | .loop header rule body, distinct => by
      intro session works
      rw [runStep] at works ⊢
      have apart := distinct
      rw [Step.forestIdsLoop, List.nodup_cons] at apart
      exact enterGrows place (.loop header rule body) depth _ distinct
        (fun startedAt => loopGrows place header rule body depth startedAt _ distinct
          (runAllGrows place (depth + 1) body apart.2)) session works

theorem runAllGrows (place : Workplace device) (depth : Nat) : ∀ steps : List Step,
    (Step.forestIds steps).Nodup → Grows (runAll place depth steps) steps
  | [], _ => fun session _ => ⟨[], Growth.noSteps session 1⟩
  | step :: rest, distinct => by
      intro session works
      have apart := distinct
      rw [Step.forestIdsCons, List.nodup_append] at apart
      have stepGrows := runStepGrows place depth step apart.1 session
      rw [runAll, Session.checkpoint] at works ⊢
      split at works
      · exact ⟨[], Growth.halted session _ rfl⟩
      · simp only [Flow.andThenGoOn] at works ⊢
        generalize runStep place depth step session = flow at stepGrows works ⊢
        obtain ⟨middle, _ | reason⟩ := flow
        · obtain ⟨entries, grown⟩ := stepGrows (Option.some_ne_none _).symm
          have continues : (Flow.andThen (middle, none) fun session =>
              (session.checkpoint step.id).andThen fun session => runAll place depth rest session) =
              (middle.checkpoint step.id).andThen fun session => runAll place depth rest session :=
            rfl
          rw [continues, Session.checkpoint] at works ⊢
          split at works
          · exact ⟨entries ++ [], grown.andThen step distinct (Growth.halted middle _ rfl)⟩
          · simp only [Flow.andThenGoOn] at works ⊢
            obtain ⟨further, restGrown⟩ := runAllGrows place depth rest apart.2.1 middle works
            exact ⟨entries ++ further, grown.andThen step distinct restGrown⟩
        · obtain ⟨entries, grown⟩ := stepGrows works
          exact ⟨entries, grown.andHalt step reason distinct⟩

end

/-! ### Runs -/

/--
In a run that is completed every step is executed as often as its place in the script says. In a run
that is aborted or fails no step is executed more often than that.
-/
theorem runCounts (place : Workplace device) (script : Script) (context : RunContext)
    (bindings : Bindings) (state : device)
    (distinct : (script.visit.map fun (_, step) => step.id).Nodup) (report : RunReport)
    (reported : (run place script (Session.start context bindings state)).2 = some report) :
    ExecutionCounts (report.outcome = .completed) 1 report.trace script.steps := by
  have ids : Step.forestIds script.steps = script.visit.map fun (_, step) => step.id := by
    rw [Step.forestIds, Step.forest, List.map_map]
    rfl
  rw [← ids] at distinct
  have grows := runAllGrows place 0 script.steps distinct
    { Session.start context bindings state with context := context.arm }
  rw [run] at reported
  generalize isFlow : runAll place 0 script.steps
    { Session.start context bindings state with
      context := (Session.start context bindings state).context.arm } = flow at reported
  rw [show context.arm = (Session.start context bindings state).context.arm from rfl, isFlow] at grows
  obtain ⟨after, halt⟩ := flow
  cases isOutcome : outcome? halt with
  | none =>
      simp only [isOutcome] at reported
      cases reported
  | some outcome =>
      simp only [isOutcome, Option.some.injEq] at reported
      have works : halt ≠ some .brokeDown := fun broken => by
        rw [broken] at isOutcome
        cases isOutcome
      obtain ⟨entries, grown⟩ := grows works
      have trace : report.trace = entries := by
        rw [← reported]
        exact grown.trace
      have outcome : report.outcome = outcome := by rw [← reported]; rfl
      rw [trace, outcome]
      refine grown.counts.weaken fun completed => ?_
      rw [completed] at isOutcome
      cases halt with
      | none => rfl
      | some reason => cases reason <;> cases isOutcome

theorem runCountsWaitTwice :
    ∃ report, (run .idle waitTwice
      (Session.start (.start "run" none 0) .empty ())).2 = some report ∧
      report.outcome = .completed ∧ report.trace.length = 3 ∧
      ExecutionCounts (report.outcome = .completed) 1 report.trace waitTwice.steps := by
  have ended : ((run .idle waitTwice
      (Session.start (.start "run" none 0) .empty ())).2.any fun report =>
        report.outcome = .completed ∧ report.trace.length = 3) = true := by decide +kernel
  obtain ⟨_, report, isRun, told⟩ := reportFound ended
  have reported := congrArg Prod.snd isRun
  obtain ⟨completed, entries⟩ := of_decide_eq_true told
  exact ⟨report, reported, completed, entries,
    runCounts _ waitTwice _ _ _ (by decide) report reported⟩

end Interpreter

end DeskScript
