/-
This file says what a part of a run adds to the trace, joins the parts, and shows what the iterations
of a loop add.
-/

import DeskScript.Proofs.Run.ExecutionCounts
import DeskScript.Run.Interpreter

namespace DeskScript

variable {device : Type}

/-- Part of a run adds entries of its own steps to the trace, in the right numbers. -/
structure Growth (before : Session device) (flow : Flow device) (times : Nat) (steps : List Step)
    (entries : List TraceEntry) : Prop where
  trace : flow.1.trace.toList = before.trace.toList ++ entries
  own : ∀ entry ∈ entries, entry.stepId ∈ Step.forestIds steps
  counts : ExecutionCounts (flow.2 = none) times entries steps

namespace Growth

variable {before : Session device} {flow : Flow device} {times : Nat} {steps : List Step}
variable {entries : List TraceEntry}

/-- A part of a run that halts before it does anything adds nothing. -/
theorem halted (after : Session device) (reason : Halt) (same : after.trace = before.trace) :
    Growth before (after, some reason) times steps [] where
  trace := by rw [List.append_nil, same]
  own _ inside := absurd inside List.not_mem_nil
  counts := ExecutionCounts.nothing (Option.some_ne_none reason)

theorem empty (halt : Option Halt) : Growth before (before, halt) 0 steps [] where
  trace := by rw [List.append_nil]
  own _ inside := absurd inside List.not_mem_nil
  counts := ExecutionCounts.foreign fun _ inside => absurd inside List.not_mem_nil

/-- Where there are no steps nothing is added, however often they are run. -/
theorem noSteps (session : Session device) (times : Nat) :
    Growth session (Flow.goOn session) times [] [] where
  trace := (List.append_nil _).symm
  own _ inside := absurd inside List.not_mem_nil
  counts :=
    have never : ExecutionCounts _ 0 [] [] :=
      ExecutionCounts.foreign fun _ inside => absurd inside List.not_mem_nil
    { never with top := fun _ inside => absurd inside List.not_mem_nil }

/-- Only the trace of the session before counts. -/
theorem ofSameTrace (earlier : Session device) (grown : Growth before flow times steps entries)
    (same : before.trace = earlier.trace) : Growth earlier flow times steps entries :=
  { grown with trace := by rw [grown.trace, same] }

/-- The same steps may be run again. -/
theorem again {middle : Session device} {more : Nat} {further : List TraceEntry}
    (first : Growth before (middle, none) times steps entries)
    (second : Growth middle flow more steps further) :
    Growth before flow (times + more) steps (entries ++ further) where
  trace := by rw [second.trace, first.trace, List.append_assoc]
  own entry inside := (List.mem_append.mp inside).elim (first.own entry) (second.own entry)
  counts := (first.counts.weaken fun _ => rfl).append second.counts

/-- A run of one step and a run of the steps after it make a run of all of them. -/
theorem andThen {middle : Session device} {further : List TraceEntry} (step : Step)
    (distinct : (Step.forestIds (step :: steps)).Nodup)
    (first : Growth before (middle, none) times [step] entries)
    (second : Growth middle flow times steps further) :
    Growth before flow times (step :: steps) (entries ++ further) := by
  rw [Step.forestIdsCons] at distinct
  have apart := (List.nodup_append.mp distinct).2.2
  constructor
  · rw [second.trace, first.trace, List.append_assoc]
  · intro entry inside
    rw [Step.forestIdsCons]
    rcases List.mem_append.mp inside with early | late
    · exact List.mem_append_left _ (first.own entry early)
    · exact List.mem_append_right _ (second.own entry late)
  · have firstCounts : ExecutionCounts (flow.2 = none) (times + 0) (entries ++ further) [step] :=
      (first.counts.weaken fun _ => rfl).append (ExecutionCounts.foreign fun entry inside own =>
        apart entry.stepId own entry.stepId (second.own entry inside) rfl)
    have otherCounts : ExecutionCounts (flow.2 = none) (0 + times) (entries ++ further) steps :=
      (ExecutionCounts.foreign fun entry inside own =>
        apart entry.stepId (first.own entry inside) entry.stepId own rfl).append second.counts
    rw [Nat.zero_add] at otherCounts
    exact firstCounts.cons step otherCounts

/-- Where a step halts the run, the steps after it add nothing. -/
theorem andHalt {middle : Session device} (step : Step) (reason : Halt)
    (distinct : (Step.forestIds (step :: steps)).Nodup)
    (first : Growth before (middle, some reason) times [step] entries) :
    Growth before (middle, some reason) times (step :: steps) entries := by
  rw [Step.forestIdsCons] at distinct
  have apart := (List.nodup_append.mp distinct).2.2
  constructor
  · exact first.trace
  · intro entry inside
    rw [Step.forestIdsCons]
    exact List.mem_append_left _ (first.own entry inside)
  · refine first.counts.cons step (ExecutionCounts.relax (ExecutionCounts.foreign ?_)
      (Option.some_ne_none reason) times (Nat.zero_le times))
    intro entry inside own
    exact apart entry.stepId (first.own entry inside) entry.stepId own rfl

end Growth

/-- Steps that are run from any session add their entries once, unless a device breaks down. -/
def Grows (run : Session device → Flow device) (steps : List Step) : Prop :=
  ∀ session, (run session).2 ≠ some .brokeDown →
    ∃ entries, Growth session (run session) 1 steps entries

/-! ### Loops -/

namespace Interpreter

theorem iterateGrows (stepId : String) (rule : LoopRule) (body : Session device → Flow device)
    (steps : List Step) (grows : Grows body steps) (iteration : Nat) :
    Grows (iterate stepId rule body iteration) steps := by
  intro session works
  rw [iterate, Session.checkpoint] at works ⊢
  split at works
  · exact ⟨[], Growth.halted session _ rfl⟩
  · simp only [Flow.andThenGoOn] at works ⊢
    split at works
    · rename_i index _
      obtain ⟨entries, grown⟩ := grows (session.bind index (toString iteration)) works
      exact ⟨entries, grown.ofSameTrace session rfl⟩
    · exact grows session works

/-- A loop that counts begins no more iterations than are left, and all of them if it can. -/
theorem countUpGrowth (stepId : String) (rule : LoopRule) (body : Session device → Flow device)
    (steps : List Step) (grows : Grows body steps) (left iterations : Nat)
    (session : Session device)
    (works : (countUp stepId rule body left iterations session).halt ≠ some .brokeDown) :
    ∃ done entries, done ≤ left ∧
      (countUp stepId rule body left iterations session).iterations = iterations + done ∧
      Growth session ((countUp stepId rule body left iterations session).session,
        (countUp stepId rule body left iterations session).halt) done steps entries ∧
      ((countUp stepId rule body left iterations session).halt = none →
        done = left ∧ (countUp stepId rule body left iterations session).limited = false) := by
  induction left generalizing iterations session with
  | zero => exact ⟨0, [], Nat.le_refl 0, rfl, Growth.empty none, fun _ => ⟨rfl, rfl⟩⟩
  | succ left inductionHypothesis =>
      have iterated := iterateGrows stepId rule body steps grows (iterations + 1) session
      rw [countUp] at works ⊢
      generalize iterate stepId rule body (iterations + 1) session = flow at iterated works ⊢
      obtain ⟨after, _ | reason⟩ := flow
      · obtain ⟨entries, grown⟩ := iterated (Option.some_ne_none _).symm
        obtain ⟨done, further, bound, count, rest, finished⟩ :=
          inductionHypothesis (iterations + 1) after works
        refine ⟨1 + done, entries ++ further, by omega, by simp only [count]; omega,
          grown.again rest, fun completed => ⟨?_, (finished completed).2⟩⟩
        have all := (finished completed).1
        omega
      · obtain ⟨entries, grown⟩ := iterated works
        exact ⟨1, entries, by omega, rfl, grown, fun completed => nomatch completed⟩

/-- A loop with a condition begins no more iterations than are left, and stops at its limit. -/
theorem repeatWhileGrowth (stepId : String) (rule : LoopRule) (condition : Condition)
    (body : Session device → Flow device) (steps : List Step) (grows : Grows body steps)
    (left iterations : Nat) (notes : StepNotes) (session : Session device)
    (works : (repeatWhile stepId rule condition body left iterations notes session).halt ≠
      some .brokeDown) :
    ∃ done entries, done ≤ left ∧
      (repeatWhile stepId rule condition body left iterations notes session).iterations =
        iterations + done ∧
      Growth session ((repeatWhile stepId rule condition body left iterations notes session).session,
        (repeatWhile stepId rule condition body left iterations notes session).halt)
        done steps entries ∧
      ((repeatWhile stepId rule condition body left iterations notes session).halt = none →
        (repeatWhile stepId rule condition body left iterations notes session).limited = true →
        done = left) := by
  induction left generalizing iterations notes session with
  | zero =>
      rw [repeatWhile]
      split
      · exact ⟨0, [], Nat.le_refl 0, rfl, Growth.empty _, fun completed => nomatch completed⟩
      · simp only
        split
        · exact ⟨0, [], Nat.le_refl 0, rfl, Growth.empty none, fun _ _ => rfl⟩
        · exact ⟨0, [], Nat.le_refl 0, rfl, (Growth.empty none).ofSameTrace session rfl,
            fun _ _ => rfl⟩
  | succ left inductionHypothesis =>
      have iterated := iterateGrows stepId rule body steps grows (iterations + 1) session
      rw [repeatWhile] at works ⊢
      split at works
      · exact ⟨0, [], Nat.zero_le _, rfl, Growth.empty _, fun completed => nomatch completed⟩
      · simp only at works ⊢
        split at works
        · rename_i fails
          rw [if_pos fails]
          exact ⟨0, [], Nat.zero_le _, rfl, Growth.empty none, fun _ limited => nomatch limited⟩
        · rename_i holds
          rw [if_neg holds]
          generalize iterate stepId rule body (iterations + 1) session = flow at iterated works ⊢
          obtain ⟨after, _ | reason⟩ := flow
          · obtain ⟨entries, grown⟩ := iterated (Option.some_ne_none _).symm
            obtain ⟨done, further, bound, count, rest, finished⟩ :=
              inductionHypothesis (iterations + 1) _ after works
            refine ⟨1 + done, entries ++ further, by omega, by simp only [count]; omega,
              grown.again rest, fun completed limited => ?_⟩
            have all := finished completed limited
            omega
          · obtain ⟨entries, grown⟩ := iterated works
            exact ⟨1, entries, by omega, rfl, grown, fun completed => nomatch completed⟩

/-- The steps in a loop are run once for every iteration, and the loop keeps to its rule. -/
theorem runLoopGrowth (stepId : String) (rule : LoopRule) (body : Session device → Flow device)
    (steps : List Step) (grows : Grows body steps) (session : Session device)
    (works : (runLoop stepId rule body session).halt ≠ some .brokeDown) :
    ∃ entries, (runLoop stepId rule body session).iterations < 2 ^ 32 ∧
      Growth session ((runLoop stepId rule body session).session,
        (runLoop stepId rule body session).halt)
        (runLoop stepId rule body session).iterations steps entries ∧
      ((runLoop stepId rule body session).halt = none →
        rule.Allows (.loop (UInt32.ofNat (runLoop stepId rule body session).iterations)
          (runLoop stepId rule body session).limited)) := by
  rw [runLoop] at works ⊢
  rw [LoopRule.Allows]
  cases isMode : rule.mode with
  | count times =>
      simp only [isMode] at works ⊢
      obtain ⟨done, entries, bound, count, grown, finished⟩ :=
        countUpGrowth stepId rule body steps grows times.toNat 0 session works
      rw [Nat.zero_add] at count
      have small := times.toNat_lt
      refine ⟨entries, by omega, by rw [count]; exact grown, fun completed => ?_⟩
      rw [count, (finished completed).1, UInt32.ofNat_toNat]
      exact ⟨rfl, (finished completed).2⟩
  | while_ condition =>
      simp only [isMode] at works ⊢
      obtain ⟨done, entries, bound, count, grown, finished⟩ :=
        repeatWhileGrowth stepId rule condition body steps grows rule.limit.toNat 0 .empty session
          works
      rw [Nat.zero_add] at count
      have small := rule.limit.toNat_lt
      have exactly : (UInt32.ofNat done).toNat = done := 
        UInt32.toNat_ofNat_of_lt' (Nat.lt_of_le_of_lt bound small)
      refine ⟨entries, by omega, by rw [count]; exact grown, fun completed => ?_⟩
      rw [count]
      constructor
      · rw [UInt32.le_iff_toNat_le, exactly]
        exact bound
      · intro limited
        rw [finished completed limited, UInt32.ofNat_toNat]

end Interpreter

end DeskScript
