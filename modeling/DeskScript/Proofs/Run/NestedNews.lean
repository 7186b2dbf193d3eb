/-
This file says how the news of a run follow its script: what is told between the start of a step and
its end is about steps that may run while it is open.
-/

import DeskScript.Proofs.Run.Nesting
import DeskScript.Proofs.Step.Forest

namespace DeskScript

open RunNews (Settled followAppend)

/-- This is the news that a step was ended by its limit. Only a loop has one. -/
def Step.limitNews : Step → List RunNews
  | .loop header rule _ => [.warning ⟨header.id, rule.limit⟩]
  | _ => []

/-! ### Nested news -/

/--
These are the news of a part of a run in which some steps may run if they are not too deep. Whatever
runs while a step is open is told between its start and its end. Before a loop ends there may be a
warning.
-/
inductive Nested (limit : Nat) : List (Nat × Step) → List RunNews → Prop where
  | nothing (scope : List (Nat × Step)) : Nested limit scope []
  | skipped {scope : List (Nat × Step)} {depth : Nat} {step : Step} {entry : TraceEntry}
      {later : List RunNews} (member : (depth, step) ∈ scope) (fits : depth < limit)
      (disabled : step.header.enabled = false) (skip : entry.outcome = .skip)
      (own : entry.started = .ofStep depth step) (others : Nested limit scope later) :
      Nested limit scope (.stepFinished entry :: later)
  | executed {scope : List (Nat × Step)} {depth : Nat} {step : Step} {entry : TraceEntry}
      {inside warned later : List RunNews} (member : (depth, step) ∈ scope) (fits : depth < limit)
      (enabled : step.header.enabled = true) (ran : entry.outcome ≠ .skip)
      (own : entry.started = .ofStep depth step) (inner : Nested limit (step.within depth) inside)
      (limits : warned = [] ∨ warned = step.limitNews) (others : Nested limit scope later) :
      Nested limit scope ((Started.ofStep depth step).news ::
        (inside ++ (warned ++ .stepFinished entry :: later)))

namespace Nested

variable {limit : Nat}

theorem append {scope : List (Nat × Step)} {first second : List RunNews}
    (one : Nested limit scope first) (other : Nested limit scope second) :
    Nested limit scope (first ++ second) := by
  induction one with
  | nothing => exact other
  | skipped member fits disabled skip own _ inductionHypothesis =>
      exact .skipped member fits disabled skip own (inductionHypothesis other)
  | executed member fits enabled ran own inner limits _ _ inductionHypothesis =>
      have longer := executed member fits enabled ran own inner limits (inductionHypothesis other)
      simpa only [List.cons_append, List.append_assoc] using longer

/-- When no step may run there are no news. -/
theorem ofNone {news : List RunNews} (nested : Nested limit [] news) : news = [] := by
  cases nested with
  | nothing => rfl
  | skipped member => cases member
  | executed member => cases member

theorem settledLimit {step : Step} {warned : List RunNews}
    (limits : warned = [] ∨ warned = step.limitNews) : Settled warned := by
  obtain rfl | rfl := limits
  · rfl
  · cases step <;> rfl

/-- In nested news every step that is started is finished. -/
theorem settled {scope : List (Nat × Step)} {news : List RunNews}
    (nested : Nested limit scope news) : Settled news := by
  induction nested with
  | nothing => rfl
  | @skipped _ _ _ entry _ _ _ _ skip _ _ settledLater =>
      rw [Settled, List.foldlM_cons, RunNews.followSkip [] entry skip]
      exact settledLater
  | @executed _ _ _ entry inside _ _ _ _ _ ran own _ limits _ settledInside settledLater =>
      rw [Settled, List.foldlM_cons, RunNews.followStart]
      refine followAppend (settledInside.above _) (followAppend ((settledLimit limits).above _) ?_)
      rw [List.foldlM_cons, ← own, RunNews.followFinish [] entry ran]
      exact settledLater

end Nested

/-! ### The part of every item -/

/-- A step of a script is executed, and unless it is a loop it is closed at once. -/
structure Execution (limit : Nat) (steps : List (Nat × Step)) (started : Started)
    (inside : List RunNews) (entry : TraceEntry) : Prop extends Bracket started inside entry where
  step : ∃ depth step, (depth, step) ∈ steps ∧ depth < limit ∧ step.header.enabled = true ∧
    started = .ofStep depth step
  prompt : started.stepType ≠ .loop → inside = []

/-- These are the parts that an item plays between the news before it and after it. -/
inductive NewsPart (limit : Nat) (steps : List (Nat × Step)) :
    List RunNews → RunNews → List RunNews → Prop where
  | skips {depth : Nat} {step : Step} {entry : TraceEntry} (before later : List RunNews)
      (member : (depth, step) ∈ steps) (fits : depth < limit)
      (disabled : step.header.enabled = false) (skip : entry.outcome = .skip)
      (own : entry.started = .ofStep depth step) :
      NewsPart limit steps before (.stepFinished entry) later
  | starts {started : Started} {inside : List RunNews} {entry : TraceEntry}
      (before rest : List RunNews) (execution : Execution limit steps started inside entry) :
      NewsPart limit steps before started.news (inside ++ .stepFinished entry :: rest)
  | finishes {started : Started} {inside : List RunNews} {entry : TraceEntry}
      (earlier later : List RunNews) (execution : Execution limit steps started inside entry) :
      NewsPart limit steps (earlier ++ started.news :: inside) (.stepFinished entry) later
  | warns (warning : LoopWarning) (before later : List RunNews) :
      NewsPart limit steps before (.warning warning) later

namespace NewsPart

variable {limit : Nat} {steps : List (Nat × Step)}

theorem among {before later : List RunNews} {item : RunNews}
    (part : NewsPart limit steps before item later) (first last : List RunNews) :
    NewsPart limit steps (first ++ before) item (later ++ last) := by
  cases part with
  | skips _ _ member fits disabled skip own => exact .skips _ _ member fits disabled skip own
  | starts _ rest execution =>
      rw [List.append_assoc, List.cons_append]
      exact .starts _ (rest ++ last) execution
  | finishes earlier _ execution =>
      rw [← List.append_assoc]
      exact .finishes (first ++ earlier) _ execution
  | warns warning => exact .warns warning _ _

/-- An item of two lists together is in the first one or in the second one. -/
theorem itemOfAppend {first second before later : List RunNews} {item : RunNews}
    (same : first ++ second = before ++ item :: later) :
    (∃ more, first = before ++ item :: more ∧ later = more ++ second) ∨
      ∃ more, before = first ++ more ∧ second = more ++ item :: later := by
  rcases List.append_eq_append_iff.mp same with ⟨more, isBefore, rest⟩ | ⟨more, isFirst, rest⟩
  · exact .inr ⟨more, isBefore, rest⟩
  · cases more with
    | nil => exact .inr ⟨[], by rw [isFirst, List.append_nil, List.append_nil], rest.symm⟩
    | cons head more =>
        rw [List.cons_append, List.cons.injEq] at rest
        exact .inl ⟨more, by rw [isFirst, rest.1], rest.2⟩

/-- What a step tells between the steps inside it and its end is that its limit ended it. -/
theorem ofLimit {step : Step} {warned : List RunNews} {item : RunNews}
    (limits : warned = [] ∨ warned = step.limitNews) (member : item ∈ warned)
    (before later : List RunNews) : NewsPart limit steps before item later := by
  obtain rfl | rfl := limits
  · cases member
  · cases step with
    | loop header rule body =>
        rw [List.mem_singleton.mp member]
        exact .warns _ before later
    | _ => cases member

/-- In nested news every item plays one of these parts. -/
theorem ofNested (closed : ∀ visited ∈ steps, visited.2.within visited.1 ⊆ steps)
    {scope : List (Nat × Step)} {news : List RunNews} (nested : Nested limit scope news) :
    scope ⊆ steps → ∀ before item later, news = before ++ item :: later →
      NewsPart limit steps before item later := by
  induction nested with
  | nothing =>
      intro _ before item later same
      exact absurd same.symm (by simp)
  | skipped member fits disabled skip own _ inLater =>
      intro inside before item later same
      cases before with
      | nil =>
          rw [List.nil_append, List.cons.injEq] at same
          rw [← same.1]
          exact .skips _ _ (inside member) fits disabled skip own
      | cons head before =>
          rw [List.cons_append, List.cons.injEq] at same
          have part := (inLater inside before item later same.2).among [head] []
          rwa [List.append_nil] at part
  | @executed scope depth step entry inside warned others member fits enabled ran own inner limits _
      inInside inOthers =>
      -- The item is the start of the step, or inside it, or its warning, or its end, or behind it.
      intro inScope before item later same
      have execution : Execution limit steps (.ofStep depth step) (inside ++ warned) entry :=
        { settled := followAppend inner.settled (Nested.settledLimit limits)
          ran
          own
          step := ⟨depth, step, inScope member, fits, enabled, rfl⟩
          prompt := fun noLoop => by
            cases step with
            | loop => exact absurd rfl noLoop
            | _ => rw [inner.ofNone, or_self_iff.mp limits, List.append_nil] }
      cases before with
      | nil =>
          rw [List.nil_append, List.cons.injEq] at same
          rw [← same.1, ← same.2, ← List.append_assoc]
          exact .starts [] others execution
      | cons head before =>
          rw [List.cons_append, List.cons.injEq] at same
          rw [← same.1]
          rcases itemOfAppend same.2 with ⟨more, isInside, rest⟩ | ⟨more, isBefore, rest⟩
          · have within : step.within depth ⊆ steps := closed _ (inScope member)
            have part := inInside within before item more isInside
            rw [rest]
            exact part.among [_] _
          · rcases itemOfAppend rest with ⟨more', isWarned, -⟩ | ⟨more', isMore, rest⟩
            · rw [isWarned] at limits
              exact ofLimit limits (List.mem_append_cons_self ..) _ _
            · rw [isBefore, isMore]
              cases more' with
              | nil =>
                  rw [List.nil_append, List.cons.injEq] at rest
                  rw [← rest.1, List.append_nil]
                  exact .finishes [] _ execution
              | cons finish more' =>
                  rw [List.cons_append, List.cons.injEq] at rest
                  have part := (inOthers inScope more' item later rest.2).among
                    ((Started.ofStep depth step).news :: (inside ++ (warned ++ [finish]))) []
                  simpa only [List.append_nil, List.cons_append, List.append_assoc,
                    List.nil_append] using part

end NewsPart

end DeskScript
