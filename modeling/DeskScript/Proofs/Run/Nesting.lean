/-
This file says when the news of a run are nested like brackets, where the start of a step opens a
bracket and its end closes it. A bracket that is opened can then be closed in one place only.
-/

import DeskScript.Run.Trace

namespace DeskScript

/-! ### Steps that have been started -/

/-- A step that has been started is known by what the news say about it. -/
structure Started where
  stepId : String
  stepType : StepType
  depth : UInt64
  deriving DecidableEq

namespace Started

def ofStep (depth : Nat) (step : Step) : Started := ⟨step.id, step.stepType, UInt64.ofNat depth⟩

def news (started : Started) : RunNews :=
  .stepStarted started.stepId started.stepType started.depth

theorem newsInjective {first second : Started} (same : first.news = second.news) :
    first = second := by
  cases first
  cases second
  cases same
  rfl

end Started

/-- An entry says in the same way which step it belongs to. -/
def TraceEntry.started (entry : TraceEntry) : Started :=
  ⟨entry.stepId, entry.stepType, entry.depth⟩

namespace RunNews

def entry? : RunNews → Option TraceEntry
  | .stepFinished entry => some entry
  | _ => none

/-- A step that is passed over was never opened, and of the others only the last one is closed. -/
def close (entry : TraceEntry) (opened : List Started) : Option (List Started) :=
  if entry.outcome = .skip then some opened
  else
    match opened with
    | [] => none
    | last :: others => if last = entry.started then some others else none

/-- This function follows which steps are open, the last one first. -/
def follow (opened : List Started) : RunNews → Option (List Started)
  | .stepStarted stepId stepType depth => some (⟨stepId, stepType, depth⟩ :: opened)
  | .stepFinished entry => close entry opened
  | _ => some opened

/-- Some news are settled when all steps that are started in them are finished in them. -/
def Settled (news : List RunNews) : Prop := news.foldlM follow [] = some []

theorem followStart (opened : List Started) (started : Started) :
    follow opened started.news = some (started :: opened) := rfl

theorem followSkip (opened : List Started) (entry : TraceEntry) (skipped : entry.outcome = .skip) :
    follow opened (.stepFinished entry) = some opened := if_pos skipped

theorem followFinish (opened : List Started) (entry : TraceEntry)
    (executed : entry.outcome ≠ .skip) :
    follow (entry.started :: opened) (.stepFinished entry) = some opened := by
  rw [follow, close, if_neg executed]
  exact if_pos rfl

/-- Only the step that was started last is finished. -/
theorem followFinished {opened after : List Started} {entry : TraceEntry}
    (executed : entry.outcome ≠ .skip)
    (followed : follow opened (.stepFinished entry) = some after) :
    opened = entry.started :: after := by
  cases opened with
  | nil =>
      rw [follow, close, if_neg executed] at followed
      cases followed
  | cons last others =>
      rw [follow, close, if_neg executed] at followed
      split at followed
      · rename_i same
        rw [same, Option.some.inj followed]
      · cases followed

/-- What happens to the steps that were opened last does not depend on those before them. -/
theorem followAbove {opened after : List Started} {news : RunNews}
    (followed : follow opened news = some after) (others : List Started) :
    follow (opened ++ others) news = some (after ++ others) := by
  cases news with
  | stepFinished entry =>
      by_cases skipped : entry.outcome = .skip
      · rw [followSkip _ entry skipped] at followed ⊢
        rw [Option.some.inj followed]
      · rw [followFinished skipped followed]
        exact followFinish (after ++ others) entry skipped
  | _ =>
      cases followed
      rfl

theorem followAllAbove {opened after : List Started} {news : List RunNews}
    (followed : news.foldlM follow opened = some after) (others : List Started) :
    news.foldlM follow (opened ++ others) = some (after ++ others) := by
  induction news generalizing opened with
  | nil =>
      cases followed
      rfl
  | cons first rest inductionHypothesis =>
      rw [List.foldlM_cons] at followed ⊢
      obtain ⟨next, isNext, followed⟩ := Option.bind_eq_some_iff.mp followed
      rw [followAbove isNext others]
      exact inductionHypothesis followed

theorem Settled.above {news : List RunNews} (settled : Settled news) (opened : List Started) :
    news.foldlM follow opened = some opened := followAllAbove settled opened

theorem followAppend {first second : List RunNews} {opened middle after : List Started}
    (one : first.foldlM follow opened = some middle)
    (other : second.foldlM follow middle = some after) :
    (first ++ second).foldlM follow opened = some after := by
  rw [List.foldlM_append, one]
  exact other

end RunNews

/-! ### Brackets -/

open RunNews (Settled)

/-- Between the start of a step and its end are some news that are settled. -/
structure Bracket (started : Started) (inside : List RunNews) (entry : TraceEntry) : Prop where
  settled : Settled inside
  ran : entry.outcome ≠ .skip
  own : entry.started = started

/-- News that are settled cannot go on behind the end of a step that was started before them. -/
theorem notSettledBehind {inside : List RunNews} {entry : TraceEntry} (settled : Settled inside)
    (ran : entry.outcome ≠ .skip) (more : List RunNews) :
    ¬Settled (inside ++ .stepFinished entry :: more) := by
  intro behind
  rw [Settled, List.foldlM_append, settled] at behind
  obtain ⟨opened, isOpened, behind⟩ := Option.bind_eq_some_iff.mp behind
  cases isOpened
  obtain ⟨next, isNext, -⟩ := Option.bind_eq_some_iff.mp behind
  cases RunNews.followFinished ran isNext

/-- After its start a step is finished in one place only. -/
theorem Bracket.once {started other : Started} {inside rest inside' rest' : List RunNews}
    {entry entry' : TraceEntry} (first : Bracket started inside entry)
    (second : Bracket other inside' entry')
    (same : inside ++ .stepFinished entry :: rest = inside' ++ .stepFinished entry' :: rest') :
    inside' = inside ∧ entry' = entry ∧ rest' = rest := by
  rcases List.append_eq_append_iff.mp same with ⟨more, isLonger, tail⟩ | ⟨more, isLonger, tail⟩
  · cases more with
    | nil =>
        rw [List.nil_append, List.cons.injEq, RunNews.stepFinished.injEq] at tail
        exact ⟨by rw [isLonger, List.append_nil], tail.1.symm, tail.2.symm⟩
    | cons news more =>
        rw [List.cons_append, List.cons.injEq] at tail
        rw [← tail.1] at isLonger
        exact absurd (isLonger ▸ second.settled) (notSettledBehind first.settled first.ran more)
  · cases more with
    | nil =>
        rw [List.nil_append, List.cons.injEq, RunNews.stepFinished.injEq] at tail
        exact ⟨by rw [isLonger, List.append_nil], tail.1, tail.2⟩
    | cons news more =>
        rw [List.cons_append, List.cons.injEq] at tail
        rw [← tail.1] at isLonger
        exact absurd (isLonger ▸ first.settled) (notSettledBehind second.settled second.ran more)

end DeskScript
