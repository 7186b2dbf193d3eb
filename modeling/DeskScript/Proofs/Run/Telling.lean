/-
This file says what the session of a run tells by its events and its trace, and what the parts of a
run add to it.
-/

import DeskScript.Proofs.Run.Course
import DeskScript.Proofs.Run.Nesting
import DeskScript.Proofs.Run.Records

namespace DeskScript

variable {device : Type}

/-! ### What a session tells -/

namespace Session

/-- All events of a session belong to one run, and its trace holds the entries among its news. -/
structure Tells (session : Session device) (runId : String) (news : List RunNews) : Prop where
  own : session.context.runId = runId
  events : session.events.toList = news.map (RunEvent.mk runId)
  trace : session.trace.toList = news.filterMap RunNews.entry?

/-- A part of a run adds some news to what the session tells. -/
structure Adds (before after : Session device) (more : List RunNews) : Prop where
  tells : ∀ {runId news}, before.Tells runId news → after.Tells runId (news ++ more)

theorem Quiet.adds {before after : Session device} (quiet : Quiet before after) :
    Adds before after [] where
  tells told := by
    rw [List.append_nil]
    exact ⟨quiet.runId.trans told.own, quiet.events ▸ told.events, quiet.trace ▸ told.trace⟩

theorem Adds.trans {before middle after : Session device} {first second : List RunNews}
    (one : Adds before middle first) (other : Adds middle after second) :
    Adds before after (first ++ second) where
  tells told := by
    rw [← List.append_assoc]
    exact other.tells (one.tells told)

theorem publishAdds (session : Session device) (news : RunNews) (noEntry : news.entry? = none) :
    Adds session (session.publish news) [news] where
  tells told := by
    refine ⟨told.own, ?_, ?_⟩
    · rw [publish, Array.toList_push, told.events, List.map_append, told.own]
      rfl
    · rw [List.filterMap_append, List.filterMap_cons_none noEntry, List.filterMap_nil,
        List.append_nil]
      exact told.trace

theorem warnAdds (session : Session device) (warning : LoopWarning) :
    Adds session (session.warn warning) [.warning warning] where
  tells told :=
    have published := (session.publishAdds (.warning warning) rfl).tells told
    ⟨published.own, published.events, published.trace⟩

theorem Adds.ofEntry {before after : Session device} {entry : TraceEntry}
    (sameRun : after.context.runId = before.context.runId)
    (events : after.events = before.events.push ⟨before.context.runId, .stepFinished entry⟩)
    (trace : after.trace = before.trace.push entry) : Adds before after [.stepFinished entry] where
  tells told := by
    refine ⟨sameRun.trans told.own, ?_, ?_⟩
    · rw [events, Array.toList_push, told.events, List.map_append, told.own]
      rfl
    · rw [trace, Array.toList_push, told.trace, List.filterMap_append]
      rfl

theorem recordAdds (session : Session device) (place : Workplace device) (step : Step) (depth : Nat)
    (outcome : StepOutcome) (notes : StepNotes) (error : Option String) (attempts : UInt32)
    (startedAt : Time.Timestamp) :
    Adds session (session.record place step depth outcome notes error attempts startedAt)
      [.stepFinished (session.entry place step depth outcome notes error attempts startedAt)] :=
  .ofEntry rfl rfl rfl

end Session

namespace Interpreter

theorem startAdds (depth : Nat) (step : Step) (session : Session device) :
    session.Adds (startStep depth step session) [(Started.ofStep depth step).news] :=
  session.publishAdds (Started.ofStep depth step).news rfl

theorem OpenLoop.bindAdds (loop : OpenLoop) (session : Session device) :
    session.Adds (loop.bindIndex session) [] := by
  rw [bindIndex]
  cases loop.rule.indexVariable <;> exact Session.Quiet.adds ⟨rfl, rfl, rfl⟩

/-! ### Ends of loops -/

/-- A loop that is recorded ends by itself, or as the run does. -/
inductive LoopEnding (loop : OpenLoop) (limited : Bool) :
    Option Halt → StepOutcome → Option String → Prop where
  | done : LoopEnding loop limited none (.loop (UInt32.ofNat loop.iterations) limited) none
  | aborted (abort : Abort) : LoopEnding loop limited (some (.aborted abort)) .aborted none
  | failed (error : String) (stepId : Option String) :
      LoopEnding loop limited (some (.failed error stepId)) .error (some error)

theorem LoopEnding.ran {loop : OpenLoop} {limited : Bool} {halt : Option Halt}
    {outcome : StepOutcome} {error : Option String}
    (ends : LoopEnding loop limited halt outcome error) : outcome ≠ .skip := by
  cases ends <;> exact nofun

theorem closeRecords (place : Workplace device) (loop : OpenLoop) (session : Session device)
    (limited : Bool) (halt : Option Halt) (works : halt ≠ some .brokeDown) :
    ∃ outcome error, LoopEnding loop limited halt outcome error ∧
      loop.close place session limited halt =
        session.record place loop.step loop.depth outcome loop.notes error
          (UInt32.ofNat loop.iterations) loop.startedAt := by
  cases halt with
  | none => exact ⟨_, _, .done, rfl⟩
  | some reason =>
      cases reason with
      | aborted abort => exact ⟨_, _, .aborted abort, rfl⟩
      | failed error stepId => exact ⟨_, _, .failed error stepId, rfl⟩
      | brokeDown => exact absurd rfl works

theorem closeAdds (place : Workplace device) (loop : OpenLoop) (session : Session device)
    (limited : Bool) (halt : Option Halt) (works : halt ≠ some .brokeDown) :
    ∃ entry : TraceEntry, entry.started = .ofStep loop.depth loop.step ∧ entry.outcome ≠ .skip ∧
      session.Adds (loop.close place session limited halt) [.stepFinished entry] := by
  obtain ⟨outcome, error, ends, recorded⟩ := closeRecords place loop session limited halt works
  rw [recorded]
  exact ⟨session.entry place loop.step loop.depth outcome loop.notes error
    (UInt32.ofNat loop.iterations) loop.startedAt, rfl, ends.ran, session.recordAdds ..⟩

end Interpreter

end DeskScript
