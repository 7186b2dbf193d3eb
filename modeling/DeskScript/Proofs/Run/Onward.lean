/-
This file shows that a run only adds to its events, and that all it adds from one instant to the
next is news about its steps. This is also so when a device breaks down.
-/

import DeskScript.Proofs.Run.Interruption

namespace DeskScript

variable {device : Type} {place : Workplace device}

/-- The steps of a run tell nothing of the state of the engine, or of the outcome of the run. -/
def RunNews.isAboutSteps : RunNews → Bool
  | .stepStarted .. | .stepFinished _ | .warning _ => true
  | .stateChanged _ | .runFinished _ => false

namespace Session

/-- A session goes on when it publishes nothing but news about the steps of its run. -/
structure Onward (before after : Session device) : Prop where
  runId : after.context.runId = before.context.runId
  events : ∃ more : List RunNews, (∀ news ∈ more, news.isAboutSteps = true) ∧
    after.events.toList = before.events.toList ++ more.map (RunEvent.mk before.context.runId)

namespace Onward

/-- A session that publishes nothing goes on. -/
theorem silent {before after : Session device}
    (runId : after.context.runId = before.context.runId) (events : after.events = before.events) :
    Onward before after where
  runId
  events := by
    refine ⟨[], fun news member => absurd member List.not_mem_nil, ?_⟩
    rw [events, List.map_nil, List.append_nil]

theorem refl (session : Session device) : Onward session session := silent rfl rfl

theorem trans {before middle after : Session device} (one : Onward before middle)
    (other : Onward middle after) : Onward before after where
  runId := other.runId.trans one.runId
  events := by
    obtain ⟨first, firstSteps, firstEvents⟩ := one.events
    obtain ⟨second, secondSteps, secondEvents⟩ := other.events
    refine ⟨first ++ second, ?_, ?_⟩
    · intro news member
      exact (List.mem_append.mp member).elim (firstSteps news) (secondSteps news)
    · rw [secondEvents, firstEvents, one.runId, List.map_append, List.append_assoc]

/-- What publishes one piece of news goes on, whatever else it notes. -/
theorem told {before after : Session device} (news : RunNews) (about : news.isAboutSteps = true)
    (runId : after.context.runId = before.context.runId)
    (events : after.events = before.events.push ⟨before.context.runId, news⟩) :
    Onward before after where
  runId
  events := by
    refine ⟨[news], ?_, by rw [events, Array.toList_push]; rfl⟩
    intro other member
    rw [List.mem_singleton.mp member]
    exact about

theorem record (session : Session device) (place : Workplace device) (step : Step) (depth : Nat)
    (outcome : StepOutcome) (notes : StepNotes) (error : Option String) (attempts : UInt32)
    (startedAt : Time.Timestamp) :
    Onward session
      (session.record place step depth outcome notes error attempts startedAt) :=
  told (.stepFinished (session.entry place step depth outcome notes error attempts startedAt))
    rfl rfl rfl

theorem start (depth : Nat) (step : Step) (session : Session device) :
    Onward session (Interpreter.startStep depth step session) :=
  told (.stepStarted step.id step.stepType (UInt64.ofNat depth)) rfl rfl rfl

end Onward

theorem WindsDown.onward {before after : Session device} {records : List CallRecord}
    {entries : List TraceEntry} (winds : WindsDown place before after records entries) :
    Onward before after where
  runId := winds.runId
  events := by
    refine ⟨entries.map RunNews.stepFinished, ?_, by rw [winds.events, List.map_map]; rfl⟩
    intro news member
    obtain ⟨entry, -, rfl⟩ := List.mem_map.mp member
    rfl

end Session

namespace Interpreter

open Session (Onward)

theorem closeOnward (loop : OpenLoop) (session : Session device) (halt : Option Halt) :
    Onward session (loop.close place session false halt) := by
  obtain ⟨entries, winds⟩ := @closeWindsDown _ place loop session halt
  exact winds.onward

/-- Between two leaf steps a run goes on. -/
theorem closedOnward {moment : Moment device} (closed : moment.opens? place = none) :
    Onward moment.session (moment.next place).session := by
  have moves : Move place moment (moment.next place) := moveOfNext moment
  generalize moment.next place = later at moves
  cases moves with
  | leaf session depth header action rest tasks begins =>
      rw [leafOpens begins] at closed
      cases closed
  | unwound session reason loop tasks => exact closeOnward loop session (some reason)
  | skipped session depth step rest tasks => exact .record session place step depth ..
  | branch session depth header condition whenTrue whenFalse =>
      exact (Onward.start depth _ session).trans (.record ..)
  | loop session depth header rule body => exact .start depth _ session
  | iterated session loop later tasks =>
      apply Onward.silent
      · rw [later.bindIndexContext]
      · rw [OpenLoop.bindIndex]
        cases later.rule.indexVariable <;> rfl
  | ended session loop later tasks => exact closeOnward later session none
  | limited session loop later tasks =>
      obtain ⟨outcome, error, -, recorded⟩ := closeRecords place later
        (session.warn ⟨loop.header.id, loop.rule.limit⟩) true none worksOfNone
      have warned : Onward session (session.warn ⟨loop.header.id, loop.rule.limit⟩) :=
        .told (.warning ⟨loop.header.id, loop.rule.limit⟩) rfl rfl rfl
      rw [recorded]
      exact warned.trans (.record ..)
  | _ => exact .refl _

/-- From one instant to the next a run goes on. -/
theorem Instant.onwardNext (place : Workplace device) (instant : Instant device) :
    Onward instant.session (instant.next place).session := by
  cases instant with
  | between moment =>
      cases isOpen : moment.opens? place with
      | none =>
          rw [nextClosed isOpen]
          exact closedOnward isOpen
      | some opened =>
          rw [nextOpened isOpen]
          cases opensOfSome isOpen
          exact .start _ _ _
  | within session leaf tasks =>
      obtain ⟨records, entries, winds, -⟩ := leaf.windsDown place session tasks
      exact winds.onward

end Interpreter

end DeskScript
