/-
This file shows between which instants a run comes to have to stop: always while a leaf step is in
progress, and a step that waits then waits no longer than it has to.
-/

import DeskScript.Proofs.Run.Stopping

namespace DeskScript

variable {device : Type} {place : Workplace device}

namespace Interpreter

/-! ### Clocks -/

theorem leafOpens {session : Session device} {depth : Nat} {header : StepHeader} {action : Action}
    (begins : Begins place session depth (.leaf header action)) (rest : List Step)
    (tasks : List Task) :
    Moment.opens? place ⟨session, none, .steps depth (.leaf header action :: rest) :: tasks⟩ =
      some (Moment.openLeaf place session depth header action rest tasks) :=
  if_pos ⟨begins.passed, begins.fits, begins.enabled⟩

/-- Between two leaf steps the clock stands still. -/
theorem closedContext {moment : Moment device} (closed : moment.opens? place = none) :
    (moment.next place).session.context = moment.session.context := by
  have moves : Move place moment (moment.next place) := moveOfNext moment
  generalize moment.next place = later at moves
  cases moves with
  | leaf session depth header action rest tasks begins =>
      rw [leafOpens begins] at closed
      cases closed
  | unwound session reason loop tasks => exact closeContext loop session false (some reason)
  | iterated session loop later tasks => exact later.bindIndexContext session
  | ended session loop later tasks => exact closeContext later session false none
  | limited session loop later tasks => exact closeContext later _ true none
  | _ => rfl

namespace Instant

/-- A run passes from one leaf step to the next, or it goes on within a leaf step. -/
theorem nextOpened {moment : Moment device} {opened : Instant device}
    (isOpen : moment.opens? place = some opened) :
    (Instant.between moment).next place = opened := by
  rw [next, isOpen]
  rfl

theorem nextClosed {moment : Moment device} (closed : moment.opens? place = none) :
    (Instant.between moment).next place = .between (moment.next place) := by
  rw [next, closed]
  rfl

/-- Between two leaf steps the clock stands still, also when the second one is opened. -/
theorem contextBetween (moment : Moment device) :
    ((Instant.between moment).next place).session.context = moment.session.context := by
  cases isOpen : moment.opens? place with
  | none =>
      rw [nextClosed isOpen]
      exact closedContext isOpen
  | some opened =>
      rw [nextOpened isOpen]
      cases opensOfSome isOpen
      rfl

/-- Between two instants of a run its deadline stays as it is, and the clock does not go back. -/
theorem laterNext (place : Workplace device) (instant : Instant device) :
    RunContext.Later instant.session.context (instant.next place).session.context := by
  cases instant with
  | between moment =>
      rw [contextBetween]
      exact .refl _
  | within session leaf tasks =>
      obtain ⟨records, entries, winds, -⟩ := leaf.windsDown place session tasks
      exact winds.later

theorem laterAlong {first last : Instant device} (passes : Passes place first last) :
    RunContext.Later first.session.context last.session.context := by
  induction passes with
  | refl => exact .refl _
  | tail _ next inductionHypothesis =>
      exact inductionHypothesis.trans (next ▸ laterNext place _)

/-! ### Leaf steps in progress -/

/-- There is a checkpoint behind a step in progress, and it waits only if its action is to wait. -/
def Sound : Instant device → Prop
  | .between _ => True
  | .within _ leaf tasks =>
      (∃ stepId, Task.check stepId ∈ tasks) ∧
      (leaf.phase.isWaiting = true → Leaf.waits leaf.action = true)

theorem soundNext (place : Workplace device) {instant : Instant device} (sound : instant.Sound) :
    (instant.next place).Sound := by
  cases instant with
  | between moment =>
      cases isOpen : moment.opens? place with
      | none =>
          rw [nextClosed isOpen]
          trivial
      | some opened =>
          rw [nextOpened isOpen]
          cases opensOfSome isOpen with
          | leaf session depth header => exact ⟨⟨header.id, List.mem_cons_self⟩, nofun⟩
  | within before earlier others =>
      obtain ⟨progress, patient⟩ := sound
      have sameTasks := earlier.nextTasks place before others
      rw [Instant.next]
      generalize isNext : earlier.next place before others = later at sameTasks
      cases later with
      | between moment => trivial
      | within after leaf tasks =>
          refine ⟨(show tasks = others from sameTasks) ▸ progress, fun waiting => ?_⟩
          cases OpenLeaf.continues isNext with
          | advanced going =>
              have follows :=
                Leaf.advanceFollows place earlier.header.id earlier.action before going
              exact (follows.waiting waiting).elim patient id
          | again left isLeft => cases waiting
          | rested => cases waiting

theorem soundAlong {first last : Instant device} (passes : Passes place first last)
    (sound : first.Sound) : last.Sound := by
  induction passes with
  | refl => exact sound
  | tail _ next inductionHypothesis => exact next ▸ soundNext place inductionHypothesis

/-! ### The instant before a run has to stop -/

/-- Only while a leaf step is in progress a run comes to have to stop. -/
theorem stopsWithin {instant : Instant device} (going : ¬instant.Stopped)
    (stops : (instant.next place).Stopped) :
    ∃ session leaf tasks, instant = .within session leaf tasks := by
  cases instant with
  | between moment =>
      rw [Stopped, contextBetween] at stops
      exact absurd stops going
  | within session leaf tasks => exact ⟨session, leaf, tasks, rfl⟩

/-- A step that sleeps or polls does so from this point of the clock on. -/
def waitingFrom (place : Workplace device) : Instant device → Option RunContext
  | .between _ => none
  | .within session leaf _ =>
      match leaf.phase with
      | .wait _ | .pause .. | .rest => some session.context
      | .look search => some (session.note place (.look search.wait.look)).1.context
      | _ => none

theorem lookWorks {session : Session device} (going : ¬session.context.Stopped)
    (search : Leaf.Search) :
    (Leaf.lookOnce place session search).1.context =
      ((session.note place (.look search.wait.look)).1.context.work
        (session.note place (.look search.wait.look)).2).1 := by
  have looked := session.lookContext place search.wait.look
  rw [Leaf.lookOnce, RunContext.checkpointFree going]
  simp only
  generalize session.look place search.wait.look = looking at looked
  obtain ⟨after, reason | found | _ | unavailable | _⟩ := looking
  · exact looked
  · exact (Leaf.beginClickContext after _ _ found).trans looked
  · simp only
    split <;> exact looked
  · exact looked
  · exact looked

/-- A step that waits lets time pass, but no longer than the run goes on. -/
theorem waitingWorks {instant : Instant device} (going : ¬instant.Stopped) {context : RunContext}
    (waiting : instant.waitingFrom place = some context) :
    RunContext.Later instant.session.context context ∧
    ∃ duration, (instant.next place).session.context = (context.work duration).1 := by
  cases instant with
  | between moment => cases waiting
  | within session leaf tasks =>
      obtain ⟨header, action, depth, startedAt, left, number, phase⟩ := leaf
      cases phase with
      | wait duration =>
          cases waiting
          refine ⟨.refl _, duration, ?_⟩
          rw [← RunContext.sleepNow]
          exact congrArg Session.context (Leaf.wakeUpSession session _ _ duration _ fun _ => rfl)
      | look search =>
          cases waiting
          exact ⟨(session.noteProceeds (.look search.wait.look)).later, _, lookWorks going search⟩
      | pause search duration =>
          cases waiting
          refine ⟨.refl _, duration, ?_⟩
          rw [← RunContext.sleepNow]
          exact congrArg Session.context
            (Leaf.wakeUpSession session _ _ duration _ (Leaf.lookAgainSession search))
      | rest =>
          cases waiting
          refine ⟨.refl _, place.config.stepDelay.toNat, ?_⟩
          rw [← RunContext.sleepNow]
          exact congrArg Session.context (OpenLeaf.finishSession _ session)
      | _ => cases waiting

end Instant

end Interpreter

end DeskScript
