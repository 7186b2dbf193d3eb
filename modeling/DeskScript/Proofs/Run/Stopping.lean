/-
This file says what a run still does when it has to stop: steps in progress come to their end, and
loops are closed, but no step begins.
-/

import DeskScript.Proofs.Run.Passage
import DeskScript.Proofs.Run.Phases
import DeskScript.Proofs.Run.Telling

namespace DeskScript

variable {device : Type} {place : Workplace device}

/-! ### Sessions -/

namespace Session

/--
While a session winds down, devices may be called, and steps that were in progress are recorded, but
none is passed over and nothing else is published.
-/
structure WindsDown (place : Workplace device) (before after : Session device)
    (records : List CallRecord) (entries : List TraceEntry) : Prop where
  runId : after.context.runId = before.context.runId
  later : RunContext.Later before.context after.context
  calls : after.calls.toList = before.calls.toList ++ records
  trace : after.trace.toList = before.trace.toList ++ entries
  events : after.events.toList = before.events.toList ++
    entries.map fun entry => ⟨before.context.runId, .stepFinished entry⟩
  ran : ∀ entry ∈ entries, entry.outcome ≠ .skip
  timely : ∀ entry ∈ entries, ∃ time, before.context.now ≤ time ∧ time ≤ after.context.now ∧
    entry.finishedAt = place.origin.addMilliseconds time

theorem Proceeds.windsDown {before after : Session device} {records : List CallRecord}
    (proceeds : Proceeds before after records) : WindsDown place before after records [] where
  runId := proceeds.quiet.runId
  later := proceeds.later
  calls := proceeds.calls
  trace := by rw [proceeds.quiet.trace, List.append_nil]
  events := by rw [proceeds.quiet.events, List.map_nil, List.append_nil]
  ran _ member := absurd member List.not_mem_nil
  timely _ member := absurd member List.not_mem_nil

theorem WindsDown.trans {before middle after : Session device} {first second : List CallRecord}
    {earlier later : List TraceEntry} (one : WindsDown place before middle first earlier)
    (other : WindsDown place middle after second later) :
    WindsDown place before after (first ++ second) (earlier ++ later) where
  runId := other.runId.trans one.runId
  later := one.later.trans other.later
  calls := by rw [other.calls, one.calls, List.append_assoc]
  trace := by rw [other.trace, one.trace, List.append_assoc]
  events := by rw [other.events, one.events, one.runId, List.map_append, List.append_assoc]
  ran entry member := (List.mem_append.mp member).elim (one.ran entry) (other.ran entry)
  timely entry member := by
    obtain before | after := List.mem_append.mp member
    · obtain ⟨time, lower, upper, isTime⟩ := one.timely entry before
      exact ⟨time, lower, Nat.le_trans upper other.later.now, isTime⟩
    · obtain ⟨time, lower, upper, isTime⟩ := other.timely entry after
      exact ⟨time, Nat.le_trans one.later.now lower, upper, isTime⟩

theorem recordWindsDown (session : Session device) (step : Step) (depth : Nat)
    {outcome : StepOutcome} (ran : outcome ≠ .skip) (notes : StepNotes) (error : Option String)
    (attempts : UInt32) (startedAt : Time.Timestamp) :
    WindsDown place session
      (session.record place step depth outcome notes error attempts startedAt) []
      [session.entry place step depth outcome notes error attempts startedAt] where
  runId := rfl
  later := .refl session.context
  calls := (List.append_nil _).symm
  trace := Array.toList_push
  events := Array.toList_push
  ran entry member := by
    rw [List.mem_singleton.mp member]
    exact ran
  timely entry member := by
    rw [List.mem_singleton.mp member]
    exact ⟨session.context.now, Nat.le_refl _, Nat.le_refl _, rfl⟩

end Session

namespace Interpreter

theorem closeWindsDown (loop : OpenLoop) (session : Session device) (halt : Option Halt) :
    ∃ entries, session.WindsDown place (loop.close place session false halt) [] entries := by
  by_cases works : halt = some .brokeDown
  · rw [works]
    exact ⟨[], (Session.Proceeds.refl session).windsDown⟩
  · obtain ⟨outcome, error, ends, recorded⟩ := closeRecords place loop session false halt works
    rw [recorded]
    exact ⟨_, session.recordWindsDown loop.step loop.depth ends.ran loop.notes error _ _⟩

theorem closeContext (loop : OpenLoop) (session : Session device) (limited : Bool)
    (halt : Option Halt) :
    (loop.close place session limited halt).context = session.context := by
  cases halt with
  | none => rfl
  | some reason => cases reason <;> rfl

/-! ### Moments -/

/-- These are the ways from one moment to the next of a run that has to stop. -/
inductive StoppedMove (place : Workplace device) : Moment device → Moment device → Prop where
  | idle (session : Session device) (halt : Option Halt) :
      StoppedMove place ⟨session, halt, []⟩ ⟨session, halt, []⟩
  | dropped (session : Session device) (reason : Halt) (task : Task) (tasks : List Task) :
      StoppedMove place ⟨session, some reason, task :: tasks⟩ ⟨session, some reason, tasks⟩
  | exhausted (session : Session device) (depth : Nat) (tasks : List Task) :
      StoppedMove place ⟨session, none, .steps depth [] :: tasks⟩ ⟨session, none, tasks⟩
  | stopped (session : Session device) (abort : Abort) (task : Task) (tasks : List Task) :
      StoppedMove place ⟨session, none, task :: tasks⟩ ⟨session, some (.aborted abort), tasks⟩
  | loopStopped (session : Session device) (abort : Abort) (loop later : OpenLoop)
      (tasks : List Task) :
      StoppedMove place ⟨session, none, .loop loop :: tasks⟩
        ⟨session, some (.aborted abort), .loop later :: tasks⟩
  | closed (session : Session device) (halt : Option Halt) (loop : OpenLoop) (tasks : List Task) :
      StoppedMove place ⟨session, halt, .loop loop :: tasks⟩
        ⟨loop.close place session false halt, halt, tasks⟩

theorem stoppedNext (place : Workplace device) (moment : Moment device)
    (stopped : moment.session.context.Stopped) : StoppedMove place moment (moment.next place) := by
  obtain ⟨session, halt, tasks⟩ := moment
  have stops (stepId : String) (undone : List Task) (next : Moment device) :
      ∃ abort, Moment.checkpoint session stepId undone next =
        ⟨session, some (.aborted abort), undone⟩ := by
    obtain ⟨abort, isAbort⟩ := RunContext.checkpointStopped stopped (some stepId)
    exact ⟨abort, by rw [Moment.checkpoint, isAbort]⟩
  cases tasks with
  | nil => cases halt <;> exact .idle session _
  | cons task tasks =>
      cases halt with
      | some reason =>
          cases task with
          | loop loop => exact .closed session (some reason) loop tasks
          | _ => exact .dropped session reason _ tasks
      | none =>
          rw [Moment.next]
          cases task with
          | steps depth steps =>
              cases steps with
              | nil => exact .exhausted session depth tasks
              | cons step rest =>
                  rw [Task.perform]
                  obtain ⟨abort, isNext⟩ := stops step.id []
                    ((begin place depth step session).andThen [.check step.id, .steps depth rest])
                  rw [isNext]
                  exact .stopped session abort _ tasks
          | check stepId =>
              rw [Task.perform]
              obtain ⟨abort, isNext⟩ := stops stepId [] ⟨session, none, []⟩
              rw [isNext]
              exact .stopped session abort _ tasks
          | loop loop =>
              rw [Task.perform, OpenLoop.turn]
              cases loop.rule.mode with
              | count times =>
                  cases isLeft : loop.left with
                  | zero => exact .closed session none loop tasks
                  | succ left =>
                      simp only [OpenLoop.iterate]
                      obtain ⟨abort, isNext⟩ := stops loop.header.id _ _
                      rw [isNext]
                      exact .loopStopped session abort loop _ tasks
              | while_ condition =>
                  obtain ⟨abort, isNext⟩ := stops loop.header.id [.loop loop] _
                  simp only
                  rw [isNext]
                  exact .loopStopped session abort loop loop tasks

theorem StoppedMove.windsDown {before after : Moment device}
    (moves : StoppedMove place before after) :
    ∃ entries, before.session.WindsDown place after.session [] entries := by
  cases moves with
  | closed session halt loop tasks => exact closeWindsDown loop session halt
  | _ => exact ⟨[], (Session.Proceeds.refl _).windsDown⟩

theorem StoppedMove.context {before after : Moment device}
    (moves : StoppedMove place before after) :
    after.session.context = before.session.context := by
  cases moves with
  | closed session halt loop tasks => exact closeContext loop session false halt
  | _ => rfl

/-- A run that has to stop opens no leaf step. -/
theorem opensNone {moment : Moment device} (stopped : moment.session.context.Stopped) :
    moment.opens? place = none := by
  cases isOpen : moment.opens? place with
  | none => rfl
  | some opened =>
      cases opensOfSome isOpen with
      | leaf session depth header action rest tasks begins =>
          exact absurd stopped (RunContext.freeOfCheckpoint begins.passed)

/-! ### Instants of a leaf step -/

namespace Instant

/-- The device is about to inject an input action. -/
def isPress : Instant device → Bool
  | .within _ leaf _ => leaf.phase.isPress
  | .between _ => false

def halt : Instant device → Option Halt
  | .between moment => moment.halt
  | .within _ _ _ => none

/-- Some step has been started and is not over yet, if the run has not halted. -/
def InProgress (instant : Instant device) : Prop :=
  ∃ stepId, Task.check stepId ∈ instant.tasks

/-- The action of the leaf step that is in progress injects no input unless it finds a match. -/
def Patient : Instant device → Prop
  | .between _ => True
  | .within _ leaf _ => Leaf.waits leaf.action = true

end Instant

namespace OpenLeaf

/-- After an attempt the step is tried again, or it is recorded unless a device broke down. -/
inductive Concluded (place : Workplace device) (leaf : OpenLeaf) (session : Session device)
    (tasks : List Task) (notes : StepNotes) : Instant device → Prop where
  | repeated (left : Nat) (isLeft : leaf.left = left + 1) :
      Concluded place leaf session tasks notes (.within session (leaf.again left) tasks)
  | succeeded :
      Concluded place leaf session tasks notes
        (.within (leaf.record place session .success notes none) { leaf with phase := .rest } tasks)
  | recorded (outcome : StepOutcome) (error : Option String) (halt : Option Halt)
      (ran : outcome ≠ .skip) :
      Concluded place leaf session tasks notes
        (.between ⟨leaf.record place session outcome notes error, halt, tasks⟩)
  | brokeDown :
      Concluded place leaf session tasks notes (.between ⟨session, some .brokeDown, tasks⟩)

theorem failConcluded (leaf : OpenLeaf) (session : Session device) (tasks : List Task)
    (notes : StepNotes) (failure : StepFailure) :
    Concluded place leaf session tasks notes
      (leave tasks (leaf.fail place session notes failure)) := by
  have ran : failure.outcome ≠ .skip := by cases failure <;> exact nofun
  rw [fail, Leaf.fail]
  split <;> exact .recorded failure.outcome (some failure.message) _ ran

theorem concluded (place : Workplace device) (leaf : OpenLeaf) (session : Session device)
    (tasks : List Task) (notes : StepNotes) (ending : ActionEnd) :
    Concluded place leaf session tasks notes (leaf.conclude place session tasks notes ending) := by
  have again (failure : StepFailure) : Concluded place leaf session tasks notes
      (leaf.tryAgain place session tasks notes failure) := by
    rw [tryAgain]
    cases isLeft : leaf.left with
    | zero => exact leaf.failConcluded session tasks notes failure
    | succ left =>
        simp only
        split
        · exact .repeated left isLeft
        · exact leaf.failConcluded session tasks notes failure
  cases ending with
  | done => exact .succeeded
  | brokeDown => exact .brokeDown
  | failed failure =>
      cases failure with
      | aborted abort => exact .recorded .aborted none _ (by simp)
      | _ => exact again _

theorem Concluded.windsDown {leaf : OpenLeaf} {session : Session device} {tasks : List Task}
    {notes : StepNotes} {instant : Instant device}
    (concluded : Concluded place leaf session tasks notes instant) :
    ∃ entries, session.WindsDown place instant.session [] entries := by
  cases concluded with
  | repeated left => exact ⟨[], (Session.Proceeds.refl session).windsDown⟩
  | succeeded =>
      have ran : StepOutcome.success ≠ .skip := by simp
      exact ⟨_, session.recordWindsDown leaf.step leaf.depth ran notes none _ _⟩
  | recorded outcome error halt ran =>
      exact ⟨_, session.recordWindsDown leaf.step leaf.depth ran notes error _ _⟩
  | brokeDown => exact ⟨[], (Session.Proceeds.refl session).windsDown⟩

theorem Concluded.context {leaf : OpenLeaf} {session : Session device} {tasks : List Task}
    {notes : StepNotes} {instant : Instant device}
    (concluded : Concluded place leaf session tasks notes instant) :
    instant.session.context = session.context := by
  cases concluded <;> rfl

/-- After an attempt no input action is about to be injected at once. -/
theorem Concluded.isPress {leaf : OpenLeaf} {session : Session device} {tasks : List Task}
    {notes : StepNotes} {instant : Instant device}
    (concluded : Concluded place leaf session tasks notes instant) : instant.isPress = false := by
  cases concluded <;> rfl

theorem Concluded.patient {leaf : OpenLeaf} {session : Session device} {tasks : List Task}
    {notes : StepNotes} {instant : Instant device}
    (concluded : Concluded place leaf session tasks notes instant)
    (patient : Leaf.waits leaf.action = true) : instant.Patient := by
  cases concluded with
  | repeated left => exact patient
  | succeeded => exact patient
  | recorded => trivial
  | brokeDown => trivial

theorem Concluded.tasks {leaf : OpenLeaf} {session : Session device} {tasks : List Task}
    {notes : StepNotes} {instant : Instant device}
    (concluded : Concluded place leaf session tasks notes instant) : instant.tasks = tasks := by
  cases concluded <;> rfl

/-- An attempt that has not ended goes on with its next phase. -/
theorem nextAdvance {leaf : OpenLeaf} (session : Session device) (tasks : List Task)
    (going : leaf.phase.isOver = false) :
    leaf.next place session tasks =
      leaf.enter tasks (Leaf.advance place leaf.header.id leaf.action session leaf.phase) := by
  obtain ⟨header, action, depth, startedAt, left, number, phase⟩ := leaf
  cases phase with
  | tried notes ending => cases going
  | rest => cases going
  | _ => rfl

theorem finishSession (leaf : OpenLeaf) (session : Session device) :
    (leaf.finish place session).1 = (session.sleep place.config.stepDelay.toNat).1 := by
  rw [finish]
  obtain ⟨after, _ | reason⟩ := session.sleep place.config.stepDelay.toNat <;> rfl

/-- In the course of a leaf step no other step begins, and input is injected in one phase only. -/
theorem windsDown (place : Workplace device) (leaf : OpenLeaf) (session : Session device)
    (tasks : List Task) :
    ∃ records entries,
      session.WindsDown place (leaf.next place session tasks).session records entries ∧
      ((∃ record ∈ records, record.injects = true) ↔ leaf.phase.isPress = true) := by
  cases isOver : leaf.phase.isOver with
  | false =>
      obtain ⟨records, proceeds, injects⟩ :=
        Leaf.advanceProceeds place leaf.header.id leaf.action session leaf.phase
      rw [nextAdvance session tasks isOver]
      exact ⟨records, [], proceeds.windsDown, injects⟩
  | true =>
      obtain ⟨header, action, depth, startedAt, left, number, phase⟩ := leaf
      cases phase with
      | tried notes ending =>
          have concludes := concluded place
            ⟨header, action, depth, startedAt, left, number, .tried notes ending⟩ session tasks
            notes ending
          obtain ⟨entries, winds⟩ := concludes.windsDown
          exact ⟨[], entries, winds, nofun, nofun⟩
      | rest =>
          have finished : (next ⟨header, action, depth, startedAt, left, number, .rest⟩
              place session tasks).session = (session.sleep place.config.stepDelay.toNat).1 :=
            finishSession _ session
          rw [finished]
          exact ⟨[], [], (session.sleepProceeds _).windsDown, nofun, nofun⟩
      | _ => cases isOver

/-- As long as a leaf step is in progress, it goes on in one of these ways. -/
inductive Continues (place : Workplace device) (session : Session device) (leaf : OpenLeaf) :
    Session device → OpenLeaf → Prop where
  | advanced (going : leaf.phase.isOver = false) :
      Continues place session leaf
        (Leaf.advance place leaf.header.id leaf.action session leaf.phase).1
        { leaf with
          phase := (Leaf.advance place leaf.header.id leaf.action session leaf.phase).2 }
  | again (left : Nat) (isLeft : leaf.left = left + 1) :
      Continues place session leaf session (leaf.again left)
  | rested (after : Session device) :
      Continues place session leaf after { leaf with phase := .rest }

theorem continues {earlier later : OpenLeaf} {before after : Session device}
    {tasks others : List Task}
    (isNext : earlier.next place before tasks = .within after later others) :
    Continues place before earlier after later := by
  cases isOver : earlier.phase.isOver with
  | false =>
      rw [nextAdvance before tasks isOver] at isNext
      cases isNext
      exact .advanced isOver
  | true =>
      obtain ⟨header, action, depth, startedAt, left, number, phase⟩ := earlier
      cases phase with
      | tried notes ending =>
          have concludes := concluded place
            ⟨header, action, depth, startedAt, left, number, .tried notes ending⟩ before tasks notes
            ending
          change conclude _ place before tasks notes ending = _ at isNext
          rw [isNext] at concludes
          cases concludes with
          | repeated left isLeft => exact .again left isLeft
          | succeeded => exact .rested _
      | rest => cases isNext
      | _ => cases isOver

/-- A leaf step does not touch the tasks after it. -/
theorem nextTasks (place : Workplace device) (leaf : OpenLeaf) (session : Session device)
    (tasks : List Task) : (leaf.next place session tasks).tasks = tasks := by
  obtain ⟨header, action, depth, startedAt, left, number, phase⟩ := leaf
  cases phase with
  | tried notes ending => exact (concluded place _ session tasks notes ending).tasks
  | _ => rfl

end OpenLeaf

/-! ### Instants -/

namespace Instant

theorem nextBetween {moment : Moment device} (stopped : moment.session.context.Stopped) :
    (Instant.between moment).next place = .between (moment.next place) := by
  rw [next, opensNone stopped]
  rfl

/-- In a run that has to stop no step begins, and input is injected only if it is due. -/
theorem windsDownNext (place : Workplace device) {instant : Instant device}
    (stopped : instant.Stopped) :
    ∃ records entries,
      instant.session.WindsDown place (instant.next place).session records entries ∧
      ((∃ record ∈ records, record.injects = true) ↔ instant.isPress = true) := by
  cases instant with
  | between moment =>
      obtain ⟨entries, winds⟩ := (stoppedNext place moment stopped).windsDown
      rw [nextBetween stopped]
      exact ⟨[], entries, winds, nofun, nofun⟩
  | within session leaf tasks => exact leaf.windsDown place session tasks

/-- A run is busy when a step is in progress, and also when it has halted. -/
def Busy (instant : Instant device) : Prop := instant.InProgress ∨ instant.halt ≠ none

theorem busyNext (place : Workplace device) {instant : Instant device} (stopped : instant.Stopped)
    (busy : instant.Busy) : (instant.next place).Busy := by
  cases instant with
  | between moment =>
      rw [nextBetween stopped]
      have moves := stoppedNext place moment stopped
      generalize moment.next place = later at moves ⊢
      -- The checkpoint behind the step is not dropped before the run halts.
      cases moves with
      | idle => exact busy
      | dropped => exact .inr nofun
      | exhausted session depth tasks =>
          obtain ⟨stepId, member⟩ := busy.resolve_right (not_not_intro rfl)
          exact .inl ⟨stepId, (List.mem_cons.mp member).resolve_left nofun⟩
      | stopped => exact .inr nofun
      | loopStopped => exact .inr nofun
      | closed session halt loop tasks =>
          refine busy.imp_left fun ⟨stepId, member⟩ => ⟨stepId, ?_⟩
          exact (List.mem_cons.mp member).resolve_left nofun
  | within session leaf tasks =>
      obtain ⟨stepId, member⟩ := busy.resolve_right (not_not_intro rfl)
      refine .inl ⟨stepId, ?_⟩
      rw [next, leaf.nextTasks place]
      exact member

/-! ### Time -/

/-- This is the time that an input action takes which is about to be injected. -/
def overdue (place : Workplace device) : Instant device → Nat
  | .between _ => 0
  | .within session leaf _ =>
      match leaf.phase with
      | .press _ action => (session.note place (.input action)).2
      | _ => 0

theorem overdueNone {instant : Instant device} (idle : instant.isPress = false) :
    instant.overdue place = 0 := by
  cases instant with
  | between moment => rfl
  | within session leaf tasks =>
      rw [overdue]
      split
      · rename_i isPress
        change leaf.phase.isPress = false at idle
        rw [isPress] at idle
        cases idle
      · rfl

/-- This is the time at which a run that has to stop is over. -/
def due (place : Workplace device) (instant : Instant device) : Nat :=
  instant.session.context.now + instant.overdue place

theorem dueOfIdle {instant : Instant device} (idle : instant.isPress = false) :
    instant.due place = instant.session.context.now := by
  rw [due, overdueNone idle, Nat.add_zero]

theorem dueUnchanged {before after : Instant device} (idleBefore : before.isPress = false)
    (idleAfter : after.isPress = false)
    (now : after.session.context.now = before.session.context.now) :
    after.due place = before.due place := by
  rw [dueOfIdle idleBefore, dueOfIdle idleAfter, now]

theorem pressDue (session : Session device) (leaf : OpenLeaf) (tasks : List Task)
    (notes : StepNotes) (action : InputAction) :
    (leaf.enter tasks (Leaf.press place session notes action)).due place =
      (leaf.enter tasks (session, .press notes action)).due place := by
  have noted : (session.note place (.input action)).1.context.now = session.context.now :=
    session.noteNow place (.input action)
  rw [dueOfIdle rfl]
  calc (session.input place action).1.context.now
      = (session.note place (.input action)).1.context.now +
          (session.note place (.input action)).2 := RunContext.passNow _ _
    _ = session.context.now + (session.note place (.input action)).2 := by rw [noted]

theorem abortedDue {session : Session device} (stopped : session.context.Stopped)
    (underway : session.context.Underway) {leaf : OpenLeaf} (tasks : List Task)
    (waiting : leaf.phase.isWaiting = true) :
    (leaf.enter tasks
      (Leaf.advance place leaf.header.id leaf.action session leaf.phase)).due place =
      (Instant.within session leaf tasks).due place := by
  have aborted := Leaf.advanceAborted place stopped leaf.header.id leaf.action waiting
  obtain ⟨notes, abort, isTried⟩ := aborted.ends
  exact dueUnchanged (Leaf.Phase.isPressWaiting waiting) (congrArg Leaf.Phase.isPress isTried)
    (aborted.now underway)

/-- The clock of a run that has to stop goes on only while an input action is injected. -/
theorem dueNext (place : Workplace device) {instant : Instant device} (stopped : instant.Stopped)
    (underway : instant.session.context.Underway) (patient : instant.Patient) :
    (instant.next place).Patient ∧ (instant.next place).due place = instant.due place := by
  cases instant with
  | between moment =>
      have moves := stoppedNext place moment stopped
      rw [nextBetween stopped]
      exact ⟨trivial, dueUnchanged rfl rfl (congrArg RunContext.now moves.context)⟩
  | within session leaf tasks =>
      obtain ⟨header, action, depth, startedAt, left, number, phase⟩ := leaf
      cases phase with
      | begin =>
          have prepared := Leaf.actionPrepared header.id session action
          have idle : (Leaf.prepare header.id session action).2.isPress = false := by
            refine Bool.eq_false_iff.mpr fun pressing => ?_
            have impatient := prepared.follows.impatient pressing
            rw [show Leaf.waits action = true from patient] at impatient
            cases impatient
          exact ⟨patient, dueUnchanged rfl idle (congrArg RunContext.now prepared.context)⟩
      | press notes input => exact ⟨patient, pressDue session _ tasks notes input⟩
      | tried notes ending =>
          have concludes := OpenLeaf.concluded place
            ⟨header, action, depth, startedAt, left, number, .tried notes ending⟩ session tasks
            notes ending
          exact ⟨concludes.patient patient, dueUnchanged rfl concludes.isPress
            (congrArg RunContext.now concludes.context)⟩
      | rest =>
          have finished : (OpenLeaf.next ⟨header, action, depth, startedAt, left, number, .rest⟩
              place session tasks).session = (session.sleep place.config.stepDelay.toNat).1 :=
            OpenLeaf.finishSession _ session
          refine ⟨trivial, dueUnchanged rfl rfl ?_⟩
          rw [next, finished]
          exact RunContext.sleepStopped underway stopped _
      | wait duration => exact ⟨patient, abortedDue stopped underway _ rfl⟩
      | look search => exact ⟨patient, abortedDue stopped underway _ rfl⟩
      | pause search duration => exact ⟨patient, abortedDue stopped underway _ rfl⟩

end Instant

end Interpreter

end DeskScript
