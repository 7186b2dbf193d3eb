/-
This file shows that a run that has to stop stays so, and that it does not sleep any more. A sleep
never goes on beyond the time at which the run has to stop.
-/

import DeskScript.Run.Context

namespace DeskScript

namespace RunContext

/-- The run has been cancelled or its time is over. -/
def Stopped (context : RunContext) : Prop := context.abortReason ≠ none

instance (context : RunContext) : Decidable context.Stopped :=
  inferInstanceAs (Decidable (context.abortReason ≠ none))

theorem stoppedIff (context : RunContext) :
    context.Stopped ↔ context.isTimedOut = true ∨ context.cancelled = true := by
  rw [Stopped, abortReason]
  cases context.isTimedOut <;> cases context.cancelled <;> simp

theorem checkpointStopped {context : RunContext} (stopped : context.Stopped)
    (stepId : Option String) : ∃ abort, context.checkpoint stepId = some abort := by
  obtain ⟨reason, isReason⟩ := Option.ne_none_iff_exists'.mp stopped
  exact ⟨_, by rw [checkpoint, isReason]; rfl⟩

theorem checkpointFree {context : RunContext} (going : ¬context.Stopped)
    (stepId : Option String) : context.checkpoint stepId = none := by
  rw [checkpoint, Option.map_eq_none_iff]
  exact Decidable.of_not_not going

theorem freeOfCheckpoint {context : RunContext} {stepId : Option String}
    (passed : context.checkpoint stepId = none) : ¬context.Stopped := by
  rw [checkpoint, Option.map_eq_none_iff] at passed
  exact not_not_intro passed

/-! ### Later contexts -/

/-- A context comes from another one when time passes and the run may be told to stop. -/
structure Later (before after : RunContext) : Prop where
  timeout : after.timeout = before.timeout
  startedAt : after.startedAt = before.startedAt
  armed : after.armed = before.armed
  now : before.now ≤ after.now
  cancelled : before.cancelled = true → after.cancelled = true

theorem Later.refl (context : RunContext) : Later context context :=
  ⟨rfl, rfl, rfl, Nat.le_refl _, id⟩

theorem Later.trans {first second third : RunContext} (one : Later first second)
    (other : Later second third) : Later first third where
  timeout := other.timeout.trans one.timeout
  startedAt := other.startedAt.trans one.startedAt
  armed := other.armed.trans one.armed
  now := Nat.le_trans one.now other.now
  cancelled := other.cancelled ∘ one.cancelled

/-- A run that has to stop does not come out of this. -/
theorem Later.stopped {before after : RunContext} (later : Later before after)
    (stopped : before.Stopped) : after.Stopped := by
  rw [stoppedIff] at stopped ⊢
  refine stopped.imp (fun timedOut => ?_) later.cancelled
  rw [isTimedOut, elapsed] at timedOut ⊢
  rw [later.timeout, later.startedAt]
  have grows := later.now
  cases isTimeout : before.timeout with
  | none =>
      rw [isTimeout] at timedOut
      cases timedOut
  | some timeout =>
      rw [isTimeout, Option.any_some, decide_eq_true_eq] at timedOut
      rw [Option.any_some, decide_eq_true_eq]
      omega

theorem cancelAfterNow (context : RunContext) (delay : Nat) :
    (context.cancelAfter delay).now = context.now := by
  rw [cancelAfter]
  split <;> rfl

theorem cancelAfterLater (context : RunContext) (delay : Nat) :
    Later context (context.cancelAfter delay) := by
  rw [cancelAfter]
  split
  · exact ⟨rfl, rfl, rfl, Nat.le_refl _, fun _ => rfl⟩
  · exact ⟨rfl, rfl, rfl, Nat.le_refl _, id⟩

theorem passLater (context : RunContext) (duration : Nat) : Later context (context.pass duration) :=
  ⟨rfl, rfl, rfl, Nat.le_add_right _ _, fun cancelled => by rw [pass, cancelled]; rfl⟩

theorem workLater (context : RunContext) (duration : Nat) :
    Later context (context.work duration).1 := by
  have grows := context.nowLeWorkNow duration
  rw [work] at grows ⊢
  split
  · exact .refl context
  · split
    · exact .refl context
    · simp only at grows ⊢
      split
      · split
        · exact ⟨rfl, rfl, rfl, Nat.le_max_left _ _, fun _ => rfl⟩
        · exact ⟨rfl, rfl, rfl, Nat.le_add_right _ _, id⟩
      · exact ⟨rfl, rfl, rfl, Nat.le_add_right _ _, id⟩

theorem sleepLater (context : RunContext) (duration : Nat) :
    Later context (context.sleep duration).1 := by
  rw [sleepNow]
  exact context.workLater duration

theorem timedOutIff (context : RunContext) :
    context.isTimedOut = true ↔
      ∃ timeout, context.timeout = some timeout ∧ timeout ≤ context.elapsed := by
  rw [isTimedOut, Option.any_eq_true]
  simp only [decide_eq_true_eq]

/-! ### Sleeping -/

/-- The context of a run that has begun: the deadline is armed, and it lies ahead of the start. -/
structure Underway (context : RunContext) : Prop where
  armed : context.armed = true
  begun : context.startedAt ≤ context.now

theorem Later.underway {before after : RunContext} (later : Later before after)
    (underway : before.Underway) : after.Underway where
  armed := later.armed.trans underway.armed
  begun := by
    rw [later.startedAt]
    exact Nat.le_trans underway.begun later.now

/-- The alarm of a run rings at its deadline if it has not rung before. -/
theorem alarmByDeadline {context : RunContext} (underway : context.Underway) {timeout : Nat}
    (isTimeout : context.timeout = some timeout) :
    ∃ alarm ≤ context.startedAt + timeout, context.alarm = some alarm := by
  rw [alarm, if_pos underway.armed, deadline, isTimeout]
  cases context.requested with
  | none => exact ⟨_, Nat.le_refl _, rfl⟩
  | some requested => exact ⟨_, Nat.min_le_right requested _, rfl⟩

/-- The run does not have to stop at a time before which its alarm does not ring. -/
theorem freeBeforeAlarm {context : RunContext} (underway : context.Underway)
    (going : context.cancelled = false) {earlier : Nat}
    (silent : ∀ alarm, context.alarm = some alarm → context.now + earlier < alarm) :
    ¬(context.pass earlier).Stopped := by
  rw [stoppedIff]
  rintro (timedOut | cancelled)
  · obtain ⟨timeout, isTimeout, elapsed⟩ := (timedOutIff _).mp timedOut
    obtain ⟨alarm, early, isAlarm⟩ := alarmByDeadline underway isTimeout
    have later := silent alarm isAlarm
    have begun := underway.begun
    simp only [RunContext.elapsed, pass] at elapsed
    omega
  · simp only [pass, going, Bool.false_or, Bool.and_eq_true, ringsBefore,
      Option.any_eq_true, decide_eq_true_eq] at cancelled
    obtain ⟨-, alarm, isAlarm, rings⟩ := cancelled
    have later := silent alarm isAlarm
    omega

/-- Before its work ends the run does not have to stop. -/
theorem freeDuringWork {context : RunContext} (underway : context.Underway)
    {duration earlier : Nat} (during : context.now + earlier < (context.work duration).1.now) :
    ¬(context.pass earlier).Stopped := by
  rw [work] at during
  split at during
  · exact absurd during (Nat.not_lt.mpr (Nat.le_add_right _ _))
  · split at during
    · exact absurd during (Nat.not_lt.mpr (Nat.le_add_right _ _))
    · rename_i going
      refine freeBeforeAlarm underway (by simpa using going) fun alarm isAlarm => ?_
      simp only [isAlarm] at during
      split at during
      · simp only at during
        omega
      · simp only at during
        omega

/-- A run that has to stop does not work any more. -/
theorem workStopped {context : RunContext} (underway : context.Underway)
    (stopped : context.Stopped) (duration : Nat) :
    (context.work duration).1.now = context.now := by
  refine Nat.le_antisymm (Nat.le_of_not_lt fun grows => ?_) (context.nowLeWorkNow duration)
  have during : context.now + 0 < (context.work duration).1.now := grows
  exact freeDuringWork underway during ((context.passLater 0).stopped stopped)

theorem sleepStopped {context : RunContext} (underway : context.Underway)
    (stopped : context.Stopped) (duration : Nat) :
    (context.sleep duration).1.now = context.now := by
  rw [sleepNow]
  exact workStopped underway stopped duration

/-- Work that was interrupted leaves a run that has to stop. -/
theorem workInterrupted {context : RunContext} {duration : Nat} {reason : AbortReason}
    (interrupted : (context.work duration).2 = some reason) :
    (context.work duration).1.Stopped := by
  rw [stoppedIff]
  right
  rw [work] at interrupted ⊢
  split at interrupted
  · cases interrupted
  · rename_i lasts
    rw [if_neg lasts]
    split at interrupted
    · rename_i cancelled
      rw [if_pos cancelled]
      exact cancelled
    · rename_i going
      rw [if_neg going]
      simp only at interrupted ⊢
      cases isAlarm : context.alarm with
      | none =>
          rw [isAlarm] at interrupted
          cases interrupted
      | some alarm =>
          rw [isAlarm] at interrupted
          simp only at interrupted ⊢
          split at interrupted
          · rename_i rings
            rw [if_pos rings]
          · cases interrupted

/-- A sleep tells that the run has to stop exactly when it has to. -/
theorem sleepStops (context : RunContext) (duration : Nat) :
    (context.sleep duration).2 = none ↔ ¬(context.sleep duration).1.Stopped := by
  have interrupted := @workInterrupted context duration
  rw [sleep]
  split
  · rename_i after reason worked
    rw [worked] at interrupted
    exact ⟨nofun, fun free => absurd (interrupted rfl) free⟩
  · exact ⟨not_not_intro, Decidable.of_not_not⟩

end RunContext

end DeskScript
