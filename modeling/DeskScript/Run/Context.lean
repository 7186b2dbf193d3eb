/-
This file holds the clock of a run and the ways in which a run is told to stop. All times are in
milliseconds.
-/

import DeskScript.Run.Outcome

namespace DeskScript

/--
A run may be cancelled now, by a request for a later time, or by its deadline once that is armed.
Time passes only while a run sleeps.
-/
structure RunContext where
  runId : String
  timeout : Option Nat
  startedAt : Nat
  now : Nat
  cancelled : Bool
  armed : Bool
  /-- This is the earliest time for which cancelling has been requested. -/
  requested : Option Nat
  deriving DecidableEq

namespace RunContext

def start (runId : String) (timeout : Option Nat) (now : Nat) : RunContext :=
  ⟨runId, timeout, now, now, false, false, none⟩

/-! ### Being stopped -/

def elapsed (context : RunContext) : Nat := context.now - context.startedAt

def deadline (context : RunContext) : Option Nat :=
  context.timeout.map fun timeout => context.startedAt + timeout

def isTimedOut (context : RunContext) : Bool :=
  context.timeout.any fun timeout => timeout ≤ context.elapsed

/-- A run that has been cancelled and has timed out as well counts as timed out. -/
def abortReason (context : RunContext) : Option AbortReason :=
  if context.isTimedOut then some .runTimeout
  else if context.cancelled then some .cancelled
  else none

/-- A checkpoint is passed unless the run has to stop. -/
def checkpoint (context : RunContext) (stepId : Option String) : Option Abort :=
  context.abortReason.map fun reason => ⟨context.runId, reason, stepId⟩

def cancel (context : RunContext) : RunContext := { context with cancelled := true }

/-- The deadline cancels the run only after it has been armed. -/
def arm (context : RunContext) : RunContext := { context with armed := true }

/-- This is the earlier of two times, where there are any. -/
def earlier : Option Nat → Option Nat → Option Nat
  | some first, some second => some (min first second)
  | first, second => first.or second

/-- A request to cancel without delay takes effect at once. -/
def cancelAfter (context : RunContext) (delay : Nat) : RunContext :=
  if delay = 0 then context.cancel
  else { context with requested := earlier context.requested (some (context.now + delay)) }

/-- This is the next time at which the run is cancelled. -/
def alarm (context : RunContext) : Option Nat :=
  earlier context.requested (if context.armed then context.deadline else none)

/-! ### Letting time pass -/

/-- This test asks whether the alarm rings before a time. -/
def ringsBefore (context : RunContext) (time : Nat) : Bool :=
  context.alarm.any fun alarm => alarm < time

/-- This function lets time pass whether the run is cancelled or not. -/
def pass (context : RunContext) (duration : Nat) : RunContext :=
  let later := context.now + duration
  { context with
    now := later
    cancelled := context.cancelled || (duration ≠ 0 && context.ringsBefore later) }

/-- Work ends when the run is cancelled, and this is the reason for it. -/
def stopReason (context : RunContext) : AbortReason := context.abortReason.getD .cancelled

/--
This function lets time pass for work that ends early when the run is cancelled. Work that is done
when the alarm rings has been done in time.
-/
def work (context : RunContext) (duration : Nat) : RunContext × Option AbortReason :=
  if duration = 0 then (context, none)
  else if context.cancelled then (context, some context.stopReason)
  else
    let later := context.now + duration
    match context.alarm with
    | some alarm =>
        if alarm < later then
          let stopped := { context with now := max context.now alarm, cancelled := true }
          (stopped, some stopped.stopReason)
        else ({ context with now := later }, none)
    | none => ({ context with now := later }, none)

/-- After a sleep the run may have to stop even though nothing ended the sleep early. -/
def sleep (context : RunContext) (duration : Nat) : RunContext × Option AbortReason :=
  match context.work duration with
  | (context, some reason) => (context, some reason)
  | (context, none) => (context, context.abortReason)

/-! ### Time never goes back -/

theorem passNow (context : RunContext) (duration : Nat) :
    (context.pass duration).now = context.now + duration := rfl

theorem nowLeWorkNow (context : RunContext) (duration : Nat) :
    context.now ≤ (context.work duration).1.now := by
  unfold work
  split
  · exact Nat.le_refl _
  · split
    · exact Nat.le_refl _
    · dsimp only
      split
      · split
        · exact Nat.le_max_left _ _
        · exact Nat.le_add_right _ _
      · exact Nat.le_add_right _ _

theorem sleepNow (context : RunContext) (duration : Nat) :
    (context.sleep duration).1 = (context.work duration).1 := by
  unfold sleep
  split <;> simp_all

/-- A sleep that nothing ended has lasted as long as it should. -/
theorem workUninterrupted (context : RunContext) (duration : Nat)
    (done : (context.work duration).2 = none) :
    (context.work duration).1.now = context.now + duration := by
  unfold work at done ⊢
  split
  · rename_i zero
    simp [zero]
  · split
    · rename_i cancelled
      simp_all
    · dsimp only at done ⊢
      split
      · split
        · simp_all
        · rfl
      · rfl

end RunContext

end DeskScript
