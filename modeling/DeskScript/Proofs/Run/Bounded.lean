/-
This file shows that every run is bounded. When its devices return, a run ends with a report, and
its steps limit the number of entries in its trace and the number of input actions.
-/

import DeskScript.Proofs.Run.Returning
import DeskScript.Proofs.Run.Spending

namespace DeskScript

variable {device : Type} {place : Workplace device}

/-! ### Entries -/

/-- In a trace every leaf step has one entry, and so has every other step that was run. -/
def Tariff.entries : Tariff := ⟨fun _ => 1, 1⟩

namespace Leaf

/-- However often a step is tried, it has at most one entry. -/
theorem attemptEntries (place : Workplace device) (step : Step) (action : Action) (depth : Nat)
    (startedAt : Time.Timestamp) (left number : Nat) (session : Session device) :
    (attempt place step action depth startedAt left number session).1.trace.size ≤
      session.trace.size + 1 := by
  obtain ⟨last, -, -, -, concluded⟩ :=
    attemptConcludes place step action depth startedAt left number session
  have quiet := furtherAttemptQuiet place step.id action last session
  obtain ⟨context, trace, events, concludes, bound⟩ := concludeFrame place step depth startedAt
    (furtherAttempt place step.id action last session) (number + last)
  rw [concluded, concludes, ← quiet.trace]
  exact bound

end Leaf

theorem entriesMetered (place : Workplace device) :
    Interpreter.Metered place .entries fun session => session.trace.size where
  timed _ _ := rfl
  published _ _ := rfl
  warned _ _ := rfl
  bound _ _ _ := rfl
  recorded session step depth outcome notes error attempts startedAt := by
    simp [Session.record, Tariff.entries]
  executed header action depth startedAt := Leaf.attemptEntries place _ action depth startedAt _ 1
  least _ := Nat.le_refl 1

/-! ### Input actions -/

/-- A leaf step injects at most one input action in every attempt, and no other step injects any. -/
def Tariff.inputs : Tariff := ⟨fun header => header.retryCount.toNat + 1, 0⟩

/-- This is the number of input actions that have been injected. -/
def Session.injected (session : Session device) : Nat :=
  session.calls.toList.countP CallRecord.injects

namespace Session

theorem Proceeds.injected {before after : Session device} {records : List CallRecord}
    (proceeds : Proceeds before after records) :
    after.injected = before.injected + records.countP CallRecord.injects := by
  rw [Session.injected, proceeds.calls, List.countP_append]
  rfl

end Session

namespace Leaf

/-- A look is a call, but it injects nothing. -/
theorem searchInjects (place : Workplace device) :
    SearchKeeps place fun before after => after.injected = before.injected where
  refl _ := rfl
  trans first second := second.trans first
  look session look := (session.lookProceeds look).injected
  sleep session duration := (session.sleepProceeds duration).injected

theorem pollInjects (wait : Wait) (rounds attempts : Nat) (session : Session device) :
    (poll place wait rounds attempts session).1.injected = session.injected :=
  pollKeeps (searchInjects place) wait rounds attempts session

theorem inputInjects (session : Session device) (notes : StepNotes) (action : InputAction) :
    (input place session notes action).session.injected = session.injected + 1 := by
  rw [inputSession]
  exact (session.inputProceeds action).injected

theorem useMatchInjects (session : Session device) (notes : StepNotes) (sensing : Sensing)
    (found : Match Float) :
    (useMatch place session notes sensing found).session.injected ≤ session.injected + 1 := by
  have bound := (bindAllProceeds session (matchBindings found sensing.output)).injected
  rw [useMatch]
  generalize List.foldl _ session _ = after at bound ⊢
  cases sensing.click with
  | none =>
      dsimp only
      rw [bound]
      exact Nat.le_succ _
  | some click =>
      dsimp only
      split
      · rw [inputInjects, bound]
        exact Nat.le_refl _
      · rw [bound]
        exact Nat.le_succ _

theorem senseInjects (stepId : String) (session : Session device) (notes : StepNotes)
    (target : Target) (sensing : Sensing) :
    (sense place stepId session notes target sensing).session.injected ≤ session.injected + 1 := by
  have cleared := (clearOutputsProceeds session sensing.output).injected
  rw [sense]
  generalize clearOutputs session sensing.output = ready at cleared ⊢
  have polled : (poll place ⟨stepId, ⟨target, sensing.region, sensing.threshold⟩,
      sensing.timeout.toNat, ready.context.now⟩ (sensing.timeout.toNat + 1) 0 ready).1.injected =
        ready.injected := pollInjects _ _ _ _
  generalize poll place _ _ 0 ready = polling at polled ⊢
  have same : polling.1.injected = session.injected := polled.trans cleared
  obtain ⟨after, found | failure | _⟩ := polling
  · have used : (useMatch place after notes sensing found).session.injected ≤ after.injected + 1 :=
      useMatchInjects after notes sensing found
    exact Nat.le_trans used (Nat.le_of_eq (congrArg (· + 1) same))
  · exact Nat.le_trans (Nat.le_of_eq same) (Nat.le_succ _)
  · exact Nat.le_trans (Nat.le_of_eq same) (Nat.le_succ _)

/-- An action injects at most one input action. -/
theorem actInjects (stepId : String) (session : Session device) (action : Action) :
    (act place stepId session action).session.injected ≤ session.injected + 1 := by
  cases action with
  | click x y button count =>
      rw [act]
      split
      · exact Nat.le_succ _
      · exact Nat.le_of_eq (inputInjects session _ _)
  | move x y duration =>
      rw [act]
      split
      · exact Nat.le_succ _
      · exact Nat.le_of_eq (inputInjects session _ _)
  | type text interval => exact Nat.le_of_eq (inputInjects session _ _)
  | hotkey keys =>
      rw [act]
      split
      · exact Nat.le_succ _
      · exact Nat.le_of_eq (inputInjects session _ _)
  | wait duration =>
      have slept := (session.sleepProceeds duration.toNat).injected
      rw [act]
      generalize session.sleep duration.toNat = sleeping at slept ⊢
      obtain ⟨after, _ | reason⟩ := sleeping
      · exact Nat.le_trans (Nat.le_of_eq slept) (Nat.le_succ _)
      · exact Nat.le_trans (Nat.le_of_eq slept) (Nat.le_succ _)
  | waitImage template sensing => exact senseInjects stepId session _ _ sensing
  | searchText query isExact sensing => exact senseInjects stepId session _ _ sensing

theorem furtherAttemptInjects (stepId : String) (action : Action) (later : Nat)
    (session : Session device) :
    (furtherAttempt place stepId action later session).session.injected ≤
      session.injected + (later + 1) := by
  induction later generalizing session with
  | zero => exact actInjects stepId session action
  | succ later inductionHypothesis =>
      have first : (act place stepId session action).session.injected ≤ session.injected + 1 :=
        actInjects stepId session action
      have further := inductionHypothesis (act place stepId session action).session
      rw [furtherAttempt]
      omega

theorem attemptInjects (place : Workplace device) (header : StepHeader) (action : Action)
    (depth : Nat) (startedAt : Time.Timestamp) (session : Session device) :
    (attempt place (.leaf header action) action depth startedAt (furtherAttempts header) 1
      session).1.injected ≤ session.injected + (header.retryCount.toNat + 1) := by
  obtain ⟨last, bound, -, -, concluded⟩ := attemptConcludes place (.leaf header action) action depth
    startedAt (furtherAttempts header) 1 session
  have injects : (furtherAttempt place (Step.leaf header action).id action last
      session).session.injected ≤ session.injected + (last + 1) :=
    furtherAttemptInjects _ action last session
  obtain ⟨context, trace, events, concludes, -⟩ := concludeFrame place (.leaf header action) depth
    startedAt (furtherAttempt place (Step.leaf header action).id action last session) (1 + last)
  rw [furtherAttempts] at bound
  rw [concluded, concludes]
  refine Nat.le_trans injects ?_
  omega

end Leaf

theorem inputsMetered (place : Workplace device) :
    Interpreter.Metered place .inputs Session.injected where
  timed _ _ := rfl
  published _ _ := rfl
  warned _ _ := rfl
  bound _ _ _ := rfl
  recorded _ _ _ _ _ _ _ _ := Nat.le_refl _
  executed header action depth startedAt := Leaf.attemptInjects place header action depth startedAt
  least _ := Nat.zero_le _

/-! ### Runs -/

namespace Interpreter

theorem reportTrace {script : Script} {session final : Session device} {found : RunReport}
    (ended : run place script session = (final, some found)) :
    found.trace = final.trace.toList := by
  obtain ⟨after, halt, -, -, reported⟩ := runEnded script session final found ended
  calc found.trace = after.trace.toList :=
        congrArg (fun reporting => reporting.2.trace) reported.symm
    _ = final.trace.toList := congrArg (fun reporting => reporting.1.trace.toList) reported

/--
Every run ends with a report if its devices return. It has no more entries and injects no more input
actions than its steps cost, and every search in it ends by itself.
-/
theorem runBounded (place : Workplace device) (returns : place.devices.Return) (script : Script)
    (context : RunContext) (bindings : Bindings) (state : device) :
    (∃ final found, run place script (Session.start context bindings state) = (final, some found) ∧
      found.trace.length ≤ Step.costAll .entries script.steps ∧
      final.injected ≤ Step.costAll .inputs script.steps) ∧
    ∀ (wait : Leaf.Wait) (session : Session device), wait.startedAt = session.context.now →
      Leaf.Searches place wait 0 session (Leaf.poll place wait (wait.timeout + 1) 0 session) := by
  constructor
  · obtain ⟨final, found, ended⟩ :=
      runReturns returns script (Session.start context bindings state)
    have entries := runSpends (entriesMetered place) script (Session.start context bindings state)
    have inputs := runSpends (inputsMetered place) script (Session.start context bindings state)
    rw [ended] at entries inputs
    refine ⟨final, found, ended, ?_, ?_⟩
    · rw [reportTrace ended, Array.length_toList]
      simpa [Session.start] using entries
    · simpa [Session.start, Session.injected] using inputs
  · exact fun wait session begins => Leaf.searchEnds wait session begins

theorem runBoundedWaitTwice :
    Devices.idle.Return ∧
      ∃ final found, run .idle waitTwice (Session.start (.start "run" none 0) .empty ()) =
        (final, some found) ∧ found.trace.length ≤ 3 ∧ final.injected ≤ 2 := by
  have returns := Devices.idleReturns
  exact ⟨returns, (runBounded .idle returns waitTwice (.start "run" none 0) .empty ()).1⟩

end Interpreter

end DeskScript
