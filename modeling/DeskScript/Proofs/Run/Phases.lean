/-
This file says what the phases of a leaf step do to the session of a run: the clock goes on, and
devices are called. A step that waits does so no longer when the run has to stop.
-/

import DeskScript.Proofs.Run.Frame
import DeskScript.Proofs.Run.Instants

namespace DeskScript

variable {device : Type} {place : Workplace device}

/-! ### Calls -/

/-- An input action is injected into the desktop, while a look leaves it as it is. -/
def CallRecord.injects (record : CallRecord) : Bool :=
  match record.call with
  | .input _ => true
  | .look _ => false

namespace Session

/-- Part of a step is quiet, and it may call devices. -/
structure Proceeds (before after : Session device) (records : List CallRecord) : Prop where
  quiet : Quiet before after
  later : RunContext.Later before.context after.context
  calls : after.calls.toList = before.calls.toList ++ records

theorem Proceeds.refl (session : Session device) : Proceeds session session [] :=
  ⟨.refl session, .refl session.context, (List.append_nil _).symm⟩

theorem Proceeds.trans {before middle after : Session device} {first second : List CallRecord}
    (one : Proceeds before middle first) (other : Proceeds middle after second) :
    Proceeds before after (first ++ second) where
  quiet := one.quiet.trans other.quiet
  later := one.later.trans other.later
  calls := by rw [other.calls, one.calls, List.append_assoc]

theorem sleepProceeds (session : Session device) (duration : Nat) :
    Proceeds session (session.sleep duration).1 [] :=
  ⟨session.sleepQuiet duration, session.context.sleepLater duration, (List.append_nil _).symm⟩

theorem noteProceeds (session : Session device) (call : DeviceCall) :
    Proceeds session (session.note place call).1 [⟨session.context.now, call⟩] where
  quiet := session.noteQuiet place call
  later := by
    rw [note]
    simp only
    split
    · exact session.context.cancelAfterLater _
    · exact .refl session.context
  calls := Array.toList_push

theorem noteNow (session : Session device) (place : Workplace device) (call : DeviceCall) :
    (session.note place call).1.context.now = session.context.now := by
  rw [note]
  simp only
  split
  · exact RunContext.cancelAfterNow _ _
  · rfl

theorem inputProceeds (session : Session device) (action : InputAction) :
    Proceeds session (session.input place action).1 [⟨session.context.now, .input action⟩] where
  quiet := session.inputQuiet place action
  later := (session.noteProceeds (.input action)).later.trans (RunContext.passLater _ _)
  calls := (session.noteProceeds (.input action)).calls

theorem lookProceeds (session : Session device) (look : Look) :
    Proceeds session (session.look place look).1 [⟨session.context.now, .look look⟩] := by
  have noted : Proceeds session (session.note place (.look look)).1 _ :=
    session.noteProceeds (.look look)
  refine ⟨session.lookQuiet place look, ?_, ?_⟩
  · rw [Session.look]
    have worked := noted.later.trans ((session.note place (.look look)).1.context.workLater
      (session.note place (.look look)).2)
    simp only
    split <;> exact worked
  · rw [Session.look]
    simp only
    split <;> exact noted.calls

theorem lookContext (session : Session device) (place : Workplace device) (look : Look) :
    (session.look place look).1.context =
      ((session.note place (.look look)).1.context.work
        (session.note place (.look look)).2).1 := by
  rw [Session.look]
  simp only
  split <;> rfl

end Session

namespace Leaf

open Session (Proceeds)

/-! ### Phases -/

theorem clearOutputsProceeds (session : Session device) (output : Option String) :
    Proceeds session (clearOutputs session output) [] := by
  cases output with
  | none => exact .refl session
  | some output =>
      exact ⟨clearOutputsQuiet session (some output), .refl _, (List.append_nil _).symm⟩

theorem bindAllProceeds (session : Session device) (named : List (String × String)) :
    Proceeds session
      (named.foldl (fun session (name, value) => session.bind name value) session) [] := by
  induction named generalizing session with
  | nil => exact .refl session
  | cons head rest inductionHypothesis =>
      have bound : Proceeds session (session.bind head.1 head.2) [] :=
        ⟨⟨rfl, rfl, rfl⟩, .refl _, (List.append_nil _).symm⟩
      exact bound.trans (inductionHypothesis (session.bind head.1 head.2))

/-- These actions wait for something. They inject no input unless they find a match. -/
def waits : Action → Bool
  | .wait _ | .waitImage .. | .searchText .. => true
  | .click .. | .move .. | .type .. | .hotkey _ => false

namespace Phase

/-- In these phases the clock may go on until the run has to stop. -/
def isWaiting : Phase → Bool
  | .wait _ | .look _ | .pause .. => true
  | _ => false

/-- In this phase an input action is about to be injected. -/
def isPress : Phase → Bool
  | .press .. => true
  | _ => false

theorem isPressWaiting {phase : Phase} (waiting : phase.isWaiting = true) :
    phase.isPress = false := by
  cases phase with
  | press notes action => cases waiting
  | _ => rfl

/-- This is the search to which a phase belongs. -/
def search? : Phase → Option Search
  | .look search | .pause search _ => some search
  | _ => none

/-- In these phases the attempt has ended. -/
def isOver : Phase → Bool
  | .tried .. | .rest => true
  | _ => false

theorem isOverWaiting {phase : Phase} (waiting : phase.isWaiting = true) :
    phase.isOver = false := by
  cases phase with
  | tried notes ending => cases waiting
  | rest => cases waiting
  | _ => rfl

end Phase

/-- These are the settings of an action that looks for something on the screen. -/
def sensing? : Action → Option Sensing
  | .waitImage _ sensing | .searchText _ _ sensing => some sensing
  | _ => none

/-- In an attempt at an action these phases follow one another. -/
inductive Follows (action : Action) : Phase → Phase → Prop where
  | ended (phase : Phase) (notes : StepNotes) (ending : ActionEnd) :
      Follows action phase (.tried notes ending)
  | sleeps (duration : Nat) (patient : waits action = true) : Follows action .begin (.wait duration)
  | searches (search : Search) (isSensing : sensing? action = some search.sensing) :
      Follows action .begin (.look search)
  | injects (notes : StepNotes) (input : InputAction) (impatient : waits action = false) :
      Follows action .begin (.press notes input)
  | pauses (search : Search) (duration : Nat) :
      Follows action (.look search) (.pause search duration)
  | clicks (search : Search) (notes : StepNotes) (input : InputAction)
      (clicking : search.sensing.click.isSome = true) :
      Follows action (.look search) (.press notes input)
  | looksAgain (search later : Search) (duration : Nat) (same : later.sensing = search.sensing) :
      Follows action (.pause search duration) (.look later)

theorem waitsOfSensing {action : Action} {sensing : Sensing}
    (isSensing : sensing? action = some sensing) : waits action = true := by
  cases action with
  | waitImage => rfl
  | searchText => rfl
  | _ => cases isSensing

/-- A step goes on waiting, or it begins to wait if its action is to wait. -/
theorem Follows.waiting {action : Action} {phase next : Phase} (follows : Follows action phase next)
    (waiting : next.isWaiting = true) : phase.isWaiting = true ∨ waits action = true := by
  cases follows with
  | sleeps duration patient => exact .inr patient
  | searches search isSensing => exact .inr (waitsOfSensing isSensing)
  | pauses => exact .inl rfl
  | looksAgain => exact .inl rfl
  | _ => cases waiting

theorem Follows.begun {action : Action} {phase next : Phase} (follows : Follows action phase next) :
    next ≠ .begin := by
  cases follows <;> exact nofun

/-- Input is injected at the begin of an attempt, or when a search has found something. -/
theorem Follows.pressing {action : Action} {phase next : Phase}
    (follows : Follows action phase next) (pressing : next.isPress = true) :
    (phase = .begin ∧ waits action = false) ∨
      ∃ search, phase = .look search ∧ search.sensing.click.isSome = true := by
  cases follows with
  | injects notes input impatient => exact .inl ⟨rfl, impatient⟩
  | clicks search notes input clicking => exact .inr ⟨search, rfl, clicking⟩
  | _ => cases pressing

/-- A search belongs to the action, or it goes on with the settings that it had before. -/
theorem Follows.searching {action : Action} {phase next : Phase} {search : Search}
    (follows : Follows action phase next) (isSearch : next.search? = some search) :
    sensing? action = some search.sensing ∨
      ∃ earlier, phase.search? = some earlier ∧ search.sensing = earlier.sensing := by
  cases follows with
  | searches search isSensing =>
      cases isSearch
      exact .inl isSensing
  | pauses search duration =>
      cases isSearch
      exact .inr ⟨search, rfl, rfl⟩
  | looksAgain earlier later duration same =>
      cases isSearch
      exact .inr ⟨earlier, rfl, same⟩
  | _ => cases isSearch

theorem Follows.impatient {action : Action} {next : Phase} (follows : Follows action .begin next)
    (pressing : next.isPress = true) : waits action = false := by
  cases follows with
  | injects notes input impatient => exact impatient
  | _ => cases pressing

/-- An attempt begins without calling a device. If it fails at once nothing has changed. -/
structure Prepared (action : Action) (session : Session device)
    (reached : Session device × Phase) : Prop where
  proceeds : Proceeds session reached.1 []
  context : reached.1.context = session.context
  follows : Follows action .begin reached.2
  failed : ∀ {notes ending}, reached.2 = .tried notes ending → reached.1 = session

theorem searchPrepared {action : Action} (stepId : String) (session : Session device)
    (notes : StepNotes) (target : Target) (sensing : Sensing)
    (isSensing : sensing? action = some sensing) :
    Prepared action session (beginSearch stepId session notes target sensing) where
  proceeds := clearOutputsProceeds session sensing.output
  context := by
    rw [beginSearch]
    cases sensing.output <;> rfl
  follows := .searches _ isSensing
  failed := nofun

theorem actionPrepared (stepId : String) (session : Session device) (action : Action) :
    Prepared action session (prepare stepId session action) := by
  cases action with
  | click x y button count =>
      rw [prepare]
      obtain ⟨failure | ⟨x, y⟩, notes⟩ := position session.bindings x y
      · exact ⟨.refl session, rfl, .ended _ _ _, fun _ => rfl⟩
      · exact ⟨.refl session, rfl, .injects _ _ rfl, nofun⟩
  | move x y duration =>
      rw [prepare]
      obtain ⟨failure | ⟨x, y⟩, notes⟩ := position session.bindings x y
      · exact ⟨.refl session, rfl, .ended _ _ _, fun _ => rfl⟩
      · exact ⟨.refl session, rfl, .injects _ _ rfl, nofun⟩
  | type text interval => exact ⟨.refl session, rfl, .injects _ _ rfl, nofun⟩
  | hotkey keys =>
      rw [prepare]
      obtain ⟨_ | ⟨key, others⟩, notes⟩ := pressedKeys session.bindings keys .empty
      · exact ⟨.refl session, rfl, .ended _ _ _, fun _ => rfl⟩
      · exact ⟨.refl session, rfl, .injects _ _ rfl, nofun⟩
  | wait duration => exact ⟨.refl session, rfl, .sleeps _ rfl, nofun⟩
  | waitImage template sensing => exact searchPrepared stepId session _ _ sensing rfl
  | searchText query exactly sensing => exact searchPrepared stepId session _ _ sensing rfl

theorem wakeUpSession (session : Session device) (notes : StepNotes) (stepId : String)
    (duration : Nat) (next : Session device → Session device × Phase)
    (keeps : ∀ session, (next session).1 = session) :
    (wakeUp session notes stepId duration next).1 = (session.sleep duration).1 := by
  rw [wakeUp]
  obtain ⟨later, _ | reason⟩ := session.sleep duration
  · exact keeps later
  · rfl

theorem lookAgainSession (search : Search) (session : Session device) :
    (lookAgain search session).1 = session := by
  rw [lookAgain]
  cases search.further <;> rfl

theorem beginClickProceeds (session : Session device) (notes : StepNotes) (sensing : Sensing)
    (found : Match Float) : Proceeds session (beginClick session notes sensing found).1 [] := by
  have bound := bindAllProceeds session (matchBindings found sensing.output)
  rw [beginClick]
  cases sensing.click with
  | none => exact bound
  | some click =>
      simp only
      split <;> exact bound

theorem bindAllContext (session : Session device) (named : List (String × String)) :
    (named.foldl (fun session (name, value) => session.bind name value) session).context =
      session.context := by
  induction named generalizing session with
  | nil => rfl
  | cons head rest inductionHypothesis => exact inductionHypothesis (session.bind head.1 head.2)

theorem beginClickContext (session : Session device) (notes : StepNotes) (sensing : Sensing)
    (found : Match Float) :
    (beginClick session notes sensing found).1.context = session.context := by
  have bound := bindAllContext session (matchBindings found sensing.output)
  rw [beginClick]
  cases sensing.click with
  | none => exact bound
  | some click =>
      simp only
      split <;> exact bound

/-- A search looks at the screen unless the run has to stop, and it injects no input. -/
theorem lookOnceProceeds (place : Workplace device) (session : Session device) (search : Search) :
    ∃ records, Proceeds session (lookOnce place session search).1 records ∧
      ∀ record ∈ records, record.injects = false := by
  rw [lookOnce]
  cases session.context.checkpoint (some search.wait.stepId) with
  | some abort => exact ⟨[], .refl session, nofun⟩
  | none =>
      have looked : Proceeds session (session.look place search.wait.look).1 _ :=
        session.lookProceeds search.wait.look
      have only : ∀ record ∈ [CallRecord.mk session.context.now (.look search.wait.look)],
          record.injects = false := by
        intro record member
        rw [List.mem_singleton.mp member]
        rfl
      refine ⟨_, ?_, only⟩
      simp only
      generalize session.look place search.wait.look = looking at looked
      obtain ⟨after, reason | found | _ | unavailable | _⟩ := looking
      · exact looked
      · exact looked.trans (beginClickProceeds after search.notes search.sensing found)
      · simp only
        split <;> exact looked
      · exact looked
      · exact looked

/-- Input is injected only in the phase for it. -/
theorem advanceProceeds (place : Workplace device) (stepId : String) (action : Action)
    (session : Session device) (phase : Phase) :
    ∃ records, Proceeds session (advance place stepId action session phase).1 records ∧
      ((∃ record ∈ records, record.injects = true) ↔ phase.isPress = true) := by
  have nothing : (∃ record ∈ ([] : List CallRecord), record.injects = true) ↔ false = true :=
    ⟨nofun, nofun⟩
  cases phase with
  | begin => exact ⟨[], (actionPrepared stepId session action).proceeds, nothing⟩
  | wait duration =>
      refine ⟨[], ?_, nothing⟩
      rw [advance, wakeUpSession _ _ _ _ _ fun _ => rfl]
      exact session.sleepProceeds duration
  | look search =>
      obtain ⟨records, proceeds, only⟩ := lookOnceProceeds place session search
      refine ⟨records, proceeds, ?_, nofun⟩
      rintro ⟨record, member, injects⟩
      rw [only record member] at injects
      cases injects
  | pause search duration =>
      refine ⟨[], ?_, nothing⟩
      rw [advance, wakeUpSession _ _ _ _ _ (lookAgainSession search)]
      exact session.sleepProceeds duration
  | press notes action =>
      exact ⟨_, session.inputProceeds action, fun _ => rfl,
        fun _ => ⟨_, List.mem_singleton_self _, rfl⟩⟩
  | tried notes ending => exact ⟨[], .refl session, nothing⟩
  | rest => exact ⟨[], .refl session, nothing⟩

theorem wakeUpFollows {action : Action} {phase : Phase} (session : Session device)
    (notes : StepNotes) (stepId : String) (duration : Nat)
    (next : Session device → Session device × Phase)
    (follows : ∀ session, Follows action phase (next session).2) :
    Follows action phase (wakeUp session notes stepId duration next).2 := by
  rw [wakeUp]
  obtain ⟨later, _ | reason⟩ := session.sleep duration
  · exact follows later
  · exact .ended _ _ _

theorem beginClickFollows {action : Action} (session : Session device) (search : Search)
    (found : Match Float) :
    Follows action (.look search) (beginClick session search.notes search.sensing found).2 := by
  rw [beginClick]
  cases isClick : search.sensing.click with
  | none => exact .ended _ _ _
  | some click =>
      simp only
      split
      · exact .clicks search _ _ (by rw [isClick]; rfl)
      · exact .ended _ _ _

theorem lookOnceFollows {action : Action} (session : Session device) (search : Search) :
    Follows action (.look search) (lookOnce place session search).2 := by
  rw [lookOnce]
  cases session.context.checkpoint (some search.wait.stepId) with
  | some abort => exact .ended _ _ _
  | none =>
      simp only
      obtain ⟨after, reason | found | _ | unavailable | _⟩ := session.look place search.wait.look
      · exact .ended _ _ _
      · exact beginClickFollows after search found
      · simp only
        split
        · exact .ended _ _ _
        · exact .pauses search _
      · exact .ended _ _ _
      · exact .ended _ _ _

theorem lookAgainFollows {action : Action} (search : Search) (duration : Nat)
    (session : Session device) :
    Follows action (.pause search duration) (lookAgain search session).2 := by
  rw [lookAgain]
  cases search.further with
  | zero => exact .ended _ _ _
  | succ further => exact .looksAgain search _ duration rfl

theorem advanceFollows (place : Workplace device) (stepId : String) (action : Action)
    (session : Session device) {phase : Phase} (going : phase.isOver = false) :
    Follows action phase (advance place stepId action session phase).2 := by
  cases phase with
  | begin => exact (actionPrepared stepId session action).follows
  | wait duration => exact wakeUpFollows session _ stepId duration _ fun _ => .ended _ _ _
  | look search => exact lookOnceFollows session search
  | pause search duration =>
      exact wakeUpFollows session _ search.wait.stepId duration _ (lookAgainFollows search duration)
  | press notes input => exact .ended _ _ _
  | _ => cases going

/-! ### Phases of a step that has to stop -/

/-- A step that waits is aborted at once when the run has to stop. -/
structure Aborted (session : Session device) (reached : Session device × Phase) : Prop where
  ends : ∃ notes abort, reached.2 = .tried notes (.failed (.aborted abort))
  proceeds : Proceeds session reached.1 []
  now : session.context.Underway → reached.1.context.now = session.context.now

theorem wakeUpAborted {session : Session device} (stopped : session.context.Stopped)
    (notes : StepNotes) (stepId : String) (duration : Nat)
    (next : Session device → Session device × Phase) :
    Aborted session (wakeUp session notes stepId duration next) := by
  have slept := session.sleepProceeds duration
  have still (underway : session.context.Underway) :
      (session.sleep duration).1.context.now = session.context.now :=
    RunContext.sleepStopped underway stopped duration
  have stops : (session.sleep duration).2 ≠ none := fun free =>
    (session.context.sleepStops duration).mp free (slept.later.stopped stopped)
  rw [wakeUp]
  generalize session.sleep duration = sleeping at slept still stops
  obtain ⟨after, _ | reason⟩ := sleeping
  · exact absurd rfl stops
  · exact ⟨⟨_, _, rfl⟩, slept, still⟩

theorem advanceAborted (place : Workplace device) {session : Session device}
    (stopped : session.context.Stopped) (stepId : String) (action : Action) {phase : Phase}
    (waiting : phase.isWaiting = true) :
    Aborted session (advance place stepId action session phase) := by
  cases phase with
  | wait duration => exact wakeUpAborted stopped _ _ _ _
  | look search =>
      obtain ⟨abort, stops⟩ := RunContext.checkpointStopped stopped (some search.wait.stepId)
      rw [advance, lookOnce, stops]
      exact ⟨⟨_, _, rfl⟩, .refl session, fun _ => rfl⟩
  | pause search duration => exact wakeUpAborted stopped _ _ _ _
  | _ => cases waiting

end Leaf

end DeskScript
