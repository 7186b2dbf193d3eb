/-
This file shows how a run ends that has to stop. No further step begins, and a step that sleeps or
polls ends at once, unless it has found something on which it still clicks.
-/

import DeskScript.Proofs.Run.Interruption

namespace DeskScript

variable {device : Type} {place : Workplace device}

namespace Interpreter

/-! ### On the way to the end -/

namespace Instant

theorem stoppedAlong {first last : Instant device} (passes : Passes place first last)
    (stopped : first.Stopped) : last.Stopped := by
  induction passes with
  | refl => exact stopped
  | tail _ next inductionHypothesis =>
      exact next ▸ (laterNext place _).stopped inductionHypothesis

theorem windsDownAlong {first last : Instant device} (passes : Passes place first last)
    (stopped : first.Stopped) :
    ∃ records entries, first.session.WindsDown place last.session records entries := by
  induction passes with
  | refl => exact ⟨[], [], (Session.Proceeds.refl _).windsDown⟩
  | tail passed next inductionHypothesis =>
      obtain ⟨records, entries, winds⟩ := inductionHypothesis
      obtain ⟨others, more, further, -⟩ := windsDownNext place (stoppedAlong passed stopped)
      exact ⟨_, _, winds.trans (next ▸ further)⟩

theorem busyAlong {first last : Instant device} (passes : Passes place first last)
    (stopped : first.Stopped) (busy : first.Busy) : last.Busy := by
  induction passes with
  | refl => exact busy
  | tail passed next inductionHypothesis =>
      exact next ▸ busyNext place (stoppedAlong passed stopped) inductionHypothesis

theorem dueAlong {first last : Instant device} (passes : Passes place first last)
    (stopped : first.Stopped) (underway : first.session.context.Underway)
    (patient : first.Patient) : last.Patient ∧ last.due place = first.due place := by
  induction passes with
  | refl => exact ⟨patient, rfl⟩
  | tail passed next inductionHypothesis =>
      have further := dueNext place (stoppedAlong passed stopped)
        ((laterAlong passed).underway underway) inductionHypothesis.1
      rw [next] at further
      exact ⟨further.1, further.2.trans inductionHypothesis.2⟩

/-- The action of a step that waits is to wait, and after a pause no step is in progress. -/
theorem patientNext {instant : Instant device} (sound : instant.Sound) {context : RunContext}
    (waiting : instant.waitingFrom place = some context) : (instant.next place).Patient := by
  cases instant with
  | between moment => cases waiting
  | within session leaf tasks =>
      have patient := sound.2
      obtain ⟨header, action, depth, startedAt, left, number, phase⟩ := leaf
      cases phase with
      | wait duration => exact patient rfl
      | look search => exact patient rfl
      | pause search duration => exact patient rfl
      | rest => trivial
      | _ => cases waiting

end Instant

/-! ### Ends of runs -/

/-- After its last moment a run publishes its outcome if it has one. -/
structure Concludes (after final : Session device) (found : Option RunReport) : Prop where
  now : final.context.now = after.context.now
  calls : final.calls = after.calls
  trace : final.trace = after.trace
  events : final.events.toList = after.events.toList ++
    (found.map fun report => RunEvent.mk after.context.runId (.runFinished report.outcome)).toList

/-- Every run goes through its instants until no task is left. -/
theorem runConcludes {script : Script} {session final : Session device} {found : Option RunReport}
    (ended : run place script session = (final, found)) :
    ∃ after halt, Passes place (.start script session) (.between ⟨after, halt, []⟩) ∧
      outcome? halt = found.map RunReport.outcome ∧ Concludes after final found := by
  have leads := runAllLeads place 0 script.steps { session with context := session.context.arm } []
  rw [run] at ended
  generalize runAll place 0 script.steps { session with context := session.context.arm } = flow
    at leads ended
  obtain ⟨after, halt⟩ := flow
  refine ⟨after, halt, leads.passes, ?_⟩
  simp only at ended
  cases isOutcome : outcome? halt with
  | none =>
      rw [isOutcome] at ended
      cases ended
      exact ⟨rfl, rfl, rfl, rfl, (List.append_nil _).symm⟩
  | some outcome =>
      rw [isOutcome] at ended
      cases ended
      exact ⟨rfl, rfl, rfl, rfl, Array.toList_push⟩

/-! ### Stopping -/

/--
From an instant on a run only ends. Steps that were in progress are recorded, but no step is started
or passed over, and a run that was in the middle of a step is not completed.
-/
structure OnlyEnds (place : Workplace device) (instant : Instant device) (final : Session device)
    (found : Option RunReport) (entries : List TraceEntry) : Prop where
  trace : final.trace.toList = instant.session.trace.toList ++ entries
  events : final.events.toList = instant.session.events.toList ++
    ((entries.map RunNews.stepFinished) ++
      (found.map fun report => RunNews.runFinished report.outcome).toList).map
        (RunEvent.mk instant.session.context.runId)
  ran : ∀ entry ∈ entries, entry.outcome ≠ .skip
  timely : ∀ entry ∈ entries, ∃ time, instant.session.context.now ≤ time ∧
    time ≤ final.context.now ∧ entry.finishedAt = place.origin.addMilliseconds time
  interrupted : instant.InProgress → ∀ report, found = some report → report.outcome ≠ .completed

/--
A step that has slept or polled since a point of the clock does so until the run has to stop and no
longer. Then the run is over, except for a click on a match that was found at last.
-/
structure EndsInTime (place : Workplace device) (instant : Instant device)
    (final : Session device) (context : RunContext) : Prop where
  first : ∀ earlier, context.now + earlier < (instant.next place).session.context.now →
    ¬(context.pass earlier).Stopped
  last : final.context.now =
    (instant.next place).session.context.now + (instant.next place).overdue place

theorem completedHalt {halt : Option Halt} (completed : outcome? halt = some .completed) :
    halt = none := by
  cases halt with
  | none => rfl
  | some reason => cases reason <;> cases completed

theorem onlyEnds {instant : Instant device} {after final : Session device} {halt : Option Halt}
    {found : Option RunReport} {records : List CallRecord} {entries : List TraceEntry}
    (winds : instant.session.WindsDown place after records entries)
    (isOutcome : outcome? halt = found.map RunReport.outcome)
    (concludes : Concludes after final found)
    (busy : instant.InProgress → (Instant.between ⟨after, halt, []⟩).Busy) :
    OnlyEnds place instant final found entries where
  trace := by rw [concludes.trace, winds.trace]
  events := by
    rw [concludes.events, winds.events, winds.runId, List.append_assoc, List.map_append,
      List.map_map]
    cases found <;> rfl
  ran := winds.ran
  timely := concludes.now ▸ winds.timely
  interrupted progress report isReport completed := by
    rw [isReport, Option.map_some, completed] at isOutcome
    obtain ⟨stepId, member⟩ | halted := busy progress
    · cases member
    · exact halted (completedHalt isOutcome)

/--
When a run has to stop, no step begins any more, and the run is not completed if it is in the middle
of a step. A step that sleeps or polls at that time ends at once, unless it has just found a match:
then it still clicks, and the run is over after the click.
-/
theorem stopsPromptly (place : Workplace device) (script : Script) (context : RunContext)
    (bindings : Bindings) (state : device) (final : Session device) (found : Option RunReport)
    (begun : context.startedAt ≤ context.now)
    (ended : run place script (Session.start context bindings state) = (final, found))
    (instant : Instant device)
    (passes : Passes place (.start script (Session.start context bindings state)) instant)
    (stops : instant.Stopped ∨ (instant.next place).Stopped) :
    (∃ entries, OnlyEnds place instant final found entries) ∧
    (¬instant.Stopped → instant.InProgress ∧
      ∀ context, instant.waitingFrom place = some context →
        EndsInTime place instant final context) := by
  obtain ⟨after, halt, passesEnd, isOutcome, concludes⟩ := runConcludes ended
  have sound : instant.Sound := Instant.soundAlong passes trivial
  have started : (Instant.start script
      (Session.start context bindings state)).session.context.Underway := ⟨rfl, begun⟩
  have underway := (Instant.laterAlong passes).underway started
  by_cases stopped : instant.Stopped
  · refine ⟨?_, absurd stopped⟩
    have ahead := passes.reaches passesEnd
    obtain ⟨records, entries, winds⟩ := Instant.windsDownAlong ahead stopped
    exact ⟨entries, onlyEnds winds isOutcome concludes fun progress =>
      Instant.busyAlong ahead stopped (.inl progress)⟩
  · have stopsNext := stops.resolve_left stopped
    have ahead := Passes.reaches (passes.tail rfl) passesEnd
    obtain ⟨session, leaf, tasks, rfl⟩ := Instant.stopsWithin stopped stopsNext
    refine ⟨?_, fun _ => ⟨sound.1, fun context waiting => ⟨?_, ?_⟩⟩⟩
    · obtain ⟨records, entries, winds, -⟩ := leaf.windsDown place session tasks
      obtain ⟨others, more, further⟩ := Instant.windsDownAlong ahead stopsNext
      refine ⟨_, onlyEnds (winds.trans further) isOutcome concludes fun progress => ?_⟩
      refine Instant.busyAlong ahead stopsNext (.inl ?_)
      rw [Instant.InProgress, Instant.next, leaf.nextTasks place]
      exact progress
    · intro earlier during
      obtain ⟨later, duration, worked⟩ := Instant.waitingWorks stopped waiting
      rw [worked] at during
      exact RunContext.freeDuringWork (later.underway underway) during
    · have underwayNext := (Instant.laterNext place _).underway underway
      have due := (Instant.dueAlong ahead stopsNext underwayNext
        (Instant.patientNext sound waiting)).2
      rw [concludes.now]
      exact due

/-- In this script there is one step, which waits for twenty milliseconds. -/
def waitOnce : Script :=
  { Script.new "script" "wait" .epoch with steps := [Step.newWait "pause" 20] }

/-- A run that may take seven milliseconds ends in the middle of a longer step. -/
theorem stopsPromptlyWaitOnce : ∃ final found instant context,
    run .idle waitOnce (Session.start (.start "run" (some 7) 0) .empty ()) = (final, some found) ∧
      Passes .idle (.start waitOnce (Session.start (.start "run" (some 7) 0) .empty ())) instant ∧
      ¬instant.Stopped ∧ (instant.next .idle).Stopped ∧
      instant.waitingFrom .idle = some context ∧
      (∃ entries, OnlyEnds .idle instant final (some found) entries) ∧
      EndsInTime .idle instant final context ∧ found.outcome ≠ .completed := by
  have reported : ((run .idle waitOnce (Session.start (.start "run" (some 7) 0) .empty ())).2.any
      fun _ => true) = true := by decide +kernel
  obtain ⟨final, found, isRun, -⟩ := reportFound reported
  have passes := passesIterate .idle 2
    (.start waitOnce (Session.start (.start "run" (some 7) 0) .empty ()))
  generalize isInstant : (Instant.next Workplace.idle)^[2] _ = instant at passes
  have going : ¬instant.Stopped := by rw [← isInstant]; decide +kernel
  have stops : (instant.next .idle).Stopped := by rw [← isInstant]; decide +kernel
  have waiting : instant.waitingFrom .idle = some instant.session.context := by
    rw [← isInstant]
    rfl
  obtain ⟨⟨entries, only⟩, ends⟩ := stopsPromptly .idle waitOnce _ _ _ final (some found)
    (Nat.le_refl 0) isRun instant passes (.inr stops)
  obtain ⟨progress, inTime⟩ := ends going
  exact ⟨final, found, instant, _, isRun, passes, going, stops, waiting, ⟨entries, only⟩,
    inTime _ waiting, only.interrupted progress found rfl⟩

/-- Here a text is found at once while the user cancels the run, and a click takes some time. -/
def foundTooLate : Workplace Unit where
  devices :=
    { note := fun state call =>
        match call with
        | .look _ => (state, ⟨0, some 0⟩)
        | .input _ => (state, ⟨10, none⟩)
      input := fun state _ => (state, .done)
      look := fun state _ => (state, .found ⟨"text", 0.9, ⟨390, 295, 20, 10⟩⟩) }
  config := .standard
  origin := .epoch

/-- In this script a step clicks on the text for which it looks. -/
def clickOnText : Script :=
  { Script.new "script" "click" .epoch with
    steps := [.leaf (Step.newHeader "click")
      (.searchText "text" false { Step.newSensing 0.7 100 with click := some .plain })] }

/-- A step that polls when the run is cancelled may end ten milliseconds later. -/
theorem clickEndsLate : ∃ final found instant context,
    run foundTooLate clickOnText (Session.start (.start "run" none 0) .empty ()) =
        (final, some found) ∧
      Passes foundTooLate (.start clickOnText (Session.start (.start "run" none 0) .empty ()))
        instant ∧
      ¬instant.Stopped ∧ (instant.next foundTooLate).Stopped ∧
      instant.waitingFrom foundTooLate = some context ∧
      (instant.next foundTooLate).session.context.now = 0 ∧
      found.trace.map TraceEntry.finishedAt = [Time.Timestamp.epoch.addMilliseconds 10] := by
  have ended : ((run foundTooLate clickOnText
      (Session.start (.start "run" none 0) .empty ())).2.any fun found =>
        found.trace.map TraceEntry.finishedAt = [Time.Timestamp.epoch.addMilliseconds 10]) =
          true := by
    decide +kernel
  obtain ⟨final, found, isRun, isLate⟩ := reportFound ended
  have passes := passesIterate foundTooLate 2
    (.start clickOnText (Session.start (.start "run" none 0) .empty ()))
  exact ⟨final, found, _, _, isRun, passes, by decide +kernel, by decide +kernel, rfl,
    by decide +kernel, of_decide_eq_true isLate⟩

end Interpreter

end DeskScript
