/-
This file shows that searches and runs end. A search on the screen ends by itself, since some time
passes between two looks. A run ends with a report when its devices return, since no step brings it
to a breakdown then.
-/

import DeskScript.Proofs.Run.Arrival
import DeskScript.Proofs.Run.Moves
import DeskScript.Proofs.Run.Phases
import DeskScript.Proofs.Run.Records

namespace DeskScript

variable {device : Type} {place : Workplace device}

/-! ### Sleeping -/

theorem RunContext.sleepUninterrupted (context : RunContext) (duration : Nat)
    (done : (context.sleep duration).2 = none) :
    (context.sleep duration).1.now = context.now + duration := by
  rw [sleepNow]
  apply workUninterrupted
  rw [sleep] at done
  generalize context.work duration = working at done ⊢
  obtain ⟨after, _ | reason⟩ := working
  · rfl
  · cases done

namespace Leaf

/-! ### Rounds -/

/-- In a round of a search there is one look. The search ends with it or goes on after a pause. -/
def searchRound (place : Workplace device) (wait : Wait) (attempts : Nat)
    (session : Session device) : Session device × Option PollEnd :=
  match session.context.checkpoint (some wait.stepId) with
  | some abort => (session, some (.failed (.aborted abort)))
  | none =>
      match session.look place wait.look with
      | (session, .error reason) =>
          (session, some (.failed (.aborted (session.abort reason wait.stepId))))
      | (session, .ok .brokeDown) => (session, some .brokeDown)
      | (session, .ok (.unavailable unavailable)) =>
          (session, some (.failed (.unavailable unavailable)))
      | (session, .ok (.found found)) => (session, some (.found found))
      | (session, .ok .nothing) =>
          let elapsed := session.context.now - wait.startedAt
          if wait.timeout ≤ elapsed then (session, some (.failed (wait.expired (attempts + 1))))
          else
            match session.sleep (min place.config.pollWait (wait.timeout - elapsed)) with
            | (session, some reason) =>
                (session, some (.failed (.aborted (session.abort reason wait.stepId))))
            | (session, none) => (session, none)

/-- A search that may have further rounds has one, and perhaps others after it. -/
theorem pollRound (place : Workplace device) (wait : Wait) (rounds attempts : Nat)
    (session : Session device) :
    poll place wait (rounds + 1) attempts session =
      match searchRound place wait attempts session with
      | (after, some ending) => (after, ending)
      | (after, none) => poll place wait rounds (attempts + 1) after := by
  rw [poll, searchRound]
  cases session.context.checkpoint (some wait.stepId) with
  | some abort => rfl
  | none =>
      dsimp only
      generalize session.look place wait.look = looking
      obtain ⟨after, reason | found | _ | unavailable | _⟩ := looking
      · rfl
      · rfl
      · dsimp only
        by_cases isOver : wait.timeout ≤ after.context.now - wait.startedAt
        · rw [if_pos isOver, if_pos isOver]
        · rw [if_neg isOver, if_neg isOver]
          generalize after.sleep _ = sleeping
          obtain ⟨later, _ | reason⟩ := sleeping <;> rfl
      · rfl
      · rfl

/-- Between two rounds the clock goes on, but not beyond the time of the search. -/
theorem searchRoundNow {wait : Wait} {attempts : Nat} {session after : Session device}
    (begun : wait.startedAt ≤ session.context.now)
    (goesOn : searchRound place wait attempts session = (after, none)) :
    session.context.now < after.context.now ∧
      after.context.now ≤ wait.startedAt + wait.timeout := by
  have grows : session.context.now ≤ (session.look place wait.look).1.context.now :=
    (session.lookProceeds wait.look).later.now
  rw [searchRound] at goesOn
  split at goesOn
  · cases goesOn
  generalize session.look place wait.look = looking at grows goesOn
  obtain ⟨looked, reason | found | _ | unavailable | _⟩ := looking
  · cases goesOn
  · cases goesOn
  · dsimp only at grows goesOn
    split at goesOn
    · cases goesOn
    rename_i early
    generalize isDuration : min place.config.pollWait
      (wait.timeout - (looked.context.now - wait.startedAt)) = duration at goesOn
    have slept := looked.context.sleepUninterrupted duration
    rw [Session.sleep] at goesOn
    generalize looked.context.sleep duration = sleeping at slept goesOn
    obtain ⟨context, _ | reason⟩ := sleeping
    · cases goesOn
      have lasted := slept rfl
      have positive : 0 < place.config.pollWait := by
        rw [EngineConfig.pollWait]
        omega
      dsimp only at lasted ⊢
      omega
    · cases goesOn
  · cases goesOn
  · cases goesOn

/-! ### Searches -/

/-- A search goes on round after round until one ends it, however many rounds that takes. -/
inductive Searches (place : Workplace device) (wait : Wait) :
    Nat → Session device → Session device × PollEnd → Prop where
  | ends {attempts : Nat} {session after : Session device} {ending : PollEnd}
      (isRound : searchRound place wait attempts session = (after, some ending)) :
      Searches place wait attempts session (after, ending)
  | goesOn {attempts : Nat} {session after : Session device} {result : Session device × PollEnd}
      (isRound : searchRound place wait attempts session = (after, none))
      (further : Searches place wait (attempts + 1) after result) :
      Searches place wait attempts session result

/-- There are enough rounds when there is one for every millisecond that is left. -/
theorem pollSearches {wait : Wait} (rounds attempts : Nat) (session : Session device)
    (begun : wait.startedAt ≤ session.context.now)
    (early : session.context.now ≤ wait.startedAt + wait.timeout)
    (enough : wait.startedAt + wait.timeout < session.context.now + rounds) :
    Searches place wait attempts session (poll place wait rounds attempts session) := by
  induction rounds generalizing attempts session with
  | zero => omega
  | succ rounds inductionHypothesis =>
      rw [pollRound]
      generalize isRound : searchRound place wait attempts session = round
      obtain ⟨after, _ | ending⟩ := round
      · obtain ⟨later, inTime⟩ := searchRoundNow begun isRound
        apply Searches.goesOn isRound
        apply inductionHypothesis <;> omega
      · exact .ends isRound

/-- The rounds that a search is given are enough for it to end by itself. -/
theorem searchEnds (wait : Wait) (session : Session device)
    (begins : wait.startedAt = session.context.now) :
    Searches place wait 0 session (poll place wait (wait.timeout + 1) 0 session) := by
  apply pollSearches <;> omega

end Leaf

/-! ### Devices -/

/-- Devices return when they answer every call or give a reason why they cannot. -/
structure Devices.Return (devices : Devices device) : Prop where
  input : ∀ (state : device) (action : InputAction), (devices.input state action).2 ≠ .brokeDown
  look : ∀ (state : device) (look : Look), (devices.look state look).2 ≠ .brokeDown

theorem Devices.idleReturns : Devices.idle.Return where
  input _ _ := by rintro ⟨⟩
  look _ _ := by rintro ⟨⟩

/-! ### Calls -/

namespace Session

theorem inputReturns (returns : place.devices.Return) (session : Session device)
    (action : InputAction) : (session.input place action).2 ≠ .brokeDown := by
  rw [input]
  generalize session.note place (.input action) = noting
  exact returns.input _ action

theorem lookReturns (returns : place.devices.Return) (session : Session device) (look : Look) :
    (session.look place look).2 ≠ .ok .brokeDown := by
  rw [Session.look]
  generalize session.note place (.look look) = noting
  obtain ⟨after, delay⟩ := noting
  dsimp only
  generalize after.context.work delay = working
  obtain ⟨context, _ | reason⟩ := working
  · intro broken
    exact returns.look _ look (Except.ok.inj broken)
  · rintro ⟨⟩

end Session

/-! ### Actions -/

namespace Leaf

theorem inputReturns (returns : place.devices.Return) (session : Session device)
    (notes : StepNotes) (action : InputAction) :
    (input place session notes action).ending ≠ .brokeDown := by
  have answered := session.inputReturns returns action
  rw [input]
  generalize session.input place action = doing at answered ⊢
  obtain ⟨after, _ | fault | _⟩ := doing
  · rintro ⟨⟩
  · rintro ⟨⟩
  · exact absurd rfl answered

theorem searchRoundReturns (returns : place.devices.Return) (wait : Wait) (attempts : Nat)
    (session : Session device) :
    (searchRound place wait attempts session).2 ≠ some .brokeDown := by
  have answered := session.lookReturns returns wait.look
  rw [searchRound]
  split
  · rintro ⟨⟩
  generalize session.look place wait.look = looking at answered ⊢
  obtain ⟨after, reason | found | _ | unavailable | _⟩ := looking
  · rintro ⟨⟩
  · rintro ⟨⟩
  · dsimp only
    split
    · rintro ⟨⟩
    generalize after.sleep _ = sleeping
    obtain ⟨later, _ | reason⟩ := sleeping <;> rintro ⟨⟩
  · rintro ⟨⟩
  · exact absurd rfl answered

theorem pollReturns (returns : place.devices.Return) (wait : Wait) (rounds attempts : Nat)
    (session : Session device) : (poll place wait rounds attempts session).2 ≠ .brokeDown := by
  induction rounds generalizing attempts session with
  | zero => rintro ⟨⟩
  | succ rounds inductionHypothesis =>
      have answered := searchRoundReturns returns wait attempts session
      rw [pollRound]
      generalize searchRound place wait attempts session = round at answered ⊢
      obtain ⟨after, _ | ending⟩ := round
      · exact inductionHypothesis (attempts + 1) after
      · intro broken
        exact answered (congrArg some broken)

theorem useMatchReturns (returns : place.devices.Return) (session : Session device)
    (notes : StepNotes) (sensing : Sensing) (found : Match Float) :
    (useMatch place session notes sensing found).ending ≠ .brokeDown := by
  rw [useMatch]
  cases sensing.click with
  | none => rintro ⟨⟩
  | some click =>
      dsimp only
      split
      · exact inputReturns returns _ _ _
      · rintro ⟨⟩

theorem senseReturns (returns : place.devices.Return) (stepId : String) (session : Session device)
    (notes : StepNotes) (target : Target) (sensing : Sensing) :
    (sense place stepId session notes target sensing).ending ≠ .brokeDown := by
  rw [sense]
  generalize clearOutputs session sensing.output = ready
  have answered : (poll place ⟨stepId, ⟨target, sensing.region, sensing.threshold⟩,
      sensing.timeout.toNat, ready.context.now⟩ (sensing.timeout.toNat + 1) 0 ready).2 ≠
        .brokeDown := pollReturns returns _ _ _ _
  generalize poll place _ _ 0 ready = polling at answered ⊢
  obtain ⟨after, found | failure | _⟩ := polling
  · exact useMatchReturns returns after notes sensing found
  · rintro ⟨⟩
  · exact absurd rfl answered

theorem actReturns (returns : place.devices.Return) (stepId : String) (session : Session device)
    (action : Action) : (act place stepId session action).ending ≠ .brokeDown := by
  cases action with
  | click x y button count =>
      rw [act]
      split
      · rintro ⟨⟩
      · exact inputReturns returns session _ _
  | move x y duration =>
      rw [act]
      split
      · rintro ⟨⟩
      · exact inputReturns returns session _ _
  | type text interval => exact inputReturns returns session _ _
  | hotkey keys =>
      rw [act]
      split
      · rintro ⟨⟩
      · exact inputReturns returns session _ _
  | wait duration =>
      rw [act]
      generalize session.sleep duration.toNat = sleeping
      obtain ⟨after, _ | reason⟩ := sleeping <;> rintro ⟨⟩
  | waitImage template sensing => exact senseReturns returns stepId session _ _ sensing
  | searchText query isExact sensing => exact senseReturns returns stepId session _ _ sensing

/-! ### Attempts -/

theorem furtherAttemptReturns (returns : place.devices.Return) (stepId : String) (action : Action)
    (later : Nat) (session : Session device) :
    (furtherAttempt place stepId action later session).ending ≠ .brokeDown := by
  induction later generalizing session with
  | zero => exact actReturns returns stepId session action
  | succ later inductionHypothesis => exact inductionHypothesis _

/-- A step that did not break down does not bring its run to a breakdown either. -/
theorem concludeReturns (step : Step) (depth : Nat) (startedAt : Time.Timestamp)
    (run : ActionRun device) (number : Nat) (works : run.ending ≠ .brokeDown) :
    (conclude place step depth startedAt run number).2 ≠ some .brokeDown := by
  obtain ⟨after, notes, ending⟩ := run
  cases ending with
  | brokeDown => exact absurd rfl works
  | done =>
      rw [conclude, succeed]
      generalize Session.sleep _ _ = sleeping
      obtain ⟨later, _ | reason⟩ := sleeping <;> rintro ⟨⟩
  | failed failure =>
      cases failure with
      | aborted abort => rintro ⟨⟩
      | _ =>
          simp only [conclude, fail]
          split <;> rintro ⟨⟩

theorem attemptReturns (returns : place.devices.Return) (step : Step) (action : Action)
    (depth : Nat) (startedAt : Time.Timestamp) (left number : Nat) (session : Session device) :
    (attempt place step action depth startedAt left number session).2 ≠ some .brokeDown := by
  obtain ⟨last, -, -, -, concluded⟩ :=
    attemptConcludes place step action depth startedAt left number session
  rw [concluded]
  apply concludeReturns
  exact furtherAttemptReturns returns step.id action last session

end Leaf

/-! ### Runs -/

namespace Interpreter

/-- Only a leaf step uses the devices, so no other move could break the run down. -/
theorem Move.works (returns : place.devices.Return) {before after : Moment device}
    (moves : Move place before after) (works : before.halt ≠ some .brokeDown) :
    after.halt ≠ some .brokeDown := by
  cases moves with
  | idle => exact works
  | dropped => exact works
  | unwound => exact works
  | leaf session depth header action => exact Leaf.attemptReturns returns _ action depth _ _ _ _
  | _ => rintro ⟨⟩

theorem Leads.works (returns : place.devices.Return) {before after : Moment device}
    (leads : Leads place before after) (works : before.halt ≠ some .brokeDown) :
    after.halt ≠ some .brokeDown :=
  leads.keeps works fun moves => moves.works returns

/-- A run whose devices return ends with a report. -/
theorem runReturns (returns : place.devices.Return) (script : Script) (session : Session device) :
    ∃ final found, run place script session = (final, some found) := by
  have leads := runAllLeads place 0 script.steps { session with context := session.context.arm } []
  rw [run]
  generalize runAll place 0 script.steps { session with context := session.context.arm } = flow
    at leads ⊢
  obtain ⟨after, halt⟩ := flow
  have works : halt ≠ some .brokeDown := leads.works returns worksOfNone
  cases halt with
  | none => exact ⟨_, _, rfl⟩
  | some reason =>
      cases reason with
      | brokeDown => exact absurd rfl works
      | _ => exact ⟨_, _, rfl⟩

end Interpreter

end DeskScript
