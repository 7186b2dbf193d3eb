/-
This file shows which listeners hear how a run ended. Two more events follow its outcome, and a feed
that keeps fewer than three events loses it for those that read late.
-/

import DeskScript.Proofs.Engine.Exclusion
import DeskScript.Proofs.Engine.Listening
import DeskScript.Proofs.Run.Frame

namespace DeskScript

variable {device : Type}

/-! ### The last events of a run -/

namespace Shift

/-- This run has given the engine back, and that the engine is idle is published next. -/
def isFreed (shift : Shift device) : Bool :=
  match shift.worker.stage with
  | .freed _ => true
  | _ => false

/-- A run publishes events from its announcement on until it tells that the engine is idle. -/
def isPublishing (shift : Shift device) : Bool :=
  match shift.worker.stage with
  | .ready | .ran _ | .told _ | .freed _ => true
  | .accepted | .over _ => false

/-- These events have been published last if the run has ended and still publishes. -/
def ending (shift : Shift device) : List RunEvent :=
  let event := RunEvent.mk shift.worker.runId
  match shift.worker.stage with
  | .ran found => [event (.runFinished found.outcome)]
  | .told found | .freed found =>
      [event (.runFinished found.outcome), event (.stateChanged (.ofOutcome found.outcome))]
  | .accepted | .ready | .over _ => []

/-- The session of a run carries the name of this run. -/
def IsNamed (shift : Shift device) : Prop :=
  shift.instant.session.context.runId = shift.worker.runId

theorem activeOrFreed {shift : Shift device} (publishes : shift.isPublishing = true) :
    shift.isActive = true ∨ shift.isFreed = true := by
  unfold isPublishing at publishes
  unfold isActive isFreed
  cases stage : shift.worker.stage <;> simp_all [WorkerStage.isActive]

theorem endingOfSilent {shift : Shift device} (silent : shift.isPublishing = false) :
    shift.ending = [] := by
  unfold isPublishing at silent
  unfold ending
  cases stage : shift.worker.stage <;> simp_all

theorem Goes.named {engine begun : Engine device} {shift later : Shift device}
    (goes : Goes engine shift begun later) (named : shift.IsNamed) : later.IsNamed := by
  unfold IsNamed at named ⊢
  cases goes with
  | cancels delay =>
      refine Eq.trans ?_ named
      rw [cancelAfter]
      cases shift.instant with
      | between moment => exact moment.session.context.cancelAfterRunId delay
      | within session leaf tasks => exact session.context.cancelAfterRunId delay
  | goesOn => exact (shift.instant.onwardNext engine.place).runId.trans named
  | finishes session halt outcome works isOver =>
      rw [isOver] at named
      exact named
  | _ => exact named

/-- A shift that goes on publishes nothing new unless it has been announced. -/
theorem Goes.publishing {engine begun : Engine device} {shift later : Shift device}
    (goes : Goes engine shift begun later) (publishes : later.isPublishing = true) :
    shift.isPublishing = true := by
  cases goes with
  | rests => exact publishes
  | cancels => exact publishes
  | goesOn => exact publishes
  | breaksDown => cases publishes
  | finishes session halt outcome works => simp [isPublishing, works]
  | tells found ran => simp [isPublishing, ran]
  | frees found told => simp [isPublishing, told]
  | closes => cases publishes

/-- What a shift publishes when it goes on comes behind the last events of its run. -/
theorem Goes.endingGrows {engine begun : Engine device} {shift later : Shift device}
    (goes : Goes engine shift begun later) (named : shift.IsNamed) :
    ∃ more, begun.feed.sent.toList = engine.feed.sent.toList ++ more ∧
      (more = [] ∨ shift.isPublishing = true) ∧
      (later.ending = [] ∨ later.ending = shift.ending ++ more) := by
  cases goes with
  | rests => exact ⟨[], (List.append_nil _).symm, .inl rfl, .inr (List.append_nil _).symm⟩
  | cancels => exact ⟨[], (List.append_nil _).symm, .inl rfl, .inr (List.append_nil _).symm⟩
  | goesOn works =>
      obtain ⟨more, -, events⟩ := (shift.instant.onwardNext engine.place).events
      refine ⟨_, engine.followSent events, .inr ?_, .inl ?_⟩
      · simp [isPublishing, works]
      · simp [ending, works]
  | breaksDown => exact ⟨[], (List.append_nil _).symm, .inl rfl, .inl rfl⟩
  | finishes session halt outcome works isOver =>
      have isName : session.context.runId = shift.worker.runId := by
        unfold IsNamed at named
        rw [isOver] at named
        exact named
      refine ⟨_, engine.followSent (Floor.reportEvents engine shift session outcome), .inr ?_,
        .inr ?_⟩
      · simp [isPublishing, works]
      · simp only [ending, reach, works, isName]
        rfl
  | tells found ran =>
      refine ⟨_, Feed.sentSend _ _, .inr ?_, .inr ?_⟩
      · simp [isPublishing, ran]
      · simp [ending, reach, ran]
  | frees found told =>
      refine ⟨[], (List.append_nil _).symm, .inl rfl, .inr ?_⟩
      simp [ending, reach, told]
  | closes found freed =>
      refine ⟨_, Feed.sentSend _ _, .inr ?_, .inl rfl⟩
      simp [isPublishing, freed]

end Shift

namespace Floor

/-! ### One run after the other -/

/-- At most one run publishes events at a time. -/
structure InTurn (floor : Floor device) : Prop where
  exclusive : floor.Exclusive
  alone : floor.shifts.countP Shift.isPublishing ≤ 1
  named : ∀ shift ∈ floor.shifts, shift.IsNamed

theorem inTurnOpened (place : Workplace device) (state : device) :
    (opened place state).InTurn where
  exclusive := .inr ⟨rfl, rfl⟩
  alone := Nat.zero_le _
  named _ member := absurd member List.not_mem_nil

/-- When a run is announced after all others have told that they are over, it publishes alone. -/
theorem InTurn.othersSilent {floor : Floor device} (inTurn : floor.InTurn)
    {before after : List (Shift device)} {shift : Shift device}
    (shifts : floor.shifts = before ++ shift :: after) (accepted : shift.worker.stage = .accepted)
    (clear : ∀ shift ∈ floor.shifts, shift.isFreed = false) :
    (∀ other ∈ before, other.isPublishing = false) ∧
      ∀ other ∈ after, other.isPublishing = false := by
  obtain ⟨idleBefore, idleAfter⟩ :=
    inTurn.exclusive.othersInactive shifts (Shift.activeOfAccepted accepted)
  rw [shifts] at clear
  have silent (other : Shift device) (inactive : other.isActive = false)
      (member : other ∈ before ++ shift :: after) : other.isPublishing = false := by
    apply Bool.eq_false_iff.mpr
    intro publishes
    obtain isActive | isFreed := Shift.activeOrFreed publishes
    · rw [inactive] at isActive
      cases isActive
    · rw [clear other member] at isFreed
      cases isFreed
  constructor
  · intro other member
    exact silent other (idleBefore other member) (List.mem_append_left _ member)
  · intro other member
    exact silent other (idleAfter other member)
      (List.mem_append_right _ (List.mem_cons_of_mem _ member))

theorem Goes.inTurn {floor later : Floor device} {turn : Turn} (goes : floor.Goes turn later)
    (inTurn : floor.InTurn)
    (clear : floor.announces turn = true → ∀ shift ∈ floor.shifts, shift.isFreed = false) :
    later.InTurn := by
  have exclusive := goes.exclusive inTurn.exclusive
  have alone := inTurn.alone
  have named := inTurn.named
  cases goes with
  | stays => exact inTurn
  | opens script runId overrides engine worker silent accepted =>
      obtain ⟨-, -, rfl, rfl⟩ := Engine.acceptedOf accepted
      refine ⟨exclusive, ?_, ?_⟩
      · rw [List.countP_append]
        exact alone
      · intro shift member
        obtain early | last := List.mem_append.mp member
        · exact named shift early
        · rw [List.mem_singleton.mp last]
          rfl
  | announces before after shift shifts accepted announced =>
      obtain ⟨silentBefore, silentAfter⟩ :=
        inTurn.othersSilent shifts accepted (clear announced)
      rw [shifts] at named
      have here := named shift (List.mem_append_right _ List.mem_cons_self)
      refine ⟨exclusive, ?_, allReplaced named here⟩
      have noneBefore : before.countP Shift.isPublishing = 0 := by
        simpa [List.countP_eq_zero] using silentBefore
      have noneAfter : after.countP Shift.isPublishing = 0 := by
        simpa [List.countP_eq_zero] using silentAfter
      rw [countSplit, noneBefore, noneAfter]
      split <;> omega
  | goesOn before after shift later engine shifts silent goes =>
      rw [shifts] at named alone
      have here := named shift (List.mem_append_right _ List.mem_cons_self)
      refine ⟨exclusive, ?_, allReplaced named (goes.named here)⟩
      rw [countSplit] at alone ⊢
      have fewer := goes.publishing
      split
      · rename_i publishes
        rw [fewer publishes, if_pos rfl] at alone
        exact alone
      · omega

/-! ### The place of the last events -/

/-- The last events of the run with an index have been published behind a position of the feed. -/
structure EndsBehind (start index : Nat) (floor : Floor device) : Prop where
  inTurn : floor.InTurn
  begun : start ≤ floor.engine.feed.sent.toList.length
  behind : ∀ shift, floor.shifts[index]? = some shift →
    ∃ front, start ≤ front.length ∧ floor.engine.feed.sent.toList = front ++ shift.ending

/-- One of the shifts has been replaced, and the others are found where they were. -/
theorem foundReplaced {before after : List (Shift device)} {shift later other : Shift device}
    {index : Nat} (found : (before ++ later :: after)[index]? = some other) :
    (other = later ∧ (before ++ shift :: after)[index]? = some shift) ∨
      ((other ∈ before ∨ other ∈ after) ∧ (before ++ shift :: after)[index]? = some other) := by
  obtain early | same | late := Nat.lt_trichotomy index before.length
  · rw [List.getElem?_append_left early] at found ⊢
    exact .inr ⟨.inl (List.mem_of_getElem? found), found⟩
  · subst same
    rw [List.getElem?_append_right (Nat.le_refl _), Nat.sub_self, List.getElem?_cons_zero] at found ⊢
    exact .inl ⟨(Option.some.inj found).symm, rfl⟩
  · obtain ⟨offset, isOffset⟩ : ∃ offset, index - before.length = offset + 1 :=
      ⟨index - before.length - 1, by omega⟩
    rw [List.getElem?_append_right (by omega), isOffset, List.getElem?_cons_succ] at found ⊢
    exact .inr ⟨.inr (List.mem_of_getElem? found), found⟩

/-- When one shift publishes, the others have nothing published last. -/
theorem EndsBehind.replaced {start index : Nat} {floor : Floor device}
    (ends : floor.EndsBehind start index) {before after : List (Shift device)}
    {shift later : Shift device} (shifts : floor.shifts = before ++ shift :: after)
    {engine : Engine device} {more : List RunEvent}
    (sent : engine.feed.sent.toList = floor.engine.feed.sent.toList ++ more)
    (others : more = [] ∨ (∀ other ∈ before, other.isPublishing = false) ∧
      ∀ other ∈ after, other.isPublishing = false)
    (ending : later.ending = [] ∨ later.ending = shift.ending ++ more)
    (inTurn : (Floor.mk engine (before ++ later :: after)).InTurn) :
    (Floor.mk engine (before ++ later :: after)).EndsBehind start index := by
  obtain ⟨-, begun, behind⟩ := ends
  rw [shifts] at behind
  have further : start ≤ engine.feed.sent.toList.length := by
    rw [sent, List.length_append]
    omega
  have nothing {other : Shift device} (noEnding : other.ending = []) :
      ∃ front, start ≤ front.length ∧ engine.feed.sent.toList = front ++ other.ending :=
    ⟨_, further, by rw [noEnding, List.append_nil]⟩
  refine ⟨inTurn, further, fun other found => ?_⟩
  obtain ⟨rfl, here⟩ | ⟨around, there⟩ := @foundReplaced _ before after shift later other index found
  · obtain none | grown := ending
    · exact nothing none
    · obtain ⟨front, enough, isFront⟩ := behind shift here
      exact ⟨front, enough, by rw [sent, isFront, grown, List.append_assoc]⟩
  · obtain rfl | ⟨silentBefore, silentAfter⟩ := others
    · rw [sent, List.append_nil]
      exact behind other there
    · exact nothing
        (Shift.endingOfSilent (around.elim (silentBefore other) (silentAfter other)))

theorem Goes.endsBehind {floor later : Floor device} {turn : Turn} (goes : floor.Goes turn later)
    {start index : Nat} (ends : floor.EndsBehind start index)
    (clear : floor.announces turn = true → ∀ shift ∈ floor.shifts, shift.isFreed = false) :
    later.EndsBehind start index := by
  have inTurn := goes.inTurn ends.inTurn clear
  cases goes with
  | stays => exact ends
  | opens script runId overrides engine worker silent accepted =>
      obtain ⟨-, -, rfl, rfl⟩ := Engine.acceptedOf accepted
      refine ⟨inTurn, ends.begun, fun shift found => ?_⟩
      by_cases early : index < floor.shifts.length
      · rw [List.getElem?_append_left early] at found
        exact ends.behind shift found
      · rw [List.getElem?_append_right (Nat.le_of_not_lt early)] at found
        rw [List.mem_singleton.mp (List.mem_of_getElem? found)]
        exact ⟨_, ends.begun, (List.append_nil _).symm⟩
  | announces before after shift shifts accepted announced =>
      exact ends.replaced shifts (Feed.sentSend _ _)
        (.inr (ends.inTurn.othersSilent shifts accepted (clear announced))) (.inl rfl) inTurn
  | goesOn before after shift later engine shifts silent goes =>
      have here : shift ∈ floor.shifts := by
        rw [shifts]
        exact List.mem_append_right _ List.mem_cons_self
      have alone := ends.inTurn.alone
      rw [shifts] at alone
      obtain ⟨more, sent, publishes, ending⟩ := goes.endingGrows (ends.inTurn.named shift here)
      exact ends.replaced shifts sent (publishes.imp id (othersDiffer alone)) ending inTurn

/-- What a run publishes at its end comes behind everything that was published before its start. -/
theorem endsBehindStart (place : Workplace device) (state : device) (earlier later : List Turn)
    (index : Nat) (patient : (opened place state).heeds Shift.isFreed (earlier ++ later) = true)
    (late : ((opened place state).takeTurns earlier).shifts.length ≤ index) :
    ((opened place state).takeTurns (earlier ++ later)).EndsBehind
      ((opened place state).takeTurns earlier).engine.feed.sent.size index := by
  rw [heedsAppend, Bool.and_eq_true] at patient
  have inTurn : ((opened place state).takeTurns earlier).InTurn :=
    keepsHeeding earlier patient.1 (inTurnOpened place state) fun floor turn clear inTurn =>
      (floor.takeTurnGoes turn).inTurn inTurn clear
  rw [takeTurnsAppend]
  refine keepsHeeding later patient.2 ⟨inTurn, ?_, fun shift found => ?_⟩ fun floor turn clear ends =>
    (floor.takeTurnGoes turn).endsBehind ends clear
  · exact Nat.le_of_eq Array.length_toList.symm
  · rw [List.getElem?_eq_none late] at found
    cases found

/-- A run that has given the engine back publishes that the engine is idle. -/
theorem workFreed (floor : Floor device) (index : Nat) (shift : Shift device) (found : RunReport)
    (isShift : floor.shifts[index]? = some shift) (freed : shift.worker.stage = .freed found) :
    (floor.takeTurn (.work index)).engine = floor.engine.publish shift.worker.runId .idle := by
  rw [takeTurn, change, isShift]
  simp only [Shift.work, freed, Engine.advance]

/--
A listener subscribes before a run starts, and until the run has published its last event no run is
announced while another one has given the engine back without having told so. The last event is that
the engine is idle. Every listener that has then caught up, at whatever speed it has read, has heard
the outcome exactly if the settings ask for a buffer of three events or more.
-/
theorem endHeard (place : Workplace device) (state : device) (earlier later : List Turn)
    (index : Nat) (shift : Shift device) (found : RunReport)
    (patient : (opened place state).heeds Shift.isFreed (earlier ++ later) = true)
    (late : ((opened place state).takeTurns earlier).shifts.length ≤ index)
    (isShift : ((opened place state).takeTurns (earlier ++ later)).shifts[index]? = some shift)
    (freed : shift.worker.stage = .freed found) :
    let subscribed := ((opened place state).takeTurns earlier).engine.feed
    let last := ((opened place state).takeTurns (earlier ++ later ++ [.work index])).engine.feed
    last.sent.toList.getLast? = some ⟨shift.worker.runId, .stateChanged .idle⟩ ∧
      ((∀ listener, subscribed.Attends last listener → last.CaughtUp listener →
          ⟨shift.worker.runId, .runFinished found.outcome⟩ ∈ listener.heard) ↔
        3 ≤ place.config.eventBuffer.toNat) := by
  intro subscribed last
  obtain ⟨-, -, behind⟩ := endsBehindStart place state earlier later index patient late
  obtain ⟨front, enough, isFront⟩ := behind shift isShift
  have isLast : last = ((opened place state).takeTurns (earlier ++ later)).engine.feed.send
      ⟨shift.worker.runId, .stateChanged .idle⟩ := by
    show ((opened place state).takeTurns (earlier ++ later ++ [.work index])).engine.feed = _
    rw [takeTurnsAppend]
    exact congrArg Engine.feed (workFreed _ index shift found isShift freed)
  have sent : last.sent.toList = front ++
      [⟨shift.worker.runId, .runFinished found.outcome⟩,
        ⟨shift.worker.runId, .stateChanged (.ofOutcome found.outcome)⟩,
        ⟨shift.worker.runId, .stateChanged .idle⟩] := by
    rw [isLast, Feed.sentSend, isFront, List.append_assoc]
    simp [Shift.ending, freed]
  have grown : subscribed.sent.toList <+: last.sent.toList ∧
      last.capacity = subscribed.capacity := by
    have grows := ((opened place state).takeTurns earlier).takeTurnsGrows (later ++ [.work index])
    rwa [← takeTurnsAppend, ← List.append_assoc] at grows
  have room : last.capacity =
      (Feed.withRoom (max place.config.eventBuffer.toNat 1) : Feed RunEvent).capacity :=
    grown.2.trans ((opened place state).takeTurnsGrows earlier).2
  refine ⟨by rw [sent, List.getLast?_append]; rfl, ?_⟩
  rw [Feed.heardIffKept grown.2 grown.1, ← @Feed.roomForThree RunEvent, ← room]
  exact Feed.keptIff _ sent enough (by simp)

/-- A run without steps is started, and its worker goes on until it has given the engine back. -/
def restingRun : List Turn :=
  .start (Script.new "script" "rest" .epoch) "run" .empty :: List.replicate 5 (.work 0)

/-- With the usual settings every listener that has caught up has heard how this run ended. -/
theorem endHeardResting :
    ∃ (shift : Shift Unit) (found : RunReport),
      ((opened .idle ()).takeTurns restingRun).shifts[0]? = some shift ∧
      shift.worker.stage = .freed found ∧
      ∀ listener,
        (opened .idle ()).engine.feed.Attends
          ((opened .idle ()).takeTurns (restingRun ++ [.work 0])).engine.feed listener →
        ((opened .idle ()).takeTurns (restingRun ++ [.work 0])).engine.feed.CaughtUp listener →
        ⟨shift.worker.runId, .runFinished found.outcome⟩ ∈ listener.heard := by
  have patient : (opened .idle ()).heeds Shift.isFreed ([] ++ restingRun) = true := by
    decide +kernel
  have reached : ((opened .idle ()).takeTurns restingRun).shifts[0]?.any Shift.isFreed = true := by
    decide +kernel
  cases isShift : ((opened .idle ()).takeTurns restingRun).shifts[0]? with
  | none =>
      rw [isShift] at reached
      cases reached
  | some shift =>
      have isFreed : shift.isFreed = true := by
        rw [isShift] at reached
        exact reached
      unfold Shift.isFreed at isFreed
      split at isFreed
      · rename_i found freed
        have heard := endHeard .idle () [] restingRun 0 shift found patient (Nat.le_refl _) isShift
          freed
        exact ⟨shift, found, rfl, freed, heard.2.mpr (by decide)⟩
      · cases isFreed

/-- This workplace keeps one event for those that read late. -/
def narrow : Workplace Unit :=
  { Workplace.idle with config := { Workplace.idle.config with eventBuffer := 1 } }

/-- A listener that reads late hears nothing but that the engine is idle, and not how the run ended. -/
theorem endLost :
    ⟨"run", .runFinished .completed⟩ ∈
        ((opened narrow ()).takeTurns (restingRun ++ [.work 0])).engine.feed.sent.toList ∧
      ∃ listener,
        (opened narrow ()).engine.feed.Attends
          ((opened narrow ()).takeTurns (restingRun ++ [.work 0])).engine.feed listener ∧
        ((opened narrow ()).takeTurns (restingRun ++ [.work 0])).engine.feed.CaughtUp listener ∧
        listener.heard = [⟨"run", .stateChanged .idle⟩] ∧
        ⟨"run", .runFinished .completed⟩ ∉ listener.heard := by
  have published : (⟨"run", .runFinished .completed⟩ : RunEvent) ∈
      ((opened narrow ()).takeTurns (restingRun ++ [.work 0])).engine.feed.sent.toList := by
    decide +kernel
  have kept : ((opened narrow ()).takeTurns (restingRun ++ [.work 0])).engine.feed.rest
      (opened narrow ()).engine.feed.sent.size = [⟨"run", .stateChanged .idle⟩] := by
    decide +kernel
  obtain ⟨grown, capacity⟩ := (opened narrow ()).takeTurnsGrows (restingRun ++ [.work 0])
  obtain ⟨listener, attends, caughtUp, heard⟩ := Feed.onlyRestHeard capacity grown
  rw [kept] at heard
  refine ⟨published, listener, attends, caughtUp, heard, ?_⟩
  rw [heard]
  simp

end Floor

end DeskScript
