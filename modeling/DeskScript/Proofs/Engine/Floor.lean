/-
This file lets the runs of one engine go on side by side. They are started and cancelled, they go on
from instant to instant and may break down, and all this comes in any order.
-/

import DeskScript.Proofs.Run.Onward
import DeskScript.Run.Engine

namespace DeskScript

variable {device : Type}

open Interpreter (Instant)

/-- The engine takes over what a run did to its devices, and publishes what is new in its session. -/
def Engine.follow (engine : Engine device) (before after : Session device) : Engine device :=
  { engine with
    device := after.device
    now := after.context.now
    feed := engine.feed.sendAll (after.events.extract before.events.size) }

theorem Engine.followSent (engine : Engine device) {before after : Session device}
    {more : List RunEvent} (events : after.events.toList = before.events.toList ++ more) :
    (engine.follow before after).feed.sent.toList = engine.feed.sent.toList ++ more := by
  have isAfter : after.events = before.events ++ more.toArray := by
    apply Array.ext'
    simpa using events
  simp [follow, Feed.sendAll, isAfter]

/-- An engine accepts a valid script when it is not running. -/
theorem Engine.acceptedOf {engine begun : Engine device} {script : Script} {runId : String}
    {overrides : Table String} {worker : Worker}
    (accepted : engine.accept script runId overrides = .ok (begun, worker)) :
    script.validate = .ok () ∧ engine.state ≠ .running ∧ begun = { engine with state := .running } ∧
      worker = ⟨runId, script, Bindings.seeded script.defaults overrides, .accepted⟩ := by
  unfold accept at accepted
  split at accepted
  · cases accepted
  · rename_i valid
    split at accepted
    · cases accepted
    · rename_i free
      cases accepted
      exact ⟨valid, by simpa [isRunning] using free, rfl, rfl⟩

/-- A run is active from its start until it gives the engine back. -/
def WorkerStage.isActive : WorkerStage → Bool
  | .accepted | .ready | .ran _ | .told _ => true
  | .freed _ | .over _ => false

def Interpreter.Instant.cancelAfter (delay : Nat) : Instant device → Instant device
  | .between moment =>
      .between { moment with
        session.context := moment.session.context.cancelAfter delay }
  | .within session leaf tasks =>
      .within { session with context := session.context.cancelAfter delay } leaf tasks

/-! ### Shifts -/

/-- A shift is a run that was accepted, with the instant to which its steps have come. -/
structure Shift (device : Type) where
  worker : Worker
  /-- The steps of the run begin in this state. -/
  opening : Session device
  instant : Instant device
  /-- It has been published for this run that the engine is running. -/
  announced : Bool

namespace Shift

/-- All steps of its script lie before a run that has just been accepted. -/
def opened (engine : Engine device) (worker : Worker) : Shift device :=
  let opening := engine.openSession worker
  ⟨worker, opening, .start worker.script opening, false⟩

def isActive (shift : Shift device) : Bool := shift.worker.stage.isActive

def isAccepted (shift : Shift device) : Bool :=
  match shift.worker.stage with
  | .accepted => true
  | _ => false

def reach (shift : Shift device) (stage : WorkerStage) : Shift device :=
  { shift with worker := { shift.worker with stage } }

def cancelAfter (shift : Shift device) (delay : Nat) : Shift device :=
  { shift with instant := shift.instant.cancelAfter delay }

/-- A run that breaks down gives the engine back and publishes nothing. -/
def breakDown (engine : Engine device) (shift : Shift device) : Engine device × Shift device :=
  ({ engine with state := .idle }, shift.reach (.over none))

/-- This is the last session of a run with an outcome, and its report. -/
def report (engine : Engine device) (shift : Shift device) (session : Session device)
    (outcome : RunOutcome) : Session device × RunReport :=
  Interpreter.report engine.place shift.worker.script (shift.opening.time engine.place) session
    outcome

/-- When no steps are left a run publishes its outcome, or it breaks down. -/
def endSteps (engine : Engine device) (shift : Shift device) (session : Session device)
    (halt : Option Halt) : Engine device × Shift device :=
  match Interpreter.outcome? halt with
  | none => breakDown engine shift
  | some outcome =>
      let (final, report) := report engine shift session outcome
      (engine.follow session final,
        { shift with instant := .between ⟨final, halt, []⟩ }.reach (.ran report))

/-- The steps of a run go on to the next instant. -/
def goOn (engine : Engine device) (shift : Shift device) : Engine device × Shift device :=
  match shift.instant with
  | .between ⟨session, halt, []⟩ => endSteps engine shift session halt
  | instant =>
      let later := instant.next engine.place
      (engine.follow instant.session later.session, { shift with instant := later })

/-- The worker of a run does the next thing that it has to do. -/
def work (engine : Engine device) (shift : Shift device) : Engine device × Shift device :=
  match shift.worker.stage with
  | .accepted =>
      let (engine, worker) := engine.advance shift.worker
      (engine, { shift with worker, announced := true })
  | .ready => goOn engine shift
  | _ =>
      let (engine, worker) := engine.advance shift.worker
      (engine, { shift with worker })

/-- A run may break down before it has an outcome, also when it gets no thread to begin with. -/
def fail (engine : Engine device) (shift : Shift device) : Engine device × Shift device :=
  match shift.worker.stage with
  | .accepted | .ready => breakDown engine shift
  | _ => (engine, shift)

end Shift

/-! ### Turns -/

/-- On the floor of an engine are all runs that it ever accepted, in the order of their starts. -/
structure Floor (device : Type) where
  engine : Engine device
  shifts : List (Shift device)

/-- Somebody takes a turn: a caller of the engine, a holder of a run, or the worker of a run. -/
inductive Turn where
  | start (script : Script) (runId : String) (overrides : Table String)
  | cancel (index delay : Nat)
  | work (index : Nat)
  | fail (index : Nat)

namespace Floor

def opened (place : Workplace device) (state : device) : Floor device :=
  ⟨.new place state, []⟩

/-- A run that is accepted begins a shift, and a caller who is refused learns why. -/
def start (floor : Floor device) (script : Script) (runId : String) (overrides : Table String) :
    Floor device × Except EngineFault Unit :=
  match floor.engine.accept script runId overrides with
  | .error fault => (floor, .error fault)
  | .ok (engine, worker) => (⟨engine, floor.shifts ++ [.opened engine worker]⟩, .ok ())

/-- One shift goes on, if there is one with this index. -/
def change (floor : Floor device) (index : Nat)
    (act : Engine device → Shift device → Engine device × Shift device) : Floor device :=
  match floor.shifts[index]? with
  | none => floor
  | some shift =>
      let (engine, later) := act floor.engine shift
      ⟨engine, floor.shifts.set index later⟩

def takeTurn (floor : Floor device) : Turn → Floor device
  | .start script runId overrides => (floor.start script runId overrides).1
  | .cancel index delay => floor.change index fun engine shift => (engine, shift.cancelAfter delay)
  | .work index => floor.change index Shift.work
  | .fail index => floor.change index Shift.fail

def takeTurns (floor : Floor device) (turns : List Turn) : Floor device :=
  turns.foldl takeTurn floor

/-- With this turn it is published for a run that the engine is running. -/
def announces (floor : Floor device) : Turn → Bool
  | .work index => floor.shifts[index]?.any Shift.isAccepted
  | _ => false

theorem takeTurnsAppend (floor : Floor device) (first second : List Turn) :
    floor.takeTurns (first ++ second) = (floor.takeTurns first).takeTurns second :=
  List.foldl_append

/-- What holds at first and is kept by every turn always holds. -/
@[elab_as_elim]
theorem keeps {property : Floor device → Prop} {floor : Floor device} (turns : List Turn)
    (first : property floor)
    (kept : ∀ floor turn, property floor → property (floor.takeTurn turn)) :
    property (floor.takeTurns turns) := by
  induction turns generalizing floor with
  | nil => exact first
  | cons turn rest inductionHypothesis => exact inductionHypothesis (kept floor turn first)

/-- No run is announced as long as there is a shift for which it should wait. -/
def heeds (minds : Shift device → Bool) : Floor device → List Turn → Bool
  | _, [] => true
  | floor, turn :: rest =>
      !(floor.announces turn && floor.shifts.any minds) && heeds minds (floor.takeTurn turn) rest

theorem heedsAppend (minds : Shift device → Bool) (floor : Floor device)
    (first second : List Turn) :
    floor.heeds minds (first ++ second) =
      (floor.heeds minds first && (floor.takeTurns first).heeds minds second) := by
  induction first generalizing floor with
  | nil => rfl
  | cons turn rest inductionHypothesis =>
      rw [List.cons_append, heeds, heeds, inductionHypothesis, Bool.and_assoc]
      rfl

/-- What is kept by every turn that waits for others holds as long as all turns do. -/
@[elab_as_elim]
theorem keepsHeeding {minds : Shift device → Bool} {property : Floor device → Prop}
    {floor : Floor device} (turns : List Turn) (heeded : floor.heeds minds turns = true)
    (first : property floor)
    (kept : ∀ floor turn,
      (floor.announces turn = true → ∀ shift ∈ floor.shifts, minds shift = false) →
        property floor → property (floor.takeTurn turn)) :
    property (floor.takeTurns turns) := by
  induction turns generalizing floor with
  | nil => exact first
  | cons turn rest inductionHypothesis =>
      simp only [heeds, Bool.and_eq_true, Bool.not_eq_true', Bool.and_eq_false_iff,
        List.any_eq_false, Bool.not_eq_true] at heeded
      refine inductionHypothesis heeded.2 (kept floor turn (fun announced => ?_) first)
      obtain silent | waits := heeded.1
      · rw [announced] at silent
        cases silent
      · exact waits

end Floor

/-! ### What a turn can do -/

namespace Shift

/-- These are the ways in which a shift goes on, with what becomes of the engine. -/
inductive Goes (engine : Engine device) (shift : Shift device) :
    Engine device → Shift device → Prop where
  | rests : Goes engine shift engine shift
  | cancels (delay : Nat) : Goes engine shift engine (shift.cancelAfter delay)
  | goesOn (works : shift.worker.stage = .ready) :
      Goes engine shift
        (engine.follow shift.instant.session (shift.instant.next engine.place).session)
        { shift with instant := shift.instant.next engine.place }
  | breaksDown (begun : shift.worker.stage = .accepted ∨ shift.worker.stage = .ready) :
      Goes engine shift { engine with state := .idle } (shift.reach (.over none))
  | finishes (session : Session device) (halt : Option Halt) (outcome : RunOutcome)
      (works : shift.worker.stage = .ready) (isOver : shift.instant = .between ⟨session, halt, []⟩)
      (isOutcome : Interpreter.outcome? halt = some outcome) :
      Goes engine shift (engine.follow session (report engine shift session outcome).1)
        ({ shift with
          instant := .between ⟨(report engine shift session outcome).1, halt, []⟩ }.reach
            (.ran (report engine shift session outcome).2))
  | tells (found : RunReport) (ran : shift.worker.stage = .ran found) :
      Goes engine shift (engine.publish shift.worker.runId (.ofOutcome found.outcome))
        (shift.reach (.told found))
  | frees (found : RunReport) (told : shift.worker.stage = .told found) :
      Goes engine shift { engine with state := .idle } (shift.reach (.freed found))
  | closes (found : RunReport) (freed : shift.worker.stage = .freed found) :
      Goes engine shift (engine.publish shift.worker.runId .idle)
        (shift.reach (.over (some found)))

theorem endStepsGoes (engine : Engine device) (shift : Shift device) (session : Session device)
    (halt : Option Halt) (works : shift.worker.stage = .ready)
    (isOver : shift.instant = .between ⟨session, halt, []⟩) :
    Goes engine shift (endSteps engine shift session halt).1
      (endSteps engine shift session halt).2 := by
  rw [endSteps]
  cases isOutcome : Interpreter.outcome? halt with
  | none => exact .breaksDown (.inr works)
  | some outcome => exact .finishes session halt outcome works isOver isOutcome

theorem goOnGoes (engine : Engine device) (shift : Shift device)
    (works : shift.worker.stage = .ready) :
    Goes engine shift (goOn engine shift).1 (goOn engine shift).2 := by
  unfold goOn
  split
  · rename_i session halt isOver
    exact endStepsGoes engine shift session halt works isOver
  · exact .goesOn works

theorem failGoes (engine : Engine device) (shift : Shift device) :
    Goes engine shift (fail engine shift).1 (fail engine shift).2 := by
  unfold fail
  split
  · rename_i accepted
    exact .breaksDown (.inl accepted)
  · rename_i ready
    exact .breaksDown (.inr ready)
  · exact .rests

/-- A worker that has been accepted announces its run, and else it goes on in one of the ways. -/
theorem workGoes (engine : Engine device) (shift : Shift device)
    (begun : shift.isAccepted = false) : Goes engine shift (work engine shift).1
      (work engine shift).2 := by
  unfold work Engine.advance
  cases stage : shift.worker.stage with
  | accepted => simp [isAccepted, stage] at begun
  | ready => exact goOnGoes engine shift stage
  | ran found => exact .tells found stage
  | told found => exact .frees found stage
  | freed found => exact .closes found stage
  | _ =>
      rename_i found
      have same : ({ shift with worker := { shift.worker with stage := .over found } } :
          Shift device) = shift := by
        rw [← stage]
      simp only [same]
      exact .rests

/-- The announcement of a run is published, and the engine is left as it is otherwise. -/
theorem workAnnounces (engine : Engine device) (shift : Shift device)
    (accepted : shift.isAccepted = true) :
    work engine shift = (engine.publish shift.worker.runId .running,
      { shift with announced := true }.reach .ready) := by
  unfold work Engine.advance
  cases stage : shift.worker.stage with
  | accepted => rfl
  | _ => simp [isAccepted, stage] at accepted

end Shift

namespace Floor

/-- These are the ways in which a floor goes on with a turn. -/
inductive Goes (floor : Floor device) (turn : Turn) : Floor device → Prop where
  | stays (silent : floor.announces turn = false) : Goes floor turn floor
  | opens (script : Script) (runId : String) (overrides : Table String) (engine : Engine device)
      (worker : Worker) (silent : floor.announces turn = false)
      (accepted : floor.engine.accept script runId overrides = .ok (engine, worker)) :
      Goes floor turn ⟨engine, floor.shifts ++ [.opened engine worker]⟩
  | announces (before after : List (Shift device)) (shift : Shift device)
      (shifts : floor.shifts = before ++ shift :: after)
      (accepted : shift.worker.stage = .accepted) (announced : floor.announces turn = true) :
      Goes floor turn ⟨floor.engine.publish shift.worker.runId .running,
        before ++ { shift with announced := true }.reach .ready :: after⟩
  | goesOn (before after : List (Shift device)) (shift later : Shift device)
      (engine : Engine device) (shifts : floor.shifts = before ++ shift :: after)
      (silent : floor.announces turn = false) (goes : shift.Goes floor.engine engine later) :
      Goes floor turn ⟨engine, before ++ later :: after⟩

/-- The shift that goes on lies between the shifts that rest. -/
theorem changeSplits (floor : Floor device) (index : Nat) (shift : Shift device)
    (found : floor.shifts[index]? = some shift) :
    ∃ before after, floor.shifts = before ++ shift :: after ∧ before.length = index ∧
      ∀ act, floor.change index act =
        ⟨(act floor.engine shift).1, before ++ (act floor.engine shift).2 :: after⟩ := by
  obtain ⟨less, isShift⟩ := List.getElem?_eq_some_iff.mp found
  have split : floor.shifts =
      floor.shifts.take index ++ shift :: floor.shifts.drop (index + 1) := by
    rw [← isShift, List.getElem_cons_drop, List.take_append_drop]
  refine ⟨floor.shifts.take index, floor.shifts.drop (index + 1), split, ?_, fun act => ?_⟩
  · rw [List.length_take]
    omega
  · rw [change, found]
    simp only [List.set_eq_take_append_cons_drop, less, if_true]

/-- The other shifts rest while one of them goes on, unless it announces its run. -/
theorem changeGoes (floor : Floor device) (turn : Turn) (index : Nat)
    (act : Engine device → Shift device → Engine device × Shift device)
    (silent : floor.announces turn = false)
    (goes : ∀ shift, floor.shifts[index]? = some shift →
      shift.Goes floor.engine (act floor.engine shift).1 (act floor.engine shift).2) :
    floor.Goes turn (floor.change index act) := by
  cases found : floor.shifts[index]? with
  | none =>
      rw [change, found]
      exact .stays silent
  | some shift =>
      obtain ⟨before, after, shifts, -, changes⟩ := floor.changeSplits index shift found
      rw [changes]
      exact .goesOn before after shift _ _ shifts silent (goes shift found)

/-- With every turn a floor goes on in one of these ways. -/
theorem takeTurnGoes (floor : Floor device) (turn : Turn) :
    floor.Goes turn (floor.takeTurn turn) := by
  cases turn with
  | start script runId overrides =>
      rw [takeTurn, start]
      cases accepted : floor.engine.accept script runId overrides with
      | error fault => exact .stays rfl
      | ok begun => exact .opens script runId overrides begun.1 begun.2 rfl accepted
  | cancel index delay =>
      rw [takeTurn]
      exact floor.changeGoes _ index _ rfl fun shift _ => .cancels delay
  | fail index =>
      rw [takeTurn]
      exact floor.changeGoes _ index _ rfl fun shift _ => shift.failGoes floor.engine
  | work index =>
      cases announced : floor.announces (.work index) with
      | false =>
          rw [takeTurn]
          refine floor.changeGoes _ index _ announced fun shift found => ?_
          rw [announces, found] at announced
          exact shift.workGoes floor.engine announced
      | true =>
          cases found : floor.shifts[index]? with
          | none =>
              rw [announces, found] at announced
              cases announced
          | some shift =>
              obtain ⟨before, after, shifts, -, changes⟩ := floor.changeSplits index shift found
              have accepted : shift.isAccepted = true := by
                rw [announces, found] at announced
                exact announced
              have isStage : shift.worker.stage = .accepted := by
                cases stage : shift.worker.stage <;> simp_all [Shift.isAccepted]
              rw [takeTurn, changes, shift.workAnnounces floor.engine accepted]
              exact .announces before after shift shifts isStage announced

/-! ### What has been published -/

theorem publishGrows (engine : Engine device) (runId : String) (state : EngineState) :
    engine.feed.sent.toList <+: (engine.publish runId state).feed.sent.toList := by
  rw [Engine.publish, Feed.sentSend]
  exact List.prefix_append _ _

theorem followGrows (engine : Engine device) {before after : Session device}
    {more : List RunEvent} (events : after.events.toList = before.events.toList ++ more) :
    engine.feed.sent.toList <+: (engine.follow before after).feed.sent.toList := by
  rw [engine.followSent events]
  exact List.prefix_append _ _

/-- The session of a report has one more event, and it tells the outcome. -/
theorem reportEvents (engine : Engine device) (shift : Shift device) (session : Session device)
    (outcome : RunOutcome) :
    (Shift.report engine shift session outcome).1.events.toList =
      session.events.toList ++ [⟨session.context.runId, .runFinished outcome⟩] :=
  Array.toList_push

/-- Nothing that has been published is taken back, and the feed keeps as much as before. -/
theorem Goes.grows {floor later : Floor device} {turn : Turn} (goes : floor.Goes turn later) :
    floor.engine.feed.sent.toList <+: later.engine.feed.sent.toList ∧
      later.engine.feed.capacity = floor.engine.feed.capacity := by
  cases goes with
  | stays => exact ⟨List.prefix_rfl, rfl⟩
  | opens script runId overrides engine worker silent accepted =>
      obtain ⟨-, -, rfl, -⟩ := Engine.acceptedOf accepted
      exact ⟨List.prefix_rfl, rfl⟩
  | announces => exact ⟨publishGrows _ _ _, rfl⟩
  | goesOn before after shift later engine shifts silent goes =>
      cases goes with
      | rests => exact ⟨List.prefix_rfl, rfl⟩
      | cancels => exact ⟨List.prefix_rfl, rfl⟩
      | goesOn =>
          obtain ⟨more, -, events⟩ := (shift.instant.onwardNext floor.engine.place).events
          exact ⟨followGrows _ events, rfl⟩
      | breaksDown => exact ⟨List.prefix_rfl, rfl⟩
      | finishes session halt outcome => exact ⟨followGrows _ (reportEvents _ _ _ _), rfl⟩
      | tells => exact ⟨publishGrows _ _ _, rfl⟩
      | frees => exact ⟨List.prefix_rfl, rfl⟩
      | closes => exact ⟨publishGrows _ _ _, rfl⟩

theorem takeTurnsGrows (floor : Floor device) (turns : List Turn) :
    floor.engine.feed.sent.toList <+: (floor.takeTurns turns).engine.feed.sent.toList ∧
      (floor.takeTurns turns).engine.feed.capacity = floor.engine.feed.capacity := by
  have first : floor.engine.feed.sent.toList <+: floor.engine.feed.sent.toList ∧
      floor.engine.feed.capacity = floor.engine.feed.capacity := ⟨List.prefix_rfl, rfl⟩
  refine keeps turns first fun middle turn grown => ?_
  have grows := (middle.takeTurnGoes turn).grows
  exact ⟨grown.1.trans grows.1, grows.2.trans grown.2⟩

end Floor

end DeskScript
