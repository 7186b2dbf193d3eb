/-
This file shows that a run that is not disturbed by others takes the engine where it ends when the
whole run is done at once.
-/

import DeskScript.Proofs.Engine.Floor
import DeskScript.Proofs.Run.Passage

namespace DeskScript

variable {device : Type}

open Interpreter (Instant Moment Passes)

/-! ### Following a run -/

/-- Two engines are the same if they have sent the same and are alike in everything else. -/
theorem Engine.eqOfSent {engine other : Engine device} (place : engine.place = other.place)
    (device : engine.device = other.device) (now : engine.now = other.now)
    (state : engine.state = other.state) (capacity : engine.feed.capacity = other.feed.capacity)
    (sent : engine.feed.sent.toList = other.feed.sent.toList) : engine = other := by
  obtain ⟨firstPlace, firstDevice, firstNow, firstState, ⟨firstCapacity, firstSent⟩⟩ := engine
  obtain ⟨_, _, _, _, ⟨_, _⟩⟩ := other
  have same := Array.toList_inj.mp sent
  simp_all

/-- The engine may follow a run in two parts. -/
theorem Engine.followTrans (engine : Engine device) {first second third : Session device}
    (one : first.events.toList <+: second.events.toList)
    (other : second.events.toList <+: third.events.toList) :
    (engine.follow first second).follow second third = engine.follow first third := by
  obtain ⟨early, isSecond⟩ := one
  obtain ⟨late, isThird⟩ := other
  have whole : third.events.toList = first.events.toList ++ (early ++ late) := by
    rw [← isThird, ← isSecond, List.append_assoc]
  refine eqOfSent rfl rfl rfl rfl rfl ?_
  rw [followSent _ isThird.symm, followSent _ isSecond.symm, followSent _ whole, List.append_assoc]

theorem Session.Onward.prefixed {before after : Session device} (onward : Onward before after) :
    before.events.toList <+: after.events.toList := by
  obtain ⟨more, -, events⟩ := onward.events
  exact ⟨_, events.symm⟩

namespace Floor

variable {place : Workplace device}

/-- The shift at a position does something, and the shifts around it rest. -/
theorem changeAt (engine : Engine device) (before after : List (Shift device))
    (shift : Shift device) (act : Engine device → Shift device → Engine device × Shift device) :
    (Floor.mk engine (before ++ shift :: after)).change before.length act =
      ⟨(act engine shift).1, before ++ (act engine shift).2 :: after⟩ := by
  rw [change, List.getElem?_append_right (Nat.le_refl _), Nat.sub_self]
  simp

theorem workOnce (engine : Engine device) (before after : List (Shift device))
    (shift : Shift device) :
    (Floor.mk engine (before ++ shift :: after)).takeTurns
        (List.replicate 1 (.work before.length)) =
      ⟨(shift.work engine).1, before ++ (shift.work engine).2 :: after⟩ := by
  rw [takeTurns, List.replicate_one, List.foldl_cons, List.foldl_nil, takeTurn, changeAt]

theorem workTwice (floor : Floor device) (index first second : Nat) :
    floor.takeTurns (List.replicate (first + second) (.work index)) =
      (floor.takeTurns (List.replicate first (.work index))).takeTurns
        (List.replicate second (.work index)) := by
  rw [← List.replicate_append_replicate, takeTurnsAppend]

/-! ### A run by itself -/

/-- The engine has what the run has done so far. -/
def UpToDate (engine : Engine device) (session : Session device) : Prop :=
  engine.device = session.device ∧ engine.now = session.context.now

theorem UpToDate.followSelf {engine : Engine device} {session : Session device}
    (upToDate : UpToDate engine session) : engine.follow session session = engine := by
  refine Engine.eqOfSent rfl upToDate.1.symm upToDate.2.symm rfl rfl ?_
  rw [engine.followSent (List.append_nil _).symm, List.append_nil]

/-- These turns of a worker take its run from an instant to the end of its steps. -/
def Reaches (engine : Engine device) (before after : List (Shift device)) (shift : Shift device)
    (session : Session device) (halt : Option Halt) (count : Nat) : Prop :=
  (Floor.mk engine (before ++ shift :: after)).takeTurns
      (List.replicate count (.work before.length)) =
    ⟨engine.follow shift.instant.session session,
      before ++ { shift with instant := .between ⟨session, halt, []⟩ } :: after⟩ ∧
    shift.instant.session.events.toList <+: session.events.toList

theorem reachesAtOnce {engine : Engine device} (before after : List (Shift device))
    {shift : Shift device} {session : Session device} {halt : Option Halt}
    (isOver : shift.instant = .between ⟨session, halt, []⟩)
    (upToDate : UpToDate engine shift.instant.session) :
    Reaches engine before after shift session halt 0 := by
  have same : ({ shift with instant := .between ⟨session, halt, []⟩ } : Shift device) = shift := by
    rw [← isOver]
  have isSession : shift.instant.session = session := congrArg Instant.session isOver
  have followed : engine.follow session session = engine := by
    rw [← isSession]
    exact upToDate.followSelf
  rw [Reaches, same, isSession, followed]
  exact ⟨rfl, List.prefix_rfl⟩

/-- The steps of a run go on as long as they are not over. -/
theorem goOnNext (engine : Engine device) (shift : Shift device)
    (going : ∀ session halt, shift.instant ≠ .between ⟨session, halt, []⟩) :
    shift.goOn engine =
      (engine.follow shift.instant.session (shift.instant.next engine.place).session,
        { shift with instant := shift.instant.next engine.place }) := by
  unfold Shift.goOn
  split
  · rename_i session halt isOver
    exact absurd isOver (going session halt)
  · rfl

/-- A worker that goes on takes its run through all its instants. -/
theorem worksAlong {instant : Instant device} {session : Session device} {halt : Option Halt}
    (passes : Passes place instant (.between ⟨session, halt, []⟩))
    (before after : List (Shift device)) (engine : Engine device) (shift : Shift device)
    (isPlace : engine.place = place) (works : shift.worker.stage = .ready)
    (isInstant : shift.instant = instant) (upToDate : UpToDate engine shift.instant.session) :
    ∃ count, Reaches engine before after shift session halt count := by
  induction passes using Relation.ReflTransGen.head_induction_on generalizing engine shift with
  | refl => exact ⟨0, reachesAtOnce before after isInstant upToDate⟩
  | @head first second next rest inductionHypothesis =>
      by_cases ended : ∃ last reason, first = .between ⟨last, reason, []⟩
      · obtain ⟨last, reason, rfl⟩ := ended
        have same := Passes.ofOver (Passes.step next rest)
        exact ⟨0, reachesAtOnce before after (isInstant.trans same.symm) upToDate⟩
      · have going : ∀ last reason, shift.instant ≠ .between ⟨last, reason, []⟩ :=
          fun last reason isOver => ended ⟨last, reason, isInstant.symm.trans isOver⟩
        have onward := shift.instant.onwardNext place
        obtain ⟨count, reached, later⟩ := inductionHypothesis
          (engine.follow shift.instant.session (shift.instant.next place).session)
          { shift with instant := shift.instant.next place } isPlace works
          (isInstant ▸ next) ⟨rfl, rfl⟩
        refine ⟨1 + count, ?_, onward.prefixed.trans later⟩
        have worked : shift.work engine =
            (engine.follow shift.instant.session (shift.instant.next place).session,
              { shift with instant := shift.instant.next place }) := by
          simp only [Shift.work, works, goOnNext engine shift going, isPlace]
        rw [workTwice, workOnce, worked, reached, engine.followTrans onward.prefixed later]

/-- Everything that a new session has told so far is new to the engine. -/
theorem followWhole (engine : Engine device) {opening session : Session device}
    (nothing : opening.events = #[]) :
    engine.follow opening session =
      { engine with
        device := session.device
        now := session.context.now
        feed := engine.feed.sendAll session.events } := by
  refine Engine.eqOfSent rfl rfl rfl rfl rfl ?_
  have whole : session.events.toList = opening.events.toList ++ session.events.toList := by
    rw [nothing]
    rfl
  rw [engine.followSent whole]
  exact Array.toList_append.symm

/-- A run whose steps are over ends as it does when they are run at once. -/
theorem endsAlike (engine : Engine device) (shift : Shift device) (session : Session device)
    (halt : Option Halt) (isOpening : shift.opening = engine.openSession shift.worker)
    (ran : Interpreter.runAll engine.place 0 shift.worker.script.steps
      { shift.opening with context := shift.opening.context.arm } = (session, halt)) :
    engine.runSteps shift.worker =
      ((shift.endSteps (engine.follow shift.opening session) session halt).1,
        (shift.endSteps (engine.follow shift.opening session) session halt).2.worker) := by
  have nothing : shift.opening.events = #[] := by
    rw [isOpening]
    rfl
  rw [Engine.runSteps, Interpreter.run, ← isOpening, ran, Shift.endSteps]
  dsimp only
  cases Interpreter.outcome? halt with
  | none =>
      rw [followWhole engine nothing]
      rfl
  | some outcome =>
      have reported : session.events.toList <+:
          (shift.report engine session outcome).1.events.toList :=
        ⟨_, (reportEvents engine shift session outcome).symm⟩
      have begun : shift.opening.events.toList <+: session.events.toList := by
        rw [nothing]
        exact List.nil_prefix
      have followed := engine.followTrans begun reported
      exact Prod.ext (followed.trans (followWhole engine nothing)).symm rfl

/-- The steps of a run that goes on alone lead to the same end as when they are run at once. -/
theorem runsStepsAlone (before after : List (Shift device)) (engine : Engine device)
    (shift : Shift device) (works : shift.worker.stage = .ready)
    (isOpening : shift.opening = engine.openSession shift.worker)
    (begins : shift.instant = .start shift.worker.script shift.opening) :
    ∃ count later, (Floor.mk engine (before ++ shift :: after)).takeTurns
        (List.replicate count (.work before.length)) =
      ⟨(engine.runSteps shift.worker).1, before ++ later :: after⟩ ∧
      later.worker = (engine.runSteps shift.worker).2 := by
  obtain ⟨session, halt, ran⟩ : ∃ session halt,
      Interpreter.runAll engine.place 0 shift.worker.script.steps
        { shift.opening with context := shift.opening.context.arm } = (session, halt) := ⟨_, _, rfl⟩
  have leads := (Interpreter.runAllLeads engine.place 0 shift.worker.script.steps
    { shift.opening with context := shift.opening.context.arm } []).passes
  rw [ran] at leads
  have upToDate : UpToDate engine shift.instant.session := by
    rw [begins, isOpening]
    exact ⟨rfl, rfl⟩
  obtain ⟨count, reached, -⟩ := worksAlong leads before after engine shift rfl works begins upToDate
  have same : engine.follow shift.instant.session session = engine.follow shift.opening session := by
    rw [begins]
    rfl
  have worked : Shift.work (engine.follow shift.opening session)
      { shift with instant := .between ⟨session, halt, []⟩ } =
        Shift.endSteps (engine.follow shift.opening session)
          { shift with instant := .between ⟨session, halt, []⟩ } session halt := by
    simp only [Shift.work, works]
    rfl
  have ends := endsAlike engine { shift with instant := .between ⟨session, halt, []⟩ } session halt
    isOpening ran
  refine ⟨count + 1, (Shift.endSteps (engine.follow shift.opening session)
    { shift with instant := .between ⟨session, halt, []⟩ } session halt).2, ?_, ?_⟩
  · rw [workTwice, reached, same, workOnce, worked, ends]
  · rw [ends]

/-- After its steps a run has nothing left to do but to give the engine back. -/
def Past : WorkerStage → Prop
  | .accepted | .ready => False
  | .ran _ | .told _ | .freed _ | .over _ => True

theorem pastRunSteps (engine : Engine device) (worker : Worker) :
    Past (engine.runSteps worker).2.stage := by
  unfold Engine.runSteps
  dsimp only
  cases (Interpreter.run engine.place worker.script (engine.openSession worker)).2 <;> trivial

theorem workPast (engine : Engine device) (shift : Shift device)
    (past : Past shift.worker.stage) :
    shift.work engine =
      ((engine.advance shift.worker).1, { shift with worker := (engine.advance shift.worker).2 }) ∧
      Past (engine.advance shift.worker).2.stage := by
  rw [Shift.work, Engine.advance]
  cases stage : shift.worker.stage with
  | accepted => simp [Past, stage] at past
  | ready => simp [Past, stage] at past
  | _ => exact ⟨rfl, trivial⟩

/-- After its steps a run advances in the same way on its own. -/
theorem advancesAlone (before after : List (Shift device)) (engine : Engine device)
    (shift : Shift device) (past : Past shift.worker.stage) (count : Nat) :
    (Floor.mk engine (before ++ shift :: after)).takeTurns
        (List.replicate count (.work before.length)) =
      ⟨(engine.advanceBy shift.worker count).1,
        before ++ { shift with worker := (engine.advanceBy shift.worker count).2 } :: after⟩ := by
  induction count generalizing engine shift with
  | zero => rfl
  | succ count inductionHypothesis =>
      obtain ⟨worked, later⟩ := workPast engine shift past
      rw [Nat.add_comm, workTwice, workOnce, worked, inductionHypothesis _ _ later, Nat.add_comm]
      rfl

/-- A run that is accepted is announced with the first turn of its worker. -/
theorem announcedAlone (engine begun : Engine device) (shifts : List (Shift device))
    (script : Script) (runId : String) (overrides : Table String) (worker : Worker)
    (accepted : engine.accept script runId overrides = .ok (begun, worker)) (count : Nat) :
    (Floor.mk engine shifts).takeTurns
        (.start script runId overrides :: List.replicate (1 + count) (.work shifts.length)) =
      (Floor.mk (begun.publish worker.runId .running)
        (shifts ++ [{ Shift.opened begun worker with announced := true }.reach .ready])).takeTurns
          (List.replicate count (.work shifts.length)) := by
  obtain ⟨-, -, -, isWorker⟩ := Engine.acceptedOf accepted
  have started : (Floor.mk engine shifts).takeTurn (.start script runId overrides) =
      ⟨begun, shifts ++ [.opened begun worker]⟩ := by
    rw [takeTurn, start, accepted]
  have waits : (Shift.opened begun worker).isAccepted = true := by
    rw [isWorker]
    rfl
  rw [takeTurns, List.foldl_cons, started, ← takeTurns, workTwice, workOnce,
    Shift.workAnnounces begun _ waits]
  rfl

/-- A run at once is announced, its steps are run, and then three stages are left at most. -/
theorem advancesWhole (begun : Engine device) (worker : Worker)
    (stage : worker.stage = .accepted) :
    begun.advanceBy worker (Engine.stagesLeft worker.stage) =
      let (engine, worker) :=
        (begun.publish worker.runId .running).runSteps { worker with stage := .ready }
      engine.advanceBy worker 3 := by
  have first : begun.advance worker =
      (begun.publish worker.runId .running, { worker with stage := .ready }) := by
    simp [Engine.advance, stage]
  rw [stage, Engine.stagesLeft, Engine.advanceBy, first]
  rfl

/--
A run that nobody cancels, and with no other runs beside it, leaves the engine as it does when it is
taken to its end at once, and it comes to the same end.
-/
theorem finishesAlone (engine begun : Engine device) (shifts : List (Shift device))
    (script : Script) (runId : String) (overrides : Table String) (worker : Worker)
    (accepted : engine.accept script runId overrides = .ok (begun, worker)) :
    ∃ count last, (Floor.mk engine shifts).takeTurns
        (.start script runId overrides :: List.replicate count (.work shifts.length)) =
      ⟨(engine.run script runId overrides).1, shifts ++ [last]⟩ ∧
      (engine.run script runId overrides).2 =
        match last.worker.stage with
        | .over (some report) => .ok report
        | _ => .error .brokeDown := by
  have stage : worker.stage = .accepted := by
    obtain ⟨-, -, -, isWorker⟩ := Engine.acceptedOf accepted
    rw [isWorker]
  obtain ⟨count, later, reached, isLater⟩ := runsStepsAlone shifts []
    (begun.publish worker.runId .running)
    ({ Shift.opened begun worker with announced := true }.reach .ready) rfl rfl rfl
  have past : Past later.worker.stage := by
    rw [isLater]
    exact pastRunSteps _ _
  obtain ⟨ran, isRan⟩ : ∃ ran, (begun.publish worker.runId .running).runSteps
      ({ Shift.opened begun worker with announced := true }.reach .ready).worker = ran := ⟨_, rfl⟩
  rw [isRan] at reached isLater
  have whole : begun.advanceBy worker (Engine.stagesLeft worker.stage) =
      ran.1.advanceBy later.worker 3 := by
    rw [isLater, ← isRan]
    exact advancesWhole begun worker stage
  refine ⟨1 + (count + 3), { later with worker := (ran.1.advanceBy later.worker 3).2 }, ?_, ?_⟩
  · rw [announcedAlone engine begun shifts script runId overrides worker accepted, workTwice,
      reached, advancesAlone shifts [] ran.1 later past 3, Engine.run, accepted]
    simp only [Engine.finish, whole]
    split <;> rfl
  · rw [Engine.run, accepted]
    simp only [Engine.finish, whole]
    split <;> simp_all

end Floor

end DeskScript
