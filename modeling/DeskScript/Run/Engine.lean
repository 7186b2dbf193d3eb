/-
This file holds the engine, which runs one script at a time, and the life of a run on it. The feed
of events keeps only the newest ones for readers that have fallen behind.
-/

import DeskScript.Run.Interpreter

namespace DeskScript

/-! ### Feeds -/

/-- Everything that was ever sent counts, but only the newest items can still be read. -/
structure Feed (item : Type) where
  capacity : Nat
  sent : Array item

namespace Feed

variable {item : Type}

/-- A feed keeps the smallest power of two of items that is not below what it is asked to keep. -/
def withRoom (least : Nat) : Feed item :=
  ⟨if least ≤ 1 then 1 else 2 ^ (Nat.log2 (least - 1) + 1), #[]⟩

def send (feed : Feed item) (next : item) : Feed item :=
  { feed with sent := feed.sent.push next }

def sendAll (feed : Feed item) (items : Array item) : Feed item :=
  { feed with sent := feed.sent ++ items }

/-- This is the number of items that can no longer be read. -/
def dropped (feed : Feed item) : Nat := feed.sent.size - feed.capacity

/-- A reader at a position reads the item there, or the oldest one that is still kept. -/
def read? (feed : Feed item) (position : Nat) : Option (item × Nat) :=
  let position := max position feed.dropped
  (feed.sent[position]?).map fun next => (next, position + 1)

/-- These are the items that a reader at a position still gets. -/
def rest (feed : Feed item) (position : Nat) : List item :=
  feed.sent.toList.drop (max position feed.dropped)

theorem sentSend (feed : Feed item) (next : item) :
    (feed.send next).sent.toList = feed.sent.toList ++ [next] := by
  simp [send]

end Feed

/-! ### Engines -/

/-- A start may be refused, and a run may break down. -/
inductive EngineFault where
  | alreadyRunning
  | invalidScript (fault : StepFault)
  | brokeDown

def EngineFault.message : EngineFault → String
  | .alreadyRunning => "A run is already active on this engine"
  | .invalidScript fault => fault.message
  | .brokeDown => "Run worker panicked"

/-- The engine keeps its devices, its clock and its feed of events from one run to the next. -/
structure Engine (device : Type) where
  place : Workplace device
  device : device
  now : Nat
  state : EngineState
  feed : Feed RunEvent

/-- These are the stages in the life of a run, every one of which ends with one visible change. -/
inductive WorkerStage where
  /-- The engine has been taken, and that it is running is published next. -/
  | accepted
  /-- The steps are run next. -/
  | ready
  /-- The outcome is published next as the state of the engine. -/
  | ran (report : RunReport)
  /-- The engine is given back next. -/
  | told (report : RunReport)
  /-- That the engine is idle is published next. -/
  | freed (report : RunReport)
  /-- The run is over, and it has a report unless it broke down. -/
  | over (report : Option RunReport)

/-- A worker carries a run from its start to its end. -/
structure Worker where
  runId : String
  script : Script
  bindings : Bindings
  stage : WorkerStage

namespace Engine

variable {device : Type}

/-- A new engine is idle. -/
def new (place : Workplace device) (state : device) : Engine device :=
  ⟨place, state, 0, .idle, Feed.withRoom (max place.config.eventBuffer.toNat 1)⟩

def isRunning (engine : Engine device) : Bool := engine.state = .running

def publish (engine : Engine device) (runId : String) (state : EngineState) : Engine device :=
  { engine with feed := engine.feed.send ⟨runId, .stateChanged state⟩ }

/--
A start takes the engine unless the script is not valid or the engine is running. The variables
begin with the values given for them, or else with those of the script.
-/
def accept (engine : Engine device) (script : Script) (runId : String)
    (overrides : Table String) : Except EngineFault (Engine device × Worker) :=
  match script.validate with
  | .error fault => .error (.invalidScript fault)
  | .ok () =>
      if engine.isRunning then .error .alreadyRunning
      else
        .ok ({ engine with state := .running },
          ⟨runId, script, Bindings.seeded script.defaults overrides, .accepted⟩)

/-- This is the state in which the steps of a run begin. -/
def openSession (engine : Engine device) (worker : Worker) : Session device :=
  let timeout := engine.place.config.runTimeout.map UInt64.toNat
  .start (.start worker.runId timeout engine.now) worker.bindings engine.device

/-- The steps are run, and a run that breaks down gives the engine back at once. -/
def runSteps (engine : Engine device) (worker : Worker) : Engine device × Worker :=
  let (session, report) := Interpreter.run engine.place worker.script (engine.openSession worker)
  let engine := { engine with
    device := session.device
    now := session.context.now
    feed := engine.feed.sendAll session.events }
  match report with
  | some report => (engine, { worker with stage := .ran report })
  | none => ({ engine with state := .idle }, { worker with stage := .over none })

/-- This function takes a worker to its next stage. -/
def advance (engine : Engine device) (worker : Worker) : Engine device × Worker :=
  match worker.stage with
  | .accepted => (engine.publish worker.runId .running, { worker with stage := .ready })
  | .ready => engine.runSteps worker
  | .ran report =>
      (engine.publish worker.runId (.ofOutcome report.outcome),
        { worker with stage := .told report })
  | .told report => ({ engine with state := .idle }, { worker with stage := .freed report })
  | .freed report =>
      (engine.publish worker.runId .idle, { worker with stage := .over (some report) })
  | .over report => (engine, { worker with stage := .over report })

/-- The number of stages that are still to come is at most this. -/
def stagesLeft : WorkerStage → Nat
  | .accepted => 5
  | .ready => 4
  | .ran _ => 3
  | .told _ => 2
  | .freed _ => 1
  | .over _ => 0

/-- This function takes a worker through a number of stages. -/
def advanceBy (engine : Engine device) (worker : Worker) : Nat → Engine device × Worker
  | 0 => (engine, worker)
  | count + 1 =>
      let (engine, worker) := engine.advance worker
      advanceBy engine worker count

/-- This function takes a run to its end. -/
def finish (engine : Engine device) (worker : Worker) :
    Engine device × Except EngineFault RunReport :=
  let (engine, worker) := engine.advanceBy worker (stagesLeft worker.stage)
  match worker.stage with
  | .over (some report) => (engine, .ok report)
  | _ => (engine, .error .brokeDown)

/-- A run is started and taken to its end. -/
def run (engine : Engine device) (script : Script) (runId : String) (overrides : Table String) :
    Engine device × Except EngineFault RunReport :=
  match engine.accept script runId overrides with
  | .error fault => (engine, .error fault)
  | .ok (engine, worker) => engine.finish worker

end Engine

end DeskScript
