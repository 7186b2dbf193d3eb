/-
This file holds the state of a run while it goes on, the small steps that change it, and the
reasons for which a single step did not do its work.
-/

import DeskScript.Placeholder
import DeskScript.Run.Config
import DeskScript.Run.Context
import DeskScript.Run.Device
import DeskScript.Run.Outcome
import DeskScript.Run.Trace

namespace DeskScript

/-! ### Failures -/

inductive StepFailure where
  /-- What was looked for did not appear in time. The time is in milliseconds. -/
  | matchTimeout (stepId target : String) (timeout attempts : Nat)
  | input (fault : InputFault)
  | invalidValue (field value reason : String)
  | unavailable (unavailable : Unavailable)
  | internal (text : String)
  | aborted (abort : Abort)
  deriving DecidableEq

namespace StepFailure

def message : StepFailure → String
  | .matchTimeout stepId target timeout attempts =>
      "Step " ++ stepId ++ " found no match for \x60" ++ target ++ "\x60 within " ++
        Time.durationText timeout ++ " (" ++ toString attempts ++ " attempts)"
  | .input fault => fault.message
  | .invalidValue field value reason =>
      "Field \x60" ++ field ++ "\x60 resolved to invalid value \x60" ++ value ++ "\x60: " ++ reason
  | .unavailable missing => missing.message
  | .internal text => "Internal error: " ++ text
  | .aborted abort => abort.message

/-- After a recoverable failure a step may be tried again, and the run may go on. -/
def isRecoverable : StepFailure → Bool
  | .matchTimeout .. | .input _ | .invalidValue .. => true
  | _ => false

/-- A match that did not appear has an outcome of its own. -/
def outcome : StepFailure → StepOutcome
  | .matchTimeout .. => .timeout
  | _ => .error

end StepFailure

/-! ### States -/

/-- A run uses devices and follows rules. Its clock shows the origin at time zero. -/
structure Workplace (device : Type) where
  devices : Devices device
  config : EngineConfig
  origin : Time.Timestamp

/-- A call of a device is listed with its time. -/
structure CallRecord where
  time : Nat
  call : DeviceCall
  deriving DecidableEq

/-- A run halts when it is aborted, when a step fails it, or when a device breaks down. -/
inductive Halt where
  | aborted (abort : Abort)
  | failed (error : String) (stepId : Option String)
  | brokeDown
  deriving DecidableEq

structure Session (device : Type) where
  context : RunContext
  bindings : Bindings
  device : device
  calls : Array CallRecord
  trace : Array TraceEntry
  warnings : Array LoopWarning
  events : Array RunEvent

/-- Part of a run ends in a state, from which the run goes on unless it halts. -/
abbrev Flow (device : Type) := Session device × Option Halt

namespace Flow

variable {device : Type}

def goOn (session : Session device) : Flow device := (session, none)

def halt (session : Session device) (reason : Halt) : Flow device := (session, some reason)

/-- The next part of a run begins only if the run goes on. -/
def andThen (flow : Flow device) (next : Session device → Flow device) : Flow device :=
  match flow with
  | (session, none) => next session
  | (session, some reason) => (session, some reason)

theorem andThenGoOn (session : Session device) (next : Session device → Flow device) :
    (goOn session).andThen next = next session := rfl

end Flow

/-- These are the notes taken while a step runs. -/
structure StepNotes where
  unresolved : List String
  matchedText : Option String
  deriving DecidableEq

namespace StepNotes

def empty : StepNotes := ⟨[], none⟩

/-- This function replaces the placeholders of a text and notes the names that are not bound. -/
def resolve (notes : StepNotes) (bindings : Bindings) (template : String) : String × StepNotes :=
  let resolution := Template.resolve template bindings
  (resolution.value,
    { notes with unresolved := Template.addNames notes.unresolved resolution.unresolved })

end StepNotes

namespace Session

variable {device : Type}

def start (context : RunContext) (bindings : Bindings) (state : device) : Session device :=
  ⟨context, bindings, state, #[], #[], #[], #[]⟩

def time (session : Session device) (place : Workplace device) : Time.Timestamp :=
  place.origin.addMilliseconds session.context.now

/-! ### Reporting -/

def publish (session : Session device) (news : RunNews) : Session device :=
  { session with events := session.events.push ⟨session.context.runId, news⟩ }

/-- This function ends a step: its entry goes into the trace and is published. -/
def record (session : Session device) (place : Workplace device) (step : Step) (depth : Nat)
    (outcome : StepOutcome) (notes : StepNotes) (error : Option String) (attempts : UInt32)
    (startedAt : Time.Timestamp) : Session device :=
  let entry : TraceEntry :=
    { stepId := step.id
      stepType := step.stepType
      depth := UInt64.ofNat depth
      outcome
      matchedText := notes.matchedText
      bindings := session.bindings
      unresolved := notes.unresolved
      error
      attempts
      startedAt
      finishedAt := session.time place }
  { session.publish (.stepFinished entry) with trace := session.trace.push entry }

def warn (session : Session device) (warning : LoopWarning) : Session device :=
  { session.publish (.warning warning) with warnings := session.warnings.push warning }

/-! ### Variables -/

def bind (session : Session device) (name value : String) : Session device :=
  { session with bindings := session.bindings.put name value }

def unbind (session : Session device) (name : String) : Session device :=
  { session with bindings := session.bindings.erase name }

/-! ### Stopping -/

/-- At a checkpoint the run halts if it has to stop. -/
def checkpoint (session : Session device) (stepId : String) : Flow device :=
  match session.context.checkpoint (some stepId) with
  | some abort => .halt session (.aborted abort)
  | none => .goOn session

/-- This function gives the reason if the sleep ends with the run having to stop. -/
def sleep (session : Session device) (duration : Nat) : Session device × Option AbortReason :=
  let (context, reason) := session.context.sleep duration
  ({ session with context }, reason)

def abort (session : Session device) (reason : AbortReason) (stepId : String) : Abort :=
  ⟨session.context.runId, reason, some stepId⟩

/-! ### Devices -/

/-- The device does something in its state. Nothing else of the session changes. -/
def use {answer : Type} (session : Session device) (act : device → device × answer) :
    Session device × answer :=
  match session with
  | ⟨context, bindings, state, calls, trace, warnings, events⟩ =>
      let (state, answer) := act state
      (⟨context, bindings, state, calls, trace, warnings, events⟩, answer)

/-- A call is listed, and the device may ask to cancel the run. -/
def note (session : Session device) (place : Workplace device) (call : DeviceCall) :
    Session device × Nat :=
  let (session, timing) := session.use fun state => place.devices.note state call
  let time := session.context.now
  let context := match timing.cancelAfter with
    | some delay => session.context.cancelAfter delay
    | none => session.context
  ({ session with context, calls := session.calls.push ⟨time, call⟩ }, timing.delay)

/-- An input action is done to its end even if the run is cancelled meanwhile. -/
def input (session : Session device) (place : Workplace device) (action : InputAction) :
    Session device × InputAnswer :=
  let (session, delay) := session.note place (.input action)
  let session := { session with context := session.context.pass delay }
  session.use fun state => place.devices.input state action

/-- A look ends early without an answer when the run is cancelled. -/
def look (session : Session device) (place : Workplace device) (look : Look) :
    Session device × Except AbortReason LookAnswer :=
  let (session, delay) := session.note place (.look look)
  let (context, stopped) := session.context.work delay
  let session := { session with context }
  match stopped with
  | some reason => (session, .error reason)
  | none =>
      let (session, answer) := session.use fun state => place.devices.look state look
      (session, .ok answer)

end Session

end DeskScript
