/-
This file holds the trace of a run, which has an entry for every step that was looked at, and the
news of a run, which observers read while it goes on.
-/

import DeskScript.Run.Outcome
import DeskScript.Script.Codec

namespace DeskScript

/-! ### Entries -/

/-- An entry tells what happened to a step, and how the variables stood when it ended. -/
structure TraceEntry where
  stepId : String
  stepType : StepType
  depth : UInt64
  outcome : StepOutcome
  matchedText : Option String
  bindings : Bindings
  /-- These names stood in placeholders but were not bound. -/
  unresolved : List String
  error : Option String
  attempts : UInt32
  startedAt : Time.Timestamp
  finishedAt : Time.Timestamp
  deriving DecidableEq

namespace TraceEntry

/-- Entries of two runs can be compared without their times. -/
def untimed (entry : TraceEntry) : TraceEntry :=
  { entry with startedAt := .epoch, finishedAt := .epoch }

/-- A text that was found stands between quotes. -/
def text (entry : TraceEntry) : String :=
  let start := entry.stepType.shortName ++ ":" ++ entry.outcome.text
  match entry.outcome, entry.matchedText with
  | .success, some found => start ++ "(match=" ++ Text.quoted found ++ ")"
  | _, _ => start

def toJson (entry : TraceEntry) : Json :=
  .object ([("step_id", .string entry.stepId), ("step_type", .string entry.stepType.tag),
      ("depth", .nat entry.depth.toNat), ("outcome", entry.outcome.toJson)] ++
    optionalMember "matched_text" (entry.matchedText.map .string) ++
    [("variables", .ofTexts entry.bindings)] ++
    (if entry.unresolved.isEmpty then [] else [("unresolved", .texts entry.unresolved)]) ++
    optionalMember "error" (entry.error.map .string) ++
    [("attempts", .nat entry.attempts.toNat), ("started_at", .string entry.startedAt.text),
      ("finished_at", .string entry.finishedAt.text)])

def stepTypeOfJson : Json → Shape.Result StepType :=
  Shape.variant .document StepType.named

/-- These are the fields of an entry in their declared order. -/
def fieldNames : List String :=
  ["step_id", "step_type", "depth", "outcome", "matched_text", "variables", "unresolved", "error",
    "attempts", "started_at", "finished_at"]

def ofJson (found : Json) : Shape.Result TraceEntry := do
  let fields ← Shape.Fields.of "struct TraceEntry" fieldNames .document found
  let stepId := fields.required "step_id" Shape.text
  let stepType := fields.required "step_type" stepTypeOfJson
  let depth := fields.required "depth" Shape.size
  let outcome := fields.required "outcome" StepOutcome.ofJson
  let matchedText := fields.nullable "matched_text" Shape.text
  let bindings := fields.required "variables" (Shape.table Shape.text)
  let unresolved := fields.optional "unresolved" (Shape.list Shape.text) []
  let error := fields.nullable "error" Shape.text
  let attempts := fields.required "attempts" Shape.uint32
  let startedAt := fields.required "started_at" Shape.timestamp
  let finishedAt := fields.required "finished_at" Shape.timestamp
  fields.settle [stepId.state, stepType.state, depth.state, outcome.state, matchedText.state,
    bindings.state, unresolved.state, error.state, attempts.state, startedAt.state,
    finishedAt.state]
  return ⟨← stepId.value, ← stepType.value, ← depth.value, ← outcome.value, ← matchedText.value,
    ← bindings.value, ← unresolved.value, ← error.value, ← attempts.value, ← startedAt.value,
    ← finishedAt.value⟩

end TraceEntry

/-! ### Warnings -/

/-- A loop with a condition was ended by its limit. -/
structure LoopWarning where
  stepId : String
  limit : UInt32
  deriving DecidableEq

namespace LoopWarning

def message (warning : LoopWarning) : String :=
  "Loop " ++ warning.stepId ++ " stopped at its limit of " ++ toString warning.limit.toNat ++
    " iterations"

def toJson (warning : LoopWarning) : Json :=
  .object [("step_id", .string warning.stepId), ("max_iterations", .nat warning.limit.toNat)]

def ofJson (found : Json) : Shape.Result LoopWarning := do
  let fields ←
    Shape.Fields.of "struct LoopLimitExceeded" ["step_id", "max_iterations"] .document found
  let stepId := fields.required "step_id" Shape.text
  let limit := fields.required "max_iterations" Shape.uint32
  fields.settle [stepId.state, limit.state]
  return ⟨← stepId.value, ← limit.value⟩

end LoopWarning

/-! ### Reports -/

/-- A report tells all about a run that has ended. -/
structure RunReport where
  runId : String
  scriptId : String
  scriptName : String
  outcome : RunOutcome
  trace : List TraceEntry
  warnings : List LoopWarning
  bindings : Bindings
  startedAt : Time.Timestamp
  finishedAt : Time.Timestamp
  deriving DecidableEq

namespace RunReport

/-- This is the length of a run in milliseconds. -/
def duration (report : RunReport) : Int :=
  report.finishedAt.millisecondsSince report.startedAt

/-- These are the entries of the steps that had a problem. -/
def problems (report : RunReport) : List TraceEntry :=
  report.trace.filter fun entry => entry.outcome.isProblem

def toJson (report : RunReport) : Json :=
  .object ([("run_id", .string report.runId), ("macro_id", .string report.scriptId),
      ("macro_name", .string report.scriptName), ("outcome", report.outcome.toJson),
      ("trace", .array (report.trace.map TraceEntry.toJson))] ++
    (if report.warnings.isEmpty then []
      else [("warnings", .array (report.warnings.map LoopWarning.toJson))]) ++
    [("variables", .ofTexts report.bindings), ("started_at", .string report.startedAt.text),
      ("finished_at", .string report.finishedAt.text)])

/-- These are the fields of a report in their declared order. -/
def fieldNames : List String :=
  ["run_id", "macro_id", "macro_name", "outcome", "trace", "warnings", "variables", "started_at",
    "finished_at"]

def ofJson (found : Json) : Shape.Result RunReport := do
  let fields ← Shape.Fields.of "struct RunReport" fieldNames .document found
  let runId := fields.required "run_id" Shape.text
  let scriptId := fields.required "macro_id" Shape.text
  let scriptName := fields.required "macro_name" Shape.text
  let outcome := fields.required "outcome" RunOutcome.ofJson
  let trace := fields.required "trace" (Shape.list TraceEntry.ofJson)
  let warnings := fields.optional "warnings" (Shape.list LoopWarning.ofJson) []
  let bindings := fields.required "variables" (Shape.table Shape.text)
  let startedAt := fields.required "started_at" Shape.timestamp
  let finishedAt := fields.required "finished_at" Shape.timestamp
  fields.settle [runId.state, scriptId.state, scriptName.state, outcome.state, trace.state,
    warnings.state, bindings.state, startedAt.state, finishedAt.state]
  return ⟨← runId.value, ← scriptId.value, ← scriptName.value, ← outcome.value, ← trace.value,
    ← warnings.value, ← bindings.value, ← startedAt.value, ← finishedAt.value⟩

end RunReport

/-! ### News -/

inductive EngineState where
  | idle
  | running
  | completed
  | aborted
  | failed
  deriving DecidableEq

namespace EngineState

def tag : EngineState → String
  | .idle => "idle"
  | .running => "running"
  | .completed => "completed"
  | .aborted => "aborted"
  | .failed => "failed"

def ofOutcome : RunOutcome → EngineState
  | .completed => .completed
  | .aborted .. => .aborted
  | .failed .. => .failed

end EngineState

inductive RunNews where
  | stateChanged (state : EngineState)
  | stepStarted (stepId : String) (stepType : StepType) (depth : UInt64)
  | stepFinished (entry : TraceEntry)
  | warning (warning : LoopWarning)
  | runFinished (outcome : RunOutcome)
  deriving DecidableEq

/-- An event is news about one run. -/
structure RunEvent where
  runId : String
  news : RunNews
  deriving DecidableEq

namespace RunEvent

/-- The last event of the steps of a run tells its outcome. -/
def endsRun (event : RunEvent) : Bool :=
  match event.news with
  | .runFinished _ => true
  | _ => false

def toJson (event : RunEvent) : Json :=
  let members (name : String) (rest : List (String × Json)) : Json :=
    .object (("event", .string name) :: ("run_id", .string event.runId) :: rest)
  match event.news with
  | .stateChanged state => members "state_changed" [("state", .string state.tag)]
  | .stepStarted stepId stepType depth =>
      members "step_started" [("step_id", .string stepId), ("step_type", .string stepType.tag),
        ("depth", .nat depth.toNat)]
  | .stepFinished entry => members "step_finished" [("entry", entry.toJson)]
  | .warning warning => members "warning" [("warning", warning.toJson)]
  | .runFinished outcome => members "run_finished" [("outcome", outcome.toJson)]

end RunEvent

end DeskScript
