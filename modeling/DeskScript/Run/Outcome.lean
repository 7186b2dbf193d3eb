/-
This file says how steps and runs end.
-/

import DeskScript.Step.Codec

namespace DeskScript

/-! ### Reasons -/

/-- A run is aborted when it is cancelled or takes too long. -/
inductive AbortReason where
  | cancelled
  | runTimeout
  deriving DecidableEq

namespace AbortReason

def tag : AbortReason → String
  | .cancelled => "cancelled"
  | .runTimeout => "run_timeout"

/-- This is the reason in the message of an abort. -/
def word : AbortReason → String
  | .cancelled => "Cancelled"
  | .runTimeout => "RunTimeout"

def named : List (String × AbortReason) :=
  [("cancelled", .cancelled), ("run_timeout", .runTimeout)]

def ofJson (origin : Shape.Origin) : Json → Shape.Result AbortReason :=
  Shape.variant origin named

end AbortReason

/-- An abort names the run, the reason, and the step at which it was noticed. -/
structure Abort where
  runId : String
  reason : AbortReason
  stepId : Option String
  deriving DecidableEq

namespace Abort

def message (abort : Abort) : String :=
  "Run " ++ abort.runId ++ " aborted (" ++ abort.reason.word ++ ")"

def toJson (abort : Abort) : Json :=
  .object ([("run_id", .string abort.runId), ("reason", .string abort.reason.tag)] ++
    optionalMember "step_id" (abort.stepId.map .string))

def ofJson (found : Json) : Shape.Result Abort := do
  let fields ←
    Shape.Fields.of "struct EngineAbortError" ["run_id", "reason", "step_id"] .document found
  let runId := fields.required "run_id" Shape.text
  let reason := fields.required "reason" (AbortReason.ofJson fields.origin)
  let stepId := fields.nullable "step_id" Shape.text
  fields.settle [runId.state, reason.state, stepId.state]
  return ⟨← runId.value, ← reason.value, ← stepId.value⟩

end Abort

/-- A branching step goes one of two ways. -/
inductive BranchTaken where
  | whenTrue
  | whenFalse
  deriving DecidableEq

namespace BranchTaken

def tag : BranchTaken → String
  | .whenTrue => "true_branch"
  | .whenFalse => "false_branch"

def named : List (String × BranchTaken) :=
  [("true_branch", .whenTrue), ("false_branch", .whenFalse)]

def ofJson : Json → Shape.Result BranchTaken :=
  Shape.variant .setAside named

end BranchTaken

/-! ### Steps -/

/-- A loop is limited when its condition still held after the greatest number of iterations. -/
inductive StepOutcome where
  | success
  | skip
  | timeout
  | error
  | branch (taken : BranchTaken)
  | loop (iterations : UInt32) (limited : Bool)
  | aborted
  deriving DecidableEq

namespace StepOutcome

def text : StepOutcome → String
  | .success => "success"
  | .skip => "skip"
  | .timeout => "timeout"
  | .error => "error"
  | .branch taken => taken.tag
  | .loop iterations false => "loop(" ++ toString iterations.toNat ++ ")"
  | .loop iterations true => "loop_limit(" ++ toString iterations.toNat ++ ")"
  | .aborted => "aborted"

/-- A step has a problem when it neither did its work nor was skipped. -/
def isProblem : StepOutcome → Bool
  | .timeout | .error | .aborted => true
  | _ => false

def toJson : StepOutcome → Json
  | .success => .object [("kind", .string "success")]
  | .skip => .object [("kind", .string "skip")]
  | .timeout => .object [("kind", .string "timeout")]
  | .error => .object [("kind", .string "error")]
  | .branch taken => .object [("kind", .string "branch"), ("taken", .string taken.tag)]
  | .loop iterations limited =>
      .object [("kind", .string "loop"), ("iterations", .nat iterations.toNat),
        ("limited", .bool limited)]
  | .aborted => .object [("kind", .string "aborted")]

def plain (outcome : StepOutcome) (content : Json) : Shape.Result StepOutcome :=
  (Shape.noContent content).map fun () => outcome

def branchOfJson (content : Json) : Shape.Result StepOutcome := do
  let fields ← Shape.Fields.of "struct variant StepOutcome::Branch" ["taken"] .setAside content
  let taken := fields.required "taken" BranchTaken.ofJson
  fields.settle [taken.state]
  return .branch (← taken.value)

def loopOfJson (content : Json) : Shape.Result StepOutcome := do
  let fields ←
    Shape.Fields.of "struct variant StepOutcome::Loop" ["iterations", "limited"] .setAside content
  let iterations := fields.required "iterations" Shape.uint32
  let limited := fields.required "limited" Shape.flag
  fields.settle [iterations.state, limited.state]
  return .loop (← iterations.value) (← limited.value)

def readers : List (String × (Json → Shape.Result StepOutcome)) :=
  [("success", plain .success), ("skip", plain .skip), ("timeout", plain .timeout),
    ("error", plain .error), ("branch", branchOfJson), ("loop", loopOfJson),
    ("aborted", plain .aborted)]

def ofJson (found : Json) : Shape.Result StepOutcome := do
  let (tag, content) ← Shape.tagged "StepOutcome" "kind" found
  (← Shape.tagName readers tag) content

end StepOutcome

/-! ### Runs -/

inductive RunOutcome where
  | completed
  | aborted (reason : AbortReason) (stepId : Option String)
  | failed (error : String) (stepId : Option String)
  deriving DecidableEq

namespace RunOutcome

def text : RunOutcome → String
  | .completed => "completed"
  | .aborted .cancelled _ => "aborted (cancelled)"
  | .aborted .runTimeout _ => "aborted (run timeout)"
  | .failed error _ => "failed: " ++ error

def isCompleted : RunOutcome → Bool
  | .completed => true
  | _ => false

def toJson : RunOutcome → Json
  | .completed => .object [("status", .string "completed")]
  | .aborted reason stepId =>
      .object ([("status", .string "aborted"), ("reason", .string reason.tag)] ++
        optionalMember "step_id" (stepId.map .string))
  | .failed error stepId =>
      .object ([("status", .string "failed"), ("error", .string error)] ++
        optionalMember "step_id" (stepId.map .string))

def abortedOfJson (content : Json) : Shape.Result RunOutcome := do
  let fields ←
    Shape.Fields.of "struct variant RunOutcome::Aborted" ["reason", "step_id"] .setAside content
  let reason := fields.required "reason" (AbortReason.ofJson fields.origin)
  let stepId := fields.nullable "step_id" Shape.text
  fields.settle [reason.state, stepId.state]
  return .aborted (← reason.value) (← stepId.value)

def failedOfJson (content : Json) : Shape.Result RunOutcome := do
  let fields ←
    Shape.Fields.of "struct variant RunOutcome::Failed" ["error", "step_id"] .setAside content
  let error := fields.required "error" Shape.text
  let stepId := fields.nullable "step_id" Shape.text
  fields.settle [error.state, stepId.state]
  return .failed (← error.value) (← stepId.value)

def readers : List (String × (Json → Shape.Result RunOutcome)) :=
  [("completed", fun content => (Shape.noContent content).map fun () => .completed),
    ("aborted", abortedOfJson), ("failed", failedOfJson)]

def ofJson (found : Json) : Shape.Result RunOutcome := do
  let (tag, content) ← Shape.tagged "RunOutcome" "status" found
  (← Shape.tagName readers tag) content

end RunOutcome

end DeskScript
