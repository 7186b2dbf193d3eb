/-
This file holds the rules that a run follows.
-/

import DeskScript.Json.Reader
import DeskScript.Shape.Basic
import DeskScript.Text.Case
import DeskScript.Text.Blank

namespace DeskScript

/-- A failed step that does not say itself what to do is skipped or ends the run. -/
inductive FailurePolicy where
  | skipAndContinue
  | abortOnFailure
  deriving DecidableEq

namespace FailurePolicy

def tag : FailurePolicy → String
  | .skipAndContinue => "skip_and_continue"
  | .abortOnFailure => "abort_on_failure"

def named : List (String × FailurePolicy) :=
  [("skip_and_continue", .skipAndContinue), ("abort_on_failure", .abortOnFailure)]

def ofJson (origin : Shape.Origin) : Json → Shape.Result FailurePolicy :=
  Shape.variant origin named

/-- A user may name a policy in several ways. -/
def words : List (String × FailurePolicy) :=
  [("skip", .skipAndContinue), ("continue", .skipAndContinue),
    ("skip_and_continue", .skipAndContinue), ("abort", .abortOnFailure), ("stop", .abortOnFailure),
    ("abort_on_failure", .abortOnFailure)]

/-- Blanks around the name and the case of its letters do not matter. -/
def ofText (text : String) : Except String FailurePolicy :=
  let word := Text.lower (Text.trim text)
  match words.lookup word with
  | some policy => .ok policy
  | none =>
      .error ("unknown failure policy \x60" ++ word ++ "\x60 (expected skip or abort)")

end FailurePolicy

/-- All times are in milliseconds. A run without a timeout goes on until it is done. -/
structure EngineConfig where
  pollInterval : UInt64
  failurePolicy : FailurePolicy
  stepDelay : UInt64
  runTimeout : Option UInt64
  maxDepth : UInt64
  eventBuffer : UInt64
  deriving DecidableEq

namespace EngineConfig

def standard : EngineConfig := ⟨500, .skipAndContinue, 100, none, 32, 256⟩

/-- There is at least one millisecond between two looks at the screen. -/
def pollWait (config : EngineConfig) : Nat := max config.pollInterval.toNat 1

def toJson (config : EngineConfig) : Json :=
  .object ([("poll_interval_ms", .nat config.pollInterval.toNat),
      ("failure_policy", .string config.failurePolicy.tag),
      ("step_delay_ms", .nat config.stepDelay.toNat)] ++
    (config.runTimeout.map fun limit => ("run_timeout_ms", Json.nat limit.toNat)).toList ++
    [("max_depth", .nat config.maxDepth.toNat), ("event_buffer", .nat config.eventBuffer.toNat)])

/-- These are the fields of the rules in their declared order. -/
def fieldNames : List String :=
  ["poll_interval_ms", "failure_policy", "step_delay_ms", "run_timeout_ms", "max_depth",
    "event_buffer"]

/-- Rules that are left out are the standard ones. -/
def ofJson (origin : Shape.Origin) (found : Json) : Shape.Result EngineConfig := do
  let fields ← Shape.Fields.of "struct EngineConfig" fieldNames origin found
  let pollInterval := fields.optional "poll_interval_ms" Shape.uint64 standard.pollInterval
  let failurePolicy :=
    fields.optional "failure_policy" (FailurePolicy.ofJson origin) standard.failurePolicy
  let stepDelay := fields.optional "step_delay_ms" Shape.uint64 standard.stepDelay
  let runTimeout := fields.optional "run_timeout_ms" (Shape.optional Shape.uint64) none
  let maxDepth := fields.optional "max_depth" Shape.size standard.maxDepth
  let eventBuffer := fields.optional "event_buffer" Shape.size standard.eventBuffer
  fields.settle [pollInterval.state, failurePolicy.state, stepDelay.state, runTimeout.state,
    maxDepth.state, eventBuffer.state]
  return ⟨← pollInterval.value, ← failurePolicy.value, ← stepDelay.value, ← runTimeout.value,
    ← maxDepth.value, ← eventBuffer.value⟩

end EngineConfig

end DeskScript
