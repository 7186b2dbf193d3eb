/-
This file runs the steps of a script, every step before the ones in it, and tells which names a run
may bind by itself.
-/

import DeskScript.Run.Leaf

namespace DeskScript

namespace Interpreter

variable {device : Type}

/-! ### Loops -/

/-- A loop keeps count of its iterations and notes what its condition could not resolve. -/
structure LoopRun (device : Type) where
  session : Session device
  iterations : Nat
  limited : Bool
  notes : StepNotes
  halt : Option Halt

/-- Every iteration begins at a checkpoint and binds the index variable. -/
def iterate (stepId : String) (rule : LoopRule) (body : Session device → Flow device)
    (iteration : Nat) (session : Session device) : Flow device :=
  (session.checkpoint stepId).andThen fun session =>
    match rule.indexVariable with
    | some index => body (session.bind index (toString iteration))
    | none => body session

/-- This loop has a number of iterations left. -/
def countUp (stepId : String) (rule : LoopRule) (body : Session device → Flow device) :
    Nat → Nat → Session device → LoopRun device
  | 0, iterations, session => ⟨session, iterations, false, .empty, none⟩
  | left + 1, iterations, session =>
      match iterate stepId rule body (iterations + 1) session with
      | (session, some reason) => ⟨session, iterations + 1, false, .empty, some reason⟩
      | (session, none) => countUp stepId rule body left (iterations + 1) session

/--
This loop goes on while its condition holds. When it still holds after the greatest number of
iterations there is a warning instead of another one.
-/
def repeatWhile (stepId : String) (rule : LoopRule) (condition : Condition)
    (body : Session device → Flow device) : Nat → Nat → StepNotes → Session device → LoopRun device
  | left, iterations, notes, session =>
      match session.context.checkpoint (some stepId) with
      | some abort => ⟨session, iterations, false, notes, some (.aborted abort)⟩
      | none =>
          let evaluation := condition.evaluate session.bindings
          let notes :=
            { notes with unresolved := Template.addNames notes.unresolved evaluation.unresolved }
          if !evaluation.result then ⟨session, iterations, false, notes, none⟩
          else
            match left with
            | 0 => ⟨session.warn ⟨stepId, rule.limit⟩, iterations, true, notes, none⟩
            | left + 1 =>
                match iterate stepId rule body (iterations + 1) session with
                | (session, some reason) => ⟨session, iterations + 1, false, notes, some reason⟩
                | (session, none) =>
                    repeatWhile stepId rule condition body left (iterations + 1) notes session

def runLoop (stepId : String) (rule : LoopRule) (body : Session device → Flow device)
    (session : Session device) : LoopRun device :=
  match rule.mode with
  | .count times => countUp stepId rule body times.toNat 0 session
  | .while_ condition =>
      repeatWhile stepId rule condition body rule.limit.toNat 0 .empty session

/-- A loop is recorded after its body, also when the run halts, but not after a breakdown. -/
def endLoop (place : Workplace device) (step : Step) (depth : Nat) (startedAt : Time.Timestamp)
    (run : LoopRun device) : Flow device :=
  let iterations := UInt32.ofNat run.iterations
  let record (outcome : StepOutcome) (error : Option String) : Session device :=
    run.session.record place step depth outcome run.notes error iterations startedAt
  match run.halt with
  | none => .goOn (record (.loop iterations run.limited) none)
  | some (.aborted abort) => .halt (record .aborted none) (.aborted abort)
  | some (.failed error stepId) => .halt (record .error (some error)) (.failed error stepId)
  | some .brokeDown => .halt run.session .brokeDown

/-! ### Steps -/

def depthFailure (config : EngineConfig) (step : Step) : Halt :=
  .failed ("maximum nesting depth " ++ toString config.maxDepth.toNat ++ " exceeded") (some step.id)

/-- A step that is too deep fails the run, and one that is not enabled is passed over. -/
def enter (place : Workplace device) (step : Step) (depth : Nat) (session : Session device)
    (run : Time.Timestamp → Session device → Flow device) : Flow device :=
  if place.config.maxDepth.toNat ≤ depth then .halt session (depthFailure place.config step)
  else
    let startedAt := session.time place
    if !step.header.enabled then
      .goOn (session.record place step depth .skip .empty none 0 startedAt)
    else
      run startedAt (session.publish (.stepStarted step.id step.stepType (UInt64.ofNat depth)))

/-- A branching step is recorded before the steps in it. -/
def recordBranch (place : Workplace device) (step : Step) (depth : Nat)
    (startedAt : Time.Timestamp) (evaluation : Evaluation) (session : Session device) :
    Session device :=
  let taken : BranchTaken := if evaluation.result then .whenTrue else .whenFalse
  session.record place step depth (.branch taken) ⟨evaluation.unresolved, none⟩ none 1 startedAt

mutual

def runStep (place : Workplace device) (depth : Nat) :
    Step → Session device → Flow device
  | .leaf header action, session =>
      enter place (.leaf header action) depth session fun startedAt session =>
        Leaf.attempt place (.leaf header action) action depth startedAt
          (Leaf.furtherAttempts header) 1 session
  | .branch header condition whenTrue whenFalse, session =>
      let step := Step.branch header condition whenTrue whenFalse
      enter place step depth session fun startedAt session =>
        let evaluation := condition.evaluate session.bindings
        let session := recordBranch place step depth startedAt evaluation session
        if evaluation.result then runAll place (depth + 1) whenTrue session
        else runAll place (depth + 1) whenFalse session
  | .loop header rule body, session =>
      let step := Step.loop header rule body
      enter place step depth session fun startedAt session =>
        endLoop place step depth startedAt
          (runLoop header.id rule (fun session => runAll place (depth + 1) body session) session)

/-- There is a checkpoint before and after every step. -/
def runAll (place : Workplace device) (depth : Nat) :
    List Step → Session device → Flow device
  | [], session => .goOn session
  | step :: rest, session =>
      (session.checkpoint step.id).andThen fun session =>
        (runStep place depth step session).andThen fun session =>
          (session.checkpoint step.id).andThen fun session =>
            runAll place depth rest session

end

/-! ### Runs -/

/-- A run that breaks down has no outcome. -/
def outcome? : Option Halt → Option RunOutcome
  | none => some .completed
  | some (.aborted abort) => some (.aborted abort.reason abort.stepId)
  | some (.failed error stepId) => some (.failed error stepId)
  | some .brokeDown => none

/-- After its steps a run publishes its outcome and gives a report. -/
def report (place : Workplace device) (script : Script) (startedAt : Time.Timestamp)
    (session : Session device) (outcome : RunOutcome) : Session device × RunReport :=
  let session := { session with context := session.context.cancel }
  let session := session.publish (.runFinished outcome)
  (session,
    { runId := session.context.runId
      scriptId := script.id
      scriptName := script.name
      outcome
      trace := session.trace.toList
      warnings := session.warnings.toList
      bindings := session.bindings
      startedAt
      finishedAt := session.time place })

/-- This function runs a script. There is no report if a device breaks down. -/
def run (place : Workplace device) (script : Script) (session : Session device) :
    Session device × Option RunReport :=
  let startedAt := session.time place
  let session := { session with context := session.context.arm }
  match runAll place 0 script.steps session with
  | (session, halt) =>
      match outcome? halt with
      | none => (session, none)
      | some outcome =>
          let (session, report) := report place script startedAt session outcome
          (session, some report)

end Interpreter

/-! ### Names that a run may bind -/

/-- A sensing step may bind its output variables, and a loop binds its index variable. -/
def Step.mayBind (name : String) : Step → Bool
  | .leaf _ (.waitImage _ sensing) => outputsOf sensing
  | .leaf _ (.searchText _ _ sensing) => outputsOf sensing
  | .loop _ rule _ => rule.indexVariable = some name
  | _ => false
where
  outputsOf (sensing : Sensing) : Bool :=
    sensing.output.any fun output =>
      name = output || name = Leaf.outputX output || name = Leaf.outputY output

namespace Script

/-- Names of this form are kept for what every match binds. -/
def isMatchName (name : String) : Bool := "matched_".toList.isPrefixOf name.toList

/-- A name may be bound by a run if it is kept for matches or if a step may bind it. -/
def mayBind (script : Script) (name : String) : Bool :=
  isMatchName name || script.visit.any fun visited => visited.2.mayBind name

/-- These names stand in placeholders, but nothing gives them a value. -/
def unboundNames (script : Script) : List String :=
  script.referencedVariables.filter fun name =>
    !(script.defaults.find? name).isSome && !script.mayBind name

end Script

end DeskScript
