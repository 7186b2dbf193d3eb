/-
This file takes a run apart into moments. At every moment some tasks are left, and a run goes from
one moment to the next by the first of them.
-/

import DeskScript.Run.Interpreter
import Mathlib.Logic.Relation

namespace DeskScript

variable {device : Type}

namespace Interpreter

/-! ### Tasks -/

/-- A loop that has been started counts its iterations until it is recorded. -/
structure OpenLoop where
  header : StepHeader
  rule : LoopRule
  body : List Step
  depth : Nat
  startedAt : Time.Timestamp
  /-- The rule of the loop allows this many further iterations. -/
  left : Nat
  iterations : Nat
  notes : StepNotes

/-- A task is a part of a run that is left to be done. -/
inductive Task where
  | steps (depth : Nat) (steps : List Step)
  | check (stepId : String)
  | loop (loop : OpenLoop)

/-- A run that has halted gives up one task after the other. -/
structure Moment (device : Type) where
  session : Session device
  halt : Option Halt
  tasks : List Task

namespace Moment

/-- The tasks of a moment come before further ones. -/
def andThen (moment : Moment device) (tasks : List Task) : Moment device :=
  { moment with tasks := moment.tasks ++ tasks }

/-- This is the moment at which a part of a run has ended and some tasks are left. -/
def ofFlow (flow : Flow device) (tasks : List Task) : Moment device := ⟨flow.1, flow.2, tasks⟩

/-- At a checkpoint a run goes on, or it stops with some tasks undone. -/
def checkpoint (session : Session device) (stepId : String) (undone : List Task)
    (next : Moment device) : Moment device :=
  match session.context.checkpoint (some stepId) with
  | some abort => ⟨session, some (.aborted abort), undone⟩
  | none => next

end Moment

/-! ### Loops -/

/-- This is the greatest number of iterations. -/
def iterationsAllowed (rule : LoopRule) : Nat :=
  match rule.mode with
  | .count times => times.toNat
  | .while_ _ => rule.limit.toNat

namespace OpenLoop

def step (loop : OpenLoop) : Step := .loop loop.header loop.rule loop.body

/-- A loop is recorded when it ends or the run halts, unless a device breaks down. -/
def close (place : Workplace device) (loop : OpenLoop) (session : Session device) (limited : Bool)
    (halt : Option Halt) : Session device :=
  (endLoop place loop.step loop.depth loop.startedAt
    ⟨session, loop.iterations, limited, loop.notes, halt⟩).1

/-- A loop that was started binds its index variable in every iteration. -/
def bindIndex (loop : OpenLoop) (session : Session device) : Session device :=
  match loop.rule.indexVariable with
  | some index => session.bind index (toString loop.iterations)
  | none => session

theorem bindIndexTrace (loop : OpenLoop) (session : Session device) :
    (loop.bindIndex session).trace = session.trace := by
  rw [bindIndex]
  split <;> rfl

theorem bindIndexContext (loop : OpenLoop) (session : Session device) :
    (loop.bindIndex session).context = session.context := by
  rw [bindIndex]
  split <;> rfl

/-- The next iteration begins at a checkpoint, and then the steps in the loop are to be done. -/
def iterate (loop : OpenLoop) (left : Nat) (session : Session device) : Moment device :=
  let loop := { loop with left, iterations := loop.iterations + 1 }
  .checkpoint session loop.header.id [.loop loop]
    ⟨loop.bindIndex session, none, [.steps (loop.depth + 1) loop.body, .loop loop]⟩

/-- A loop notes what its condition could not resolve. -/
def noteCondition (loop : OpenLoop) (evaluation : Evaluation) : OpenLoop :=
  { loop with
    notes :=
      { loop.notes with
        unresolved := Template.addNames loop.notes.unresolved evaluation.unresolved } }

/-- Before every iteration a loop may end. -/
def turn (place : Workplace device) (loop : OpenLoop) (session : Session device) : Moment device :=
  match loop.rule.mode with
  | .count _ =>
      match loop.left with
      | 0 => ⟨loop.close place session false none, none, []⟩
      | left + 1 => loop.iterate left session
  | .while_ condition =>
      .checkpoint session loop.header.id [.loop loop] <|
        let evaluation := condition.evaluate session.bindings
        let loop := loop.noteCondition evaluation
        if !evaluation.result then ⟨loop.close place session false none, none, []⟩
        else
          match loop.left with
          | 0 =>
              ⟨loop.close place (session.warn ⟨loop.header.id, loop.rule.limit⟩) true none, none,
                []⟩
          | left + 1 => loop.iterate left session

end OpenLoop

/-! ### From one moment to the next -/

def startStep (depth : Nat) (step : Step) (session : Session device) : Session device :=
  session.publish (.stepStarted step.id step.stepType (UInt64.ofNat depth))

/--
A step is started unless it is too deep or not enabled. A leaf step is also run to its end, and a
branching step is also recorded.
-/
def begin (place : Workplace device) (depth : Nat) (step : Step) (session : Session device) :
    Moment device :=
  if place.config.maxDepth.toNat ≤ depth then ⟨session, some (depthFailure place.config step), []⟩
  else
    let startedAt := session.time place
    if !step.header.enabled then
      ⟨session.record place step depth .skip .empty none 0 startedAt, none, []⟩
    else
      let session := startStep depth step session
      match step with
      | .leaf header action =>
          .ofFlow (Leaf.attempt place (.leaf header action) action depth startedAt
            (Leaf.furtherAttempts header) 1 session) []
      | .branch header condition whenTrue whenFalse =>
          let evaluation := condition.evaluate session.bindings
          let step := Step.branch header condition whenTrue whenFalse
          let session := recordBranch place step depth startedAt evaluation session
          let way := if evaluation.result then whenTrue else whenFalse
          ⟨session, none, [.steps (depth + 1) way]⟩
      | .loop header rule body =>
          ⟨session, none, [.loop ⟨header, rule, body, depth, startedAt, iterationsAllowed rule, 0,
            .empty⟩]⟩

namespace Task

/-- A task is done in part, and the tasks of the moment after it are what is left of it. -/
def perform (place : Workplace device) (session : Session device) : Task → Moment device
  | .steps _ [] => ⟨session, none, []⟩
  | .steps depth (step :: rest) =>
      .checkpoint session step.id []
        ((begin place depth step session).andThen [.check step.id, .steps depth rest])
  | .check stepId => .checkpoint session stepId [] ⟨session, none, []⟩
  | .loop opened => opened.turn place session

/-- Of the tasks that are given up only loops are recorded. -/
def giveUp (place : Workplace device) (reason : Halt) (session : Session device) :
    Task → Session device
  | .loop opened => opened.close place session false (some reason)
  | _ => session

end Task

namespace Moment

/-- A run is over when no tasks are left. -/
def next (place : Workplace device) : Moment device → Moment device
  | ⟨session, halt, []⟩ => ⟨session, halt, []⟩
  | ⟨session, some reason, task :: tasks⟩ =>
      ⟨task.giveUp place reason session, some reason, tasks⟩
  | ⟨session, none, task :: tasks⟩ => (task.perform place session).andThen tasks

end Moment

/-- A moment leads to the moments after it. -/
abbrev Leads (place : Workplace device) : Moment device → Moment device → Prop :=
  Relation.ReflTransGen fun first second => first.next place = second

variable {place : Workplace device}

theorem Leads.step {first second last : Moment device} (next : first.next place = second)
    (leads : Leads place second last) : Leads place first last := .head next leads

/-- Of two moments of a run one leads to the other. -/
theorem Leads.linear {start first second : Moment device} (one : Leads place start first)
    (other : Leads place start second) : Leads place first second ∨ Leads place second first :=
  Relation.ReflTransGen.total_of_right_unique (fun _ _ _ one other => one.symm.trans other) one
    other

namespace Moment

/-- At the first moment of a run all steps of its script are left to be done. -/
def start (script : Script) (session : Session device) : Moment device :=
  ⟨{ session with context := session.context.arm }, none, [.steps 0 script.steps]⟩

end Moment

end Interpreter

end DeskScript
