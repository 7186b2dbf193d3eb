/-
This file takes the execution of a leaf step apart into instants, so that the clock goes on only
from one instant to the next. It is the same execution, seen from nearer by.
-/

import DeskScript.Proofs.Run.Clock
import DeskScript.Proofs.Run.Moves

namespace DeskScript

variable {device : Type}

namespace Leaf

/-! ### Phases of an attempt -/

/-- A step looks for something on the screen. After the next look it may look this often again. -/
structure Search where
  notes : StepNotes
  sensing : Sensing
  wait : Wait
  further : Nat
  /-- This is the number of looks without a match. -/
  looks : Nat

/-- These are the phases of a leaf step from its start until it is over. -/
inductive Phase where
  | begin
  | wait (duration : Nat)
  | look (search : Search)
  | pause (search : Search) (duration : Nat)
  | press (notes : StepNotes) (action : InputAction)
  | tried (notes : StepNotes) (ending : ActionEnd)
  /-- The step has been recorded, and there is the pause after it. -/
  | rest

/-- An attempt begins a search by unbinding the variables that a match binds. -/
def beginSearch (stepId : String) (session : Session device) (notes : StepNotes)
    (target : Target) (sensing : Sensing) : Session device × Phase :=
  let session := clearOutputs session sensing.output
  let timeout := sensing.timeout.toNat
  (session, .look
    { notes
      sensing
      wait := ⟨stepId, ⟨target, sensing.region, sensing.threshold⟩, timeout, session.context.now⟩
      further := timeout
      looks := 0 })

/-- An attempt fails at once when what it should do cannot be made out. -/
def prepare (stepId : String) (session : Session device) : Action → Session device × Phase
  | .click x y button count =>
      match position session.bindings x y with
      | (.error failure, notes) => (session, .tried notes (.failed failure))
      | (.ok (x, y), notes) => (session, .press notes (.click x y button count))
  | .move x y duration =>
      match position session.bindings x y with
      | (.error failure, notes) => (session, .tried notes (.failed failure))
      | (.ok (x, y), notes) => (session, .press notes (.move x y duration.toNat))
  | .type text interval =>
      let (text, notes) := StepNotes.empty.resolve session.bindings text
      (session, .press notes (.type text interval.toNat))
  | .hotkey keys =>
      match pressedKeys session.bindings keys .empty with
      | ([], notes) =>
          (session, .tried notes (.failed (.invalidValue "keys" ("+".intercalate keys)
            "no keys left after substitution")))
      | (pressed, notes) => (session, .press notes (.hotkey pressed))
  | .wait duration => (session, .wait duration.toNat)
  | .waitImage template sensing =>
      let (template, notes) := StepNotes.empty.resolve session.bindings template
      beginSearch stepId session notes (.image template) sensing
  | .searchText query exact sensing =>
      let (query, notes) := StepNotes.empty.resolve session.bindings query
      beginSearch stepId session notes (.text query exact) sensing

/-- After a match the step may be about to click on it. -/
def beginClick (session : Session device) (notes : StepNotes) (sensing : Sensing)
    (found : Match Float) : Session device × Phase :=
  let session := (matchBindings found sensing.output).foldl
    (fun session (name, value) => session.bind name value) session
  let notes := { notes with matchedText := some found.label }
  match sensing.click with
  | none => (session, .tried notes .done)
  | some click =>
      let center := found.center
      match checkedAdd? center.x click.offset.x, checkedAdd? center.y click.offset.y with
      | some x, some y => (session, .press notes (.click x y click.button click.clickCount))
      | _, _ => (session, .tried notes (.failed (offsetFailure center click.offset)))

/-- At the end of a sleep the run may have to stop. -/
def wakeUp (session : Session device) (notes : StepNotes) (stepId : String) (duration : Nat)
    (next : Session device → Session device × Phase) : Session device × Phase :=
  match session.sleep duration with
  | (session, some reason) =>
      (session, .tried notes (.failed (.aborted (session.abort reason stepId))))
  | (session, none) => next session

/-- Before a search looks at the screen there is a checkpoint. -/
def lookOnce (place : Workplace device) (session : Session device) (search : Search) :
    Session device × Phase :=
  match session.context.checkpoint (some search.wait.stepId) with
  | some abort => (session, .tried search.notes (.failed (.aborted abort)))
  | none =>
      match session.look place search.wait.look with
      | (session, .error reason) =>
          (session, .tried search.notes
            (.failed (.aborted (session.abort reason search.wait.stepId))))
      | (session, .ok .brokeDown) => (session, .tried search.notes .brokeDown)
      | (session, .ok (.unavailable unavailable)) =>
          (session, .tried search.notes (.failed (.unavailable unavailable)))
      | (session, .ok (.found found)) => beginClick session search.notes search.sensing found
      | (session, .ok .nothing) =>
          let elapsed := session.context.now - search.wait.startedAt
          if search.wait.timeout ≤ elapsed then
            (session, .tried search.notes (.failed (search.wait.expired (search.looks + 1))))
          else (session, .pause search (min place.config.pollWait (search.wait.timeout - elapsed)))

/-- A search goes on after a pause if there is a further look. -/
def lookAgain (search : Search) (session : Session device) : Session device × Phase :=
  match search.further with
  | 0 => (session, .tried search.notes (.failed (search.wait.expired (search.looks + 1))))
  | further + 1 => (session, .look { search with further, looks := search.looks + 1 })

/-- This is how an action ends with an answer of the input device. -/
def answered : InputAnswer → ActionEnd
  | .done => .done
  | .failed fault => .failed (.input fault)
  | .brokeDown => .brokeDown

/-- The device does an action, whether the run has to stop or not. -/
def press (place : Workplace device) (session : Session device) (notes : StepNotes)
    (action : InputAction) : Session device × Phase :=
  let (session, answer) := session.input place action
  (session, .tried notes (answered answer))

/-- In an attempt one phase follows another until the attempt has ended. -/
def advance (place : Workplace device) (stepId : String) (action : Action)
    (session : Session device) : Phase → Session device × Phase
  | .begin => prepare stepId session action
  | .wait duration =>
      wakeUp session .empty stepId duration fun session => (session, .tried .empty .done)
  | .look search => lookOnce place session search
  | .pause search duration =>
      wakeUp session search.notes search.wait.stepId duration (lookAgain search)
  | .press notes action => press place session notes action
  | .tried notes ending => (session, .tried notes ending)
  | .rest => (session, .rest)

end Leaf

namespace Interpreter

/-! ### Leaf steps in progress -/

/-- A leaf step that has been started is in a phase of one of its attempts. -/
structure OpenLeaf where
  header : StepHeader
  action : Action
  depth : Nat
  startedAt : Time.Timestamp
  /-- This is the number of further attempts. -/
  left : Nat
  /-- This is the number of the attempt. -/
  number : Nat
  phase : Leaf.Phase

/--
At an instant a run is between two leaf steps, or a leaf step is in progress and some tasks come
after it.
-/
inductive Instant (device : Type) where
  | between (moment : Moment device)
  | within (session : Session device) (leaf : OpenLeaf) (tasks : List Task)

namespace Instant

def session : Instant device → Session device
  | .between moment => moment.session
  | .within session _ _ => session

/-- These are the tasks that are left after the leaf step that is in progress. -/
def tasks : Instant device → List Task
  | .between moment => moment.tasks
  | .within _ _ tasks => tasks

/-- The run has to stop at its next checkpoint. -/
def Stopped (instant : Instant device) : Prop := instant.session.context.Stopped

instance (instant : Instant device) : Decidable instant.Stopped :=
  inferInstanceAs (Decidable instant.session.context.Stopped)

end Instant

namespace OpenLeaf

def step (leaf : OpenLeaf) : Step := .leaf leaf.header leaf.action

/-- The step comes to its next phase. -/
def enter (leaf : OpenLeaf) (tasks : List Task) (reached : Session device × Leaf.Phase) :
    Instant device :=
  .within reached.1 { leaf with phase := reached.2 } tasks

/-- The step is over, and the run goes on with the tasks after it unless it halts. -/
def leave (tasks : List Task) (flow : Flow device) : Instant device :=
  .between (.ofFlow flow tasks)

def record (leaf : OpenLeaf) (place : Workplace device) (session : Session device)
    (outcome : StepOutcome) (notes : StepNotes) (error : Option String) : Session device :=
  session.record place leaf.step leaf.depth outcome notes error (UInt32.ofNat leaf.number)
    leaf.startedAt

def fail (leaf : OpenLeaf) (place : Workplace device) (session : Session device)
    (notes : StepNotes) (failure : StepFailure) : Flow device :=
  Leaf.fail place leaf.step leaf.depth leaf.startedAt session notes failure leaf.number

/-- There is another attempt, after which fewer are left. -/
def again (leaf : OpenLeaf) (left : Nat) : OpenLeaf :=
  { leaf with left, number := leaf.number + 1, phase := .begin }

/-- The step is tried again, or it has failed for good. -/
def tryAgain (leaf : OpenLeaf) (place : Workplace device) (session : Session device)
    (tasks : List Task) (notes : StepNotes) (failure : StepFailure) : Instant device :=
  match leaf.left with
  | 0 => leave tasks (leaf.fail place session notes failure)
  | left + 1 =>
      if failure.isRecoverable then .within session (leaf.again left) tasks
      else leave tasks (leaf.fail place session notes failure)

/-- What follows an attempt depends on how it ended. -/
def conclude (leaf : OpenLeaf) (place : Workplace device) (session : Session device)
    (tasks : List Task) (notes : StepNotes) : ActionEnd → Instant device
  | .brokeDown => leave tasks (.halt session .brokeDown)
  | .done =>
      .within (leaf.record place session .success notes none) { leaf with phase := .rest } tasks
  | .failed (.aborted abort) =>
      leave tasks (.halt (leaf.record place session .aborted notes none) (.aborted abort))
  | .failed failure => leaf.tryAgain place session tasks notes failure

/-- The pause after a step ends it. -/
def finish (leaf : OpenLeaf) (place : Workplace device) (session : Session device) : Flow device :=
  match session.sleep place.config.stepDelay.toNat with
  | (session, some reason) => .halt session (.aborted (session.abort reason leaf.header.id))
  | (session, none) => .goOn session

/-- A step in progress goes on to the next instant. -/
def next (leaf : OpenLeaf) (place : Workplace device) (session : Session device)
    (tasks : List Task) : Instant device :=
  match leaf.phase with
  | .tried notes ending => leaf.conclude place session tasks notes ending
  | .rest => leave tasks (leaf.finish place session)
  | phase => leaf.enter tasks (Leaf.advance place leaf.header.id leaf.action session phase)

end OpenLeaf

/-! ### From one instant to the next -/

namespace Moment

/-- At this instant a leaf step has been started. -/
def openLeaf (place : Workplace device) (session : Session device) (depth : Nat)
    (header : StepHeader) (action : Action) (rest : List Step) (tasks : List Task) :
    Instant device :=
  .within (startStep depth (.leaf header action) session)
    { header, action, depth
      startedAt := session.time place
      left := Leaf.furtherAttempts header
      number := 1
      phase := .begin }
    (.check header.id :: .steps depth rest :: tasks)

/-- A moment may be followed by the start of a leaf step. -/
def opens? (place : Workplace device) : Moment device → Option (Instant device)
  | ⟨session, none, .steps depth (.leaf header action :: rest) :: tasks⟩ =>
      if session.context.checkpoint (some header.id) = none ∧
          depth < place.config.maxDepth.toNat ∧ header.enabled = true then
        some (openLeaf place session depth header action rest tasks)
      else none
  | _ => none

end Moment

namespace Instant

def next (place : Workplace device) : Instant device → Instant device
  | .between moment => (moment.opens? place).getD (.between (moment.next place))
  | .within session leaf tasks => leaf.next place session tasks

/-- At the first instant of a run all steps of its script are left to be done. -/
def start (script : Script) (session : Session device) : Instant device :=
  .between (.start script session)

end Instant

/-- A run passes from an instant to the instants after it. -/
abbrev Passes (place : Workplace device) : Instant device → Instant device → Prop :=
  Relation.ReflTransGen fun first second => first.next place = second

end Interpreter

end DeskScript
