/-
This file lets other devices take over in the middle of a run. Up to then the run goes on as before,
and from then on everything is found that a step looks for.
-/

import DeskScript.Proofs.Run.DisabledSteps
import DeskScript.Proofs.Run.Interruption

namespace DeskScript

variable {device : Type}

/-! ### Devices that take over -/

namespace Devices

/-- What is found is at least as certain as was asked for. -/
def Honest (devices : Devices device) : Prop :=
  ∀ state look found, (devices.look state look).2 = .found found → look.threshold ≤ found.confidence

/--
These devices count their calls. For some calls they do what the given devices do, and after that
they find at once whatever may be found with the confidence one.
-/
def thenFinding (devices : Devices device) (limit : Nat) : Devices (device × Nat) where
  note state call :=
    if state.2 < limit then
      let noted := devices.note state.1 call
      ((noted.1, state.2 + 1), noted.2)
    else ((state.1, state.2 + 1), .immediate)
  input state action :=
    if state.2 ≤ limit then
      let done := devices.input state.1 action
      ((done.1, state.2), done.2)
    else (state, .done)
  look state look :=
    if state.2 ≤ limit then
      let looked := devices.look state.1 look
      ((looked.1, state.2), looked.2)
    else (state, if look.threshold ≤ 1 then .found ⟨"", 1, ⟨0, 0, 1, 1⟩⟩ else .nothing)

theorem Honest.thenFinding {devices : Devices device} (honest : devices.Honest) (limit : Nat) :
    (devices.thenFinding limit).Honest := by
  intro state look found isFound
  rw [Devices.thenFinding] at isFound
  simp only at isFound
  split at isFound
  · exact honest state.1 look found isFound
  · split at isFound
    · rename_i certain
      cases isFound
      exact certain
    · cases isFound

end Devices

def Workplace.thenFinding (place : Workplace device) (limit : Nat) : Workplace (device × Nat) :=
  ⟨place.devices.thenFinding limit, place.config, place.origin⟩

variable {place : Workplace device} {limit : Nat}

/-! ### Calls -/

namespace Session

/-- In this session the devices count the calls. -/
def counted (session : Session device) : Session (device × Nat) :=
  ⟨session.context, session.bindings, (session.device, session.calls.size), session.calls,
    session.trace, session.warnings, session.events⟩

theorem noteCounted (place : Workplace device) (session : Session device) (call : DeviceCall)
    (fits : session.calls.size < limit) :
    session.counted.note (place.thenFinding limit) call =
      ((session.note place call).1.counted, (session.note place call).2) := by
  obtain ⟨context, bindings, state, calls, trace, warnings, events⟩ := session
  simp only [counted, note, use, Workplace.thenFinding, Devices.thenFinding, if_pos fits,
    Array.size_push]

theorem noteSize (session : Session device) (call : DeviceCall) :
    (session.note place call).1.calls.size = session.calls.size + 1 := Array.size_push _

theorem inputCounted (session : Session device) (action : InputAction)
    (fits : session.calls.size < limit) :
    session.counted.input (place.thenFinding limit) action =
      ((session.input place action).1.counted, (session.input place action).2) := by
  have noted := session.noteCounted place (.input action) fits
  have within : (session.note place (.input action)).1.calls.size ≤ limit := by
    rw [noteSize]
    exact fits
  rw [input, input, noted]
  generalize session.note place (.input action) = noting at within
  obtain ⟨after, delay⟩ := noting
  simp only [counted, use, Workplace.thenFinding, Devices.thenFinding, if_pos within]

theorem lookCounted (session : Session device) (asked : Look) (fits : session.calls.size < limit) :
    session.counted.look (place.thenFinding limit) asked =
      ((session.look place asked).1.counted, (session.look place asked).2) := by
  have noted := session.noteCounted place (.look asked) fits
  have within : (session.note place (.look asked)).1.calls.size ≤ limit := by
    rw [noteSize]
    exact fits
  rw [look, look, noted]
  generalize session.note place (.look asked) = noting at within
  obtain ⟨after, delay⟩ := noting
  simp only [counted]
  obtain ⟨context, _ | reason⟩ := after.context.work delay
  · simp only [use, Workplace.thenFinding, Devices.thenFinding, if_pos within]
  · rfl

theorem inputSize (session : Session device) (action : InputAction) :
    (session.input place action).1.calls.size = session.calls.size + 1 := by
  have proceeds : Proceeds session (session.input place action).1 _ := session.inputProceeds action
  simpa using congrArg List.length proceeds.calls

theorem lookSize (session : Session device) (asked : Look) :
    (session.look place asked).1.calls.size = session.calls.size + 1 := by
  have proceeds : Proceeds session (session.look place asked).1 _ := session.lookProceeds asked
  simpa using congrArg List.length proceeds.calls

/-- After other devices have taken over, what is looked for is found at once. -/
theorem lookFinds (place : Workplace device) (session : Session (device × Nat)) (asked : Look)
    (spent : limit ≤ session.device.2) (certain : asked.threshold ≤ 1) :
    ∃ after found, session.look (place.thenFinding limit) asked = (after, .ok (.found found)) := by
  obtain ⟨context, bindings, state, calls, trace, warnings, events⟩ := session
  have noted : ¬state.2 < limit := Nat.not_lt.mpr spent
  have looked : ¬state.2 + 1 ≤ limit := Nat.not_le.mpr (Nat.lt_succ_of_le spent)
  simp only [look, note, use, Workplace.thenFinding, Devices.thenFinding, if_neg noted,
    CallTiming.immediate, RunContext.work, if_true, if_neg looked, if_pos certain]
  exact ⟨_, _, rfl⟩

end Session

namespace Leaf

/-! ### Phases -/

theorem clearOutputsCounted (session : Session device) (output : Option String) :
    clearOutputs session.counted output = (clearOutputs session output).counted := by
  cases output <;> rfl

theorem bindAllCounted (session : Session device) (named : List (String × String)) :
    named.foldl (fun session (name, value) => session.bind name value) session.counted =
      (named.foldl (fun session (name, value) => session.bind name value) session).counted := by
  induction named generalizing session with
  | nil => rfl
  | cons head rest inductionHypothesis => exact inductionHypothesis (session.bind head.1 head.2)

theorem bindAllCalls (session : Session device) (named : List (String × String)) :
    (named.foldl (fun session (name, value) => session.bind name value) session).calls =
      session.calls := by
  induction named generalizing session with
  | nil => rfl
  | cons head rest inductionHypothesis => exact inductionHypothesis (session.bind head.1 head.2)

theorem prepareCounted (stepId : String) (session : Session device) (action : Action) :
    prepare stepId session.counted action =
      ((prepare stepId session action).1.counted, (prepare stepId session action).2) := by
  have bindings : session.counted.bindings = session.bindings := rfl
  cases action with
  | click x y button count =>
      rw [prepare, prepare, bindings]
      obtain ⟨failure | ⟨x, y⟩, notes⟩ := position session.bindings x y <;> rfl
  | move x y duration =>
      rw [prepare, prepare, bindings]
      obtain ⟨failure | ⟨x, y⟩, notes⟩ := position session.bindings x y <;> rfl
  | hotkey keys =>
      rw [prepare, prepare, bindings]
      obtain ⟨_ | ⟨key, others⟩, notes⟩ := pressedKeys session.bindings keys .empty <;> rfl
  | waitImage template sensing =>
      simp only [prepare, beginSearch, bindings, clearOutputsCounted]
      rfl
  | searchText query exactly sensing =>
      simp only [prepare, beginSearch, bindings, clearOutputsCounted]
      rfl
  | _ => rfl

theorem beginClickCounted (session : Session device) (notes : StepNotes) (sensing : Sensing)
    (found : Match Float) :
    beginClick session.counted notes sensing found =
      ((beginClick session notes sensing found).1.counted,
        (beginClick session notes sensing found).2) := by
  rw [beginClick, beginClick, bindAllCounted]
  cases sensing.click with
  | none => rfl
  | some click =>
      simp only
      cases checkedAdd? found.center.x click.offset.x with
      | none => rfl
      | some x => cases checkedAdd? found.center.y click.offset.y <;> rfl

/-- Whether a step is about to click or not, it has bound what a match binds. -/
theorem beginClickSession (session : Session device) (notes : StepNotes) (sensing : Sensing)
    (found : Match Float) :
    (beginClick session notes sensing found).1 = (matchBindings found sensing.output).foldl
      (fun session (name, value) => session.bind name value) session := by
  rw [beginClick]
  cases sensing.click with
  | none => rfl
  | some click =>
      simp only
      split <;> rfl

theorem lookOnceCalls (session : Session device) (search : Search)
    (free : session.context.checkpoint (some search.wait.stepId) = none) :
    (lookOnce place session search).1.calls = (session.look place search.wait.look).1.calls := by
  rw [lookOnce, free]
  simp only
  obtain ⟨after, reason | found | _ | unavailable | _⟩ := session.look place search.wait.look
  · rfl
  · simp only [beginClickSession, bindAllCalls]
  · simp only
    split <;> rfl
  · rfl
  · rfl

theorem lookOnceCounted (session : Session device) (search : Search)
    (fits : (lookOnce place session search).1.calls.size ≤ limit) :
    lookOnce (place.thenFinding limit) session.counted search =
      ((lookOnce place session search).1.counted, (lookOnce place session search).2) := by
  have context : session.counted.context = session.context := rfl
  cases checked : session.context.checkpoint (some search.wait.stepId) with
  | some abort =>
      rw [lookOnce, lookOnce, context, checked]
  | none =>
      rw [lookOnceCalls session search checked, Session.lookSize] at fits
      rw [lookOnce, lookOnce, context, checked]
      simp only
      rw [session.lookCounted search.wait.look fits]
      obtain ⟨after, reason | found | _ | unavailable | _⟩ := session.look place search.wait.look
      · rfl
      · exact beginClickCounted after search.notes search.sensing found
      · have later : after.counted.context = after.context := rfl
        simp only [later]
        split <;> rfl
      · rfl
      · rfl

theorem wakeUpCounted (session : Session device) (notes : StepNotes) (stepId : String)
    (duration : Nat) {next : Session device → Session device × Phase}
    {counting : Session (device × Nat) → Session (device × Nat) × Phase}
    (commutes : ∀ session,
      counting session.counted = ((next session).1.counted, (next session).2)) :
    wakeUp session.counted notes stepId duration counting =
      ((wakeUp session notes stepId duration next).1.counted,
        (wakeUp session notes stepId duration next).2) := by
  have slept : session.counted.sleep duration =
      ((session.sleep duration).1.counted, (session.sleep duration).2) := rfl
  rw [wakeUp, wakeUp, slept]
  obtain ⟨after, _ | reason⟩ := session.sleep duration
  · exact commutes after
  · rfl

theorem lookAgainCounted (search : Search) (session : Session device) :
    lookAgain search session.counted =
      ((lookAgain search session).1.counted, (lookAgain search session).2) := by
  rw [lookAgain, lookAgain]
  cases search.further <;> rfl

theorem pressCounted (session : Session device) (notes : StepNotes) (action : InputAction)
    (fits : (press place session notes action).1.calls.size ≤ limit) :
    press (place.thenFinding limit) session.counted notes action =
      ((press place session notes action).1.counted, (press place session notes action).2) := by
  have within : (session.input place action).1.calls.size ≤ limit := fits
  rw [Session.inputSize] at within
  rw [press, press, session.inputCounted action within]

/-- As long as the calls do not exceed the limit, a phase comes to the same. -/
theorem advanceCounted (stepId : String) (action : Action) (session : Session device)
    (phase : Phase)
    (fits : (advance place stepId action session phase).1.calls.size ≤ limit) :
    advance (place.thenFinding limit) stepId action session.counted phase =
      ((advance place stepId action session phase).1.counted,
        (advance place stepId action session phase).2) := by
  cases phase with
  | begin => exact prepareCounted stepId session action
  | wait duration => exact wakeUpCounted session .empty stepId duration fun _ => rfl
  | look search => exact lookOnceCounted session search fits
  | pause search duration =>
      exact wakeUpCounted session search.notes search.wait.stepId duration (lookAgainCounted search)
  | press notes input => exact pressCounted session notes input fits
  | _ => rfl

end Leaf

namespace Interpreter

/-! ### Instants -/

def Moment.counted (moment : Moment device) : Moment (device × Nat) :=
  ⟨moment.session.counted, moment.halt, moment.tasks⟩

def Instant.counted : Instant device → Instant (device × Nat)
  | .between moment => .between moment.counted
  | .within session leaf tasks => .within session.counted leaf tasks

namespace OpenLeaf

theorem failCounted (leaf : OpenLeaf) (session : Session device) (tasks : List Task)
    (notes : StepNotes) (failure : StepFailure) :
    leave tasks (leaf.fail (place.thenFinding limit) session.counted notes failure) =
      (leave tasks (leaf.fail place session notes failure)).counted := by
  rw [fail, fail, Leaf.fail, Leaf.fail]
  have config : (place.thenFinding limit).config = place.config := rfl
  rw [config]
  split <;> rfl

theorem concludeCounted (leaf : OpenLeaf) (session : Session device) (tasks : List Task)
    (notes : StepNotes) (ending : ActionEnd) :
    leaf.conclude (place.thenFinding limit) session.counted tasks notes ending =
      (leaf.conclude place session tasks notes ending).counted := by
  have again (failure : StepFailure) :
      leaf.tryAgain (place.thenFinding limit) session.counted tasks notes failure =
        (leaf.tryAgain place session tasks notes failure).counted := by
    rw [tryAgain, tryAgain]
    cases leaf.left with
    | zero => exact leaf.failCounted session tasks notes failure
    | succ left =>
        simp only
        split
        · rfl
        · exact leaf.failCounted session tasks notes failure
  cases ending with
  | done => rfl
  | brokeDown => rfl
  | failed failure =>
      cases failure with
      | aborted abort => rfl
      | _ => exact again _

theorem finishCounted (leaf : OpenLeaf) (session : Session device) (tasks : List Task) :
    leave tasks (leaf.finish (place.thenFinding limit) session.counted) =
      (leave tasks (leaf.finish place session)).counted := by
  have slept : session.counted.sleep place.config.stepDelay.toNat =
      ((session.sleep place.config.stepDelay.toNat).1.counted,
        (session.sleep place.config.stepDelay.toNat).2) := rfl
  rw [finish, finish, show (place.thenFinding limit).config = place.config from rfl, slept]
  obtain ⟨after, _ | reason⟩ := session.sleep place.config.stepDelay.toNat <;> rfl

theorem nextCounted (leaf : OpenLeaf) (session : Session device) (tasks : List Task)
    (fits : (leaf.next place session tasks).session.calls.size ≤ limit) :
    leaf.next (place.thenFinding limit) session.counted tasks =
      (leaf.next place session tasks).counted := by
  cases isOver : leaf.phase.isOver with
  | false =>
      rw [nextAdvance session tasks isOver] at fits
      rw [nextAdvance session tasks isOver, nextAdvance session.counted tasks isOver,
        Leaf.advanceCounted leaf.header.id leaf.action session leaf.phase fits]
      rfl
  | true =>
      obtain ⟨header, action, depth, startedAt, left, number, phase⟩ := leaf
      cases phase with
      | tried notes ending => exact concludeCounted _ session tasks notes ending
      | rest => exact finishCounted _ session tasks
      | _ => cases isOver

end OpenLeaf

theorem closeCounted (loop : OpenLoop) (session : Session device) (limited : Bool)
    (halt : Option Halt) :
    loop.close (place.thenFinding limit) session.counted limited halt =
      (loop.close place session limited halt).counted := by
  cases halt with
  | none => rfl
  | some reason => cases reason <;> rfl

theorem iterateCounted (loop : OpenLoop) (left : Nat) (session : Session device) :
    loop.iterate left session.counted = (loop.iterate left session).counted := by
  have context : session.counted.context = session.context := rfl
  rw [OpenLoop.iterate, OpenLoop.iterate, Moment.checkpoint, Moment.checkpoint, context]
  simp only
  cases session.context.checkpoint (some loop.header.id) with
  | some abort => rfl
  | none =>
      simp only [Moment.counted, OpenLoop.bindIndex]
      cases loop.rule.indexVariable <;> rfl

theorem turnCounted (loop : OpenLoop) (session : Session device) :
    loop.turn (place.thenFinding limit) session.counted = (loop.turn place session).counted := by
  have context : session.counted.context = session.context := rfl
  have bindings : session.counted.bindings = session.bindings := rfl
  rw [OpenLoop.turn, OpenLoop.turn]
  cases loop.rule.mode with
  | count times =>
      cases loop.left with
      | zero =>
          simp only [closeCounted]
          rfl
      | succ left => exact iterateCounted loop left session
  | while_ condition =>
      simp only [Moment.checkpoint, context, bindings]
      cases session.context.checkpoint (some loop.header.id) with
      | some abort => rfl
      | none =>
          simp only
          generalize condition.evaluate session.bindings = evaluation
          by_cases ends : (!evaluation.result) = true
          · rw [if_pos ends, if_pos ends, closeCounted]
            rfl
          · rw [if_neg ends, if_neg ends]
            cases (loop.noteCondition evaluation).left with
            | zero =>
                exact congrArg (Moment.mk · none []) (closeCounted _ (session.warn _) true none)
            | succ left => exact iterateCounted _ left session

/-- A step that is no leaf does not use the devices when it begins. -/
theorem beginCounted (session : Session device) (depth : Nat) (step : Step)
    (noLeaf : ∀ header action, step = .leaf header action →
      ¬(depth < place.config.maxDepth.toNat ∧ header.enabled = true)) :
    begin (place.thenFinding limit) depth step session.counted =
      (begin place depth step session).counted := by
  have config : (place.thenFinding limit).config = place.config := rfl
  rw [begin, begin, config]
  by_cases deep : place.config.maxDepth.toNat ≤ depth
  · rw [if_pos deep, if_pos deep]
    rfl
  · rw [if_neg deep, if_neg deep]
    simp only
    by_cases disabled : (!step.header.enabled) = true
    · rw [if_pos disabled, if_pos disabled]
      rfl
    · rw [if_neg disabled, if_neg disabled]
      cases step with
      | leaf header action =>
          have enabled : header.enabled = true := by simpa [Step.header] using disabled
          exact absurd ⟨Nat.lt_of_not_le deep, enabled⟩ (noLeaf header action rfl)
      | branch header condition whenTrue whenFalse => rfl
      | loop header rule body => rfl

namespace Moment

theorem opensCounted (moment : Moment device) :
    moment.counted.opens? (place.thenFinding limit) =
      (moment.opens? place).map Instant.counted := by
  obtain ⟨session, _ | reason, _ | ⟨_ | _ | _, tasks⟩⟩ := moment
  case none.cons.steps depth steps =>
    obtain _ | ⟨_ | _ | _, rest⟩ := steps
    case cons.leaf header action =>
      have config : (place.thenFinding limit).config = place.config := rfl
      have context : session.counted.context = session.context := rfl
      simp only [counted, opens?, config, context]
      split <;> rfl
    all_goals rfl
  all_goals rfl

/-- Between two leaf steps no devices are used. -/
theorem nextCounted {moment : Moment device} (closed : moment.opens? place = none) :
    moment.counted.next (place.thenFinding limit) = (moment.next place).counted := by
  obtain ⟨session, halt, _ | ⟨task, tasks⟩⟩ := moment
  · cases halt <;> rfl
  have context : session.counted.context = session.context := rfl
  cases halt with
  | some reason =>
      cases task with
      | loop opened =>
          simp only [counted, next, Task.giveUp, closeCounted]
      | _ => rfl
  | none =>
      cases task with
      | steps depth steps =>
          cases steps with
          | nil => rfl
          | cons step rest =>
              simp only [counted, next, Task.perform, checkpoint, context]
              cases checked : session.context.checkpoint (some step.id) with
              | some abort => rfl
              | none =>
                  have noLeaf : ∀ header action, step = .leaf header action →
                      ¬(depth < place.config.maxDepth.toNat ∧ header.enabled = true) := by
                    rintro header action rfl ⟨fits, enabled⟩
                    rw [leafOpens ⟨checked, fits, enabled⟩] at closed
                    cases closed
                  simp only [beginCounted session depth step noLeaf]
                  rfl
      | check stepId =>
          simp only [counted, next, Task.perform, checkpoint, context]
          cases session.context.checkpoint (some stepId) <;> rfl
      | loop opened =>
          simp only [counted, next, Task.perform, turnCounted]
          rfl

end Moment

namespace Instant

/-- As long as the calls do not exceed the limit, a run comes to the same instants. -/
theorem nextCounted (instant : Instant device)
    (fits : (instant.next place).session.calls.size ≤ limit) :
    instant.counted.next (place.thenFinding limit) = (instant.next place).counted := by
  cases instant with
  | within session leaf tasks => exact leaf.nextCounted session tasks fits
  | between moment =>
      have opens : moment.counted.opens? (place.thenFinding limit) = _ := moment.opensCounted
      cases isOpen : moment.opens? place with
      | some opened =>
          rw [isOpen] at opens
          rw [nextOpened isOpen, counted, nextOpened opens]
      | none =>
          rw [isOpen] at opens
          rw [nextClosed isOpen, counted, nextClosed opens, Moment.nextCounted isOpen]
          rfl

/-- Where no leaf step is opened, only the iteration of a loop may bind a name. -/
theorem unmovedBetween {moment : Moment device} (closed : moment.opens? place = none) :
    Unmoved moment.session (moment.next place).session ∨
      ∃ session loop later tasks, moment = ⟨session, none, .loop loop :: tasks⟩ ∧
        moment.next place = ⟨later.bindIndex session, none,
          .steps (loop.depth + 1) loop.body :: .loop later :: tasks⟩ ∧
        later.step = loop.step := by
  have moves : Move place moment (moment.next place) := moveOfNext moment
  generalize moment.next place = after at moves
  cases moves with
  | leaf session depth header action rest tasks begins =>
      rw [leafOpens begins] at closed
      cases closed
  | iterated session loop later tasks same =>
      exact .inr ⟨session, loop, later, tasks, rfl, rfl, same⟩
  | unwound session reason loop tasks => exact .inl (closeUnmoved loop session false _)
  | ended session loop later tasks => exact .inl (closeUnmoved later session false none)
  | limited session loop later tasks =>
      have closed : Unmoved (session.warn ⟨loop.header.id, loop.rule.limit⟩)
          (later.close place (session.warn ⟨loop.header.id, loop.rule.limit⟩) true none) :=
        closeUnmoved later _ true none
      exact .inl ⟨closed.calls, closed.device, closed.bindings⟩
  | _ => exact .inl ⟨rfl, rfl, rfl⟩

theorem callsBetween {moment : Moment device} (closed : moment.opens? place = none) :
    (moment.next place).session.calls = moment.session.calls := by
  obtain unmoved | ⟨session, loop, later, tasks, isMoment, isNext, -⟩ := unmovedBetween closed
  · exact unmoved.calls
  · rw [isNext, isMoment, OpenLoop.bindIndex]
    cases later.rule.indexVariable <;> rfl

theorem callsGrow (place : Workplace device) (instant : Instant device) :
    instant.session.calls.size ≤ (instant.next place).session.calls.size := by
  cases instant with
  | between moment =>
      cases isOpen : moment.opens? place with
      | none =>
          rw [nextClosed isOpen]
          exact Nat.le_of_eq (congrArg Array.size (callsBetween isOpen)).symm
      | some opened =>
          rw [nextOpened isOpen]
          cases opensOfSome isOpen
          exact Nat.le_refl _
  | within session leaf tasks =>
      obtain ⟨records, entries, winds, -⟩ := leaf.windsDown place session tasks
      have calls := congrArg List.length winds.calls
      rw [List.length_append] at calls
      exact Nat.le.intro calls.symm

end Instant

/-- A run comes to an instant in the same way if other devices take over no earlier. -/
theorem Passes.counted {first last : Instant device} (passes : Passes place first last)
    (fits : last.session.calls.size ≤ limit) :
    Passes (place.thenFinding limit) first.counted last.counted := by
  induction passes with
  | refl => exact .refl
  | @tail middle later _ next inductionHypothesis =>
      subst next
      -- Calls never become fewer, so the limit was kept before as well.
      have earlier := inductionHypothesis (Nat.le_trans (Instant.callsGrow place middle) fits)
      exact earlier.tail (middle.nextCounted fits)

end Interpreter

end DeskScript
