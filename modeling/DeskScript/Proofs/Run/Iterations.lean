/-
This file follows a loop of a run through its iterations, from the moment at which it begins to its
end, and says in which ways it may end.
-/

import DeskScript.Proofs.Run.Retries

namespace DeskScript

variable {device : Type} {place : Workplace device}

namespace Interpreter

/-- At a moment of a run a loop begins. -/
structure LoopStart (place : Workplace device) (start : Moment device) where
  session : Session device
  depth : Nat
  header : StepHeader
  rule : LoopRule
  body : List Step
  rest : List Step
  tasks : List Task
  leads : Leads place start (.atStep session depth (.loop header rule body) rest tasks)
  begins : Begins place session depth (.loop header rule body)

namespace LoopStart

variable {start : Moment device}

def step (loop : LoopStart place start) : Step := .loop loop.header loop.rule loop.body

def opening (loop : LoopStart place start) : Session device :=
  startStep loop.depth loop.step loop.session

/-- At the next checkpoint the run goes on, and the condition of the loop has an answer. -/
structure Answers (loop : LoopStart place start) (session : Session device) (condition : Condition)
    (answer : Bool) : Prop where
  repeats : loop.rule.mode = .while_ condition
  passed : session.context.checkpoint (some loop.header.id) = none
  decided : (condition.evaluate session.bindings).result = answer

/-- A loop that counts goes on in any case, and one with a condition as long as it holds. -/
inductive GoesOn (loop : LoopStart place start) (session : Session device) : Prop where
  | counts {times : UInt32} (isMode : loop.rule.mode = .count times) : GoesOn loop session
  | holds {condition : Condition} (answers : loop.Answers session condition true) :
      GoesOn loop session

def iteration (loop : LoopStart place start) (number : Nat) (session : Session device) :
    Flow device :=
  iterate loop.header.id loop.rule (runAll place (loop.depth + 1) loop.body) number session

/-- A number of iterations has been executed to their ends. -/
inductive Iterated (loop : LoopStart place start) : Nat → Session device → Prop where
  | zero : Iterated loop 0 loop.opening
  | next {count : Nat} {before after : Session device} (earlier : Iterated loop count before)
      (isLeft : count < iterationsAllowed loop.rule) (goesOn : loop.GoesOn before)
      (executes : loop.iteration (count + 1) before = (after, none)) :
      Iterated loop (count + 1) after

/-- In these ways a loop ends. Its limit ends it only where its condition still holds. -/
inductive Ends (loop : LoopStart place start) : LoopRun device → Prop where
  | counted {times : UInt32} {session : Session device} (isMode : loop.rule.mode = .count times)
      (iterated : loop.Iterated times.toNat session) :
      Ends loop ⟨session, times.toNat, false, .empty, none⟩
  | refused {condition : Condition} {count : Nat} {session : Session device} {notes : StepNotes}
      (iterated : loop.Iterated count session) (answers : loop.Answers session condition false) :
      Ends loop ⟨session, count, false, notes, none⟩
  | limited {condition : Condition} {session : Session device} {notes : StepNotes}
      (iterated : loop.Iterated loop.rule.limit.toNat session)
      (answers : loop.Answers session condition true) :
      Ends loop ⟨session.warn ⟨loop.header.id, loop.rule.limit⟩, loop.rule.limit.toNat, true, notes,
        none⟩
  | stopped {abort : Abort} {count : Nat} {session : Session device} {notes : StepNotes}
      (iterated : loop.Iterated count session)
      (stops : session.context.checkpoint (some loop.header.id) = some abort) :
      Ends loop ⟨session, count, false, notes, some (.aborted abort)⟩
  | halted {reason : Halt} {count : Nat} {session after : Session device} {notes : StepNotes}
      (iterated : loop.Iterated count session) (isLeft : count < iterationsAllowed loop.rule)
      (goesOn : loop.GoesOn session)
      (halts : loop.iteration (count + 1) session = (after, some reason)) :
      Ends loop ⟨after, count + 1, false, notes, some reason⟩

/-! ### Numbers of iterations -/

variable {loop : LoopStart place start}

theorem allowedCount {times : UInt32} (isMode : loop.rule.mode = .count times) :
    iterationsAllowed loop.rule = times.toNat := by
  rw [iterationsAllowed, isMode]

theorem allowedWhile {condition : Condition} (isMode : loop.rule.mode = .while_ condition) :
    iterationsAllowed loop.rule = loop.rule.limit.toNat := by
  rw [iterationsAllowed, isMode]

theorem Iterated.bounded {count : Nat} {session : Session device}
    (iterated : loop.Iterated count session) : count ≤ iterationsAllowed loop.rule := by
  cases iterated with
  | zero => exact Nat.zero_le _
  | next earlier isLeft => exact isLeft

/-- After as many iterations a loop is where it is after them in any other account of it. -/
theorem Iterated.unique {count : Nat} {one other : Session device}
    (first : loop.Iterated count one) (second : loop.Iterated count other) : one = other := by
  induction first generalizing other with
  | zero =>
      cases second
      rfl
  | next earlier isLeft goesOn executes inductionHypothesis =>
      cases second with
      | next others _ _ otherExecutes =>
          rw [inductionHypothesis others, otherExecutes] at executes
          exact (Prod.mk.inj executes).1.symm

/-- Wherever a loop was before one of its iterations it went on. -/
theorem Iterated.wentOn {count later : Nat} {session after : Session device}
    (iterated : loop.Iterated later after) (less : count < later)
    (reached : loop.Iterated count session) : loop.GoesOn session := by
  induction iterated with
  | zero => exact absurd less (Nat.not_lt_zero _)
  | next earlier isLeft goesOn executes inductionHypothesis =>
      obtain before | now := Nat.lt_or_eq_of_le (Nat.le_of_lt_succ less)
      · exact inductionHypothesis before
      · subst now
        rw [reached.unique earlier]
        exact goesOn

/-! ### Every loop ends -/

theorem countUpEnds {times : UInt32} (isMode : loop.rule.mode = .count times) (left count : Nat)
    (session : Session device) (iterated : loop.Iterated count session)
    (all : count + left = times.toNat) :
    loop.Ends (countUp loop.header.id loop.rule (runAll place (loop.depth + 1) loop.body) left count
      session) := by
  induction left generalizing count session with
  | zero =>
      rw [Nat.add_zero] at all
      rw [countUp]
      subst all
      exact .counted isMode iterated
  | succ left inductionHypothesis =>
      have isLeft : count < iterationsAllowed loop.rule := by
        rw [allowedCount isMode]
        omega
      rw [countUp]
      cases executes : iterate loop.header.id loop.rule (runAll place (loop.depth + 1) loop.body)
        (count + 1) session with
      | mk after halt =>
          cases halt with
          | some reason => exact .halted iterated isLeft (.counts isMode) executes
          | none =>
              exact inductionHypothesis (count + 1) after
                (.next iterated isLeft (.counts isMode) executes) (by omega)

theorem repeatWhileEnds {condition : Condition} (isMode : loop.rule.mode = .while_ condition)
    (left count : Nat) (notes : StepNotes) (session : Session device)
    (iterated : loop.Iterated count session) (all : count + left = loop.rule.limit.toNat) :
    loop.Ends (repeatWhile loop.header.id loop.rule condition
      (runAll place (loop.depth + 1) loop.body) left count notes session) := by
  induction left generalizing count notes session with
  | zero =>
      rw [Nat.add_zero] at all
      subst all
      rw [repeatWhile]
      cases checked : session.context.checkpoint (some loop.header.id) with
      | some abort => exact .stopped iterated checked
      | none =>
          cases decided : (condition.evaluate session.bindings).result with
          | false =>
              simp only [decided, Bool.not_false, if_true]
              exact .refused iterated ⟨isMode, checked, decided⟩
          | true =>
              simp only [decided, Bool.not_true, Bool.false_eq_true, if_false]
              exact .limited iterated ⟨isMode, checked, decided⟩
  | succ left inductionHypothesis =>
      have isLeft : count < iterationsAllowed loop.rule := by
        rw [allowedWhile isMode]
        omega
      rw [repeatWhile]
      cases checked : session.context.checkpoint (some loop.header.id) with
      | some abort => exact .stopped iterated checked
      | none =>
          cases decided : (condition.evaluate session.bindings).result with
          | false =>
              simp only [decided, Bool.not_false, if_true]
              exact .refused iterated ⟨isMode, checked, decided⟩
          | true =>
              have goesOn : loop.GoesOn session := .holds ⟨isMode, checked, decided⟩
              simp only [decided, Bool.not_true, Bool.false_eq_true, if_false]
              cases executes : iterate loop.header.id loop.rule
                (runAll place (loop.depth + 1) loop.body) (count + 1) session with
              | mk after halt =>
                  cases halt with
                  | some reason => exact .halted iterated isLeft goesOn executes
                  | none =>
                      exact inductionHypothesis (count + 1) _ after
                        (.next iterated isLeft goesOn executes) (by omega)

def run (loop : LoopStart place start) : LoopRun device :=
  runLoop loop.header.id loop.rule (runAll place (loop.depth + 1) loop.body) loop.opening

theorem ends (loop : LoopStart place start) : loop.Ends loop.run := by
  rw [run, runLoop]
  cases isMode : loop.rule.mode with
  | count times => exact countUpEnds isMode times.toNat 0 loop.opening .zero (Nat.zero_add _)
  | while_ condition =>
      exact repeatWhileEnds isMode loop.rule.limit.toNat 0 .empty loop.opening .zero
        (Nat.zero_add _)

/-! ### Iterations are parts of the run -/

/-- In an iteration the index variable has its number. -/
def bound (loop : LoopStart place start) (number : Nat) (session : Session device) :
    Session device :=
  match loop.rule.indexVariable with
  | some index => session.bind index (toString number)
  | none => session

theorem iterationPassed {session : Session device}
    (passed : session.context.checkpoint (some loop.header.id) = none) (number : Nat) :
    loop.iteration number session =
      runAll place (loop.depth + 1) loop.body (loop.bound number session) := by
  rw [iteration, iterate, Session.checkpoint, passed, bound]
  cases loop.rule.indexVariable <;> rfl

theorem iterationStopped {session : Session device} {abort : Abort}
    (stops : session.context.checkpoint (some loop.header.id) = some abort) (number : Nat) :
    loop.iteration number session = .halt session (.aborted abort) := by
  rw [iteration, iterate, Session.checkpoint, stops]
  rfl

def tasksAfter (loop : LoopStart place start) : List Task :=
  .check loop.header.id :: .steps loop.depth loop.rest :: loop.tasks

def opened (loop : LoopStart place start) (left count : Nat) (notes : StepNotes) : OpenLoop :=
  ⟨loop.header, loop.rule, loop.body, loop.depth, loop.session.time place, left, count, notes⟩

theorem begun (loop : LoopStart place start) :
    Leads place start ⟨loop.opening, none,
      .loop (loop.opened (iterationsAllowed loop.rule) 0 .empty) :: loop.tasksAfter⟩ := by
  have enabled : (Step.loop loop.header loop.rule loop.body).header.enabled = true :=
    loop.begins.enabled
  refine loop.leads.tail ?_
  simp only [Moment.atStep, Moment.next, Task.perform, Moment.checkpoint, loop.begins.passed, begin,
    if_neg (Nat.not_le.mpr loop.begins.fits), enabled, Bool.not_true, Bool.false_eq_true, if_false]
  rfl

/-- Where a loop goes on it comes to its next iteration. -/
theorem GoesOn.next {session : Session device} (goesOn : loop.GoesOn session) (left count : Nat)
    (notes : StepNotes) :
    ∃ noted, (Moment.mk session none
        (.loop (loop.opened (left + 1) count notes) :: loop.tasksAfter)).next place =
      ((loop.opened (left + 1) count noted).iterate left session).andThen loop.tasksAfter := by
  rw [Moment.next, Task.perform, OpenLoop.turn]
  cases goesOn with
  | counts isMode =>
      refine ⟨notes, ?_⟩
      simp only [opened, isMode]
  | @holds condition answers =>
      refine ⟨((loop.opened (left + 1) count notes).noteCondition
        (condition.evaluate session.bindings)).notes, ?_⟩
      simp only [opened, answers.repeats, Moment.checkpoint, answers.passed, answers.decided,
        Bool.not_true, Bool.false_eq_true, if_false]
      rfl

/-- Between its iterations a loop is at moments of the run. -/
theorem Iterated.leads {count : Nat} {session : Session device}
    (iterated : loop.Iterated count session) :
    ∃ left notes, count + left = iterationsAllowed loop.rule ∧
      Leads place start
        ⟨session, none, .loop (loop.opened left count notes) :: loop.tasksAfter⟩ := by
  induction iterated with
  | zero => exact ⟨iterationsAllowed loop.rule, .empty, Nat.zero_add _, loop.begun⟩
  | @next count before after earlier isLeft goesOn executes inductionHypothesis =>
      obtain ⟨left, notes, all, leads⟩ := inductionHypothesis
      obtain ⟨left, rfl⟩ : ∃ less, left = less + 1 := ⟨left - 1, by omega⟩
      obtain ⟨noted, next⟩ := goesOn.next left count notes
      have iterates := iterateLeads (loop.opened (left + 1) count noted)
        (runAllLeads place (loop.depth + 1) loop.body) left before loop.tasksAfter
      have flow : iterate (loop.opened (left + 1) count noted).header.id
          (loop.opened (left + 1) count noted).rule (runAll place (loop.depth + 1) loop.body)
          (count + 1) before = (after, none) := executes
      refine ⟨left, noted, by omega, (leads.tail next).trans ?_⟩
      simp only [opened] at iterates flow ⊢
      rw [flow] at iterates
      exact iterates

/-- An iteration that begins runs the steps in the loop from a moment of the run on. -/
theorem bodyLeads {count : Nat} {session : Session device} (iterated : loop.Iterated count session)
    (isLeft : count < iterationsAllowed loop.rule) (goesOn : loop.GoesOn session)
    (passed : session.context.checkpoint (some loop.header.id) = none) :
    ∃ tasks, Leads place start
      ⟨loop.bound (count + 1) session, none, .steps (loop.depth + 1) loop.body :: tasks⟩ := by
  obtain ⟨left, notes, all, leads⟩ := iterated.leads
  obtain ⟨left, rfl⟩ : ∃ less, left = less + 1 := ⟨left - 1, by omega⟩
  obtain ⟨noted, next⟩ := goesOn.next left count notes
  refine ⟨.loop (loop.opened left (count + 1) noted) :: loop.tasksAfter, leads.tail ?_⟩
  rw [next, OpenLoop.iterate, Moment.checkpoint]
  simp only [opened, passed]
  rfl

end LoopStart

end Interpreter

end DeskScript
