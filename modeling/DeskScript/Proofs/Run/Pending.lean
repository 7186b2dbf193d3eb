/-
This file says when input is pending in a run that has to stop: an input action follows without a
checkpoint before it.
-/

import DeskScript.Proofs.Run.Stopping

namespace DeskScript

variable {device : Type} {place : Workplace device}

namespace Interpreter

/-! ### Pending input -/

/-- The next attempt at a step begins with an input action. -/
def OpenLeaf.beginsWithInput (leaf : OpenLeaf) (session : Session device) : Bool :=
  (Leaf.prepare leaf.header.id session leaf.action).2.isPress

namespace Instant

/-- An input action follows without a checkpoint before it. -/
def pending : Instant device → Bool
  | .between _ => false
  | .within session leaf _ =>
      match leaf.phase with
      | .press .. => true
      | .begin => leaf.beginsWithInput session
      | .tried _ (.failed failure) =>
          leaf.left ≠ 0 && failure.isRecoverable && leaf.beginsWithInput session
      | _ => false

/-- An attempt that begins without an input action fails or waits. -/
theorem pendingPrepared (leaf : OpenLeaf) (session : Session device) (tasks : List Task) :
    (leaf.enter tasks (Leaf.prepare leaf.header.id session leaf.action)).pending =
      leaf.beginsWithInput session := by
  have prepared := Leaf.actionPrepared leaf.header.id session leaf.action
  rw [OpenLeaf.beginsWithInput]
  obtain ⟨header, action, depth, startedAt, left, number, phase⟩ := leaf
  generalize isReached : Leaf.prepare header.id session action = reached at prepared
  obtain ⟨after, next⟩ := reached
  cases next with
  | begin => cases prepared.follows
  | tried notes ending =>
      cases ending with
      | failed failure =>
          have same : after = session := prepared.failed rfl
          have idle : (Leaf.prepare header.id after action).2.isPress = false := by
            rw [same, isReached]
            rfl
          change (left ≠ 0 && failure.isRecoverable &&
            (Leaf.prepare header.id after action).2.isPress) = false
          rw [idle, Bool.and_false]
      | _ => rfl
  | _ => rfl

theorem pendingTryAgain (leaf : OpenLeaf) (session : Session device) (tasks : List Task)
    (notes : StepNotes) (failure : StepFailure) :
    (leaf.tryAgain place session tasks notes failure).pending =
      (leaf.left ≠ 0 && failure.isRecoverable && leaf.beginsWithInput session) := by
  rw [OpenLeaf.tryAgain]
  cases leaf.left with
  | zero => rfl
  | succ left =>
      cases failure.isRecoverable with
      | true => rfl
      | false => rfl

theorem pendingWaiting {session : Session device} {leaf : OpenLeaf} {tasks : List Task}
    (waiting : leaf.phase.isWaiting = true) : (within session leaf tasks).pending = false := by
  obtain ⟨header, action, depth, startedAt, left, number, phase⟩ := leaf
  cases phase with
  | wait duration => rfl
  | look search => rfl
  | pause search duration => rfl
  | _ => cases waiting

/-- A step that was aborted is not tried again. -/
theorem pendingAborted {session : Session device} {leaf : OpenLeaf} {tasks : List Task}
    {notes : StepNotes} {abort : Abort}
    (isTried : leaf.phase = .tried notes (.failed (.aborted abort))) :
    (within session leaf tasks).pending = false := by
  rw [pending, isTried]
  change (leaf.left ≠ 0 && false && _) = false
  rw [Bool.and_false, Bool.false_and]

/-- Input that is pending is injected now or at a later instant. -/
theorem pendingNext (place : Workplace device) {instant : Instant device}
    (stopped : instant.Stopped) :
    instant.pending = (instant.isPress || (instant.next place).pending) := by
  cases instant with
  | between moment =>
      rw [nextBetween stopped]
      rfl
  | within session leaf tasks =>
      cases isWaiting : leaf.phase.isWaiting with
      | true =>
          have stops : session.context.Stopped := stopped
          have aborted := Leaf.advanceAborted place stops leaf.header.id leaf.action isWaiting
          obtain ⟨notes, abort, isTried⟩ := aborted.ends
          have later : ((within session leaf tasks).next place).pending = false := by
            rw [next, OpenLeaf.nextAdvance session tasks (Leaf.Phase.isOverWaiting isWaiting)]
            exact pendingAborted isTried
          rw [later, pendingWaiting isWaiting, Bool.or_false]
          exact (Leaf.Phase.isPressWaiting isWaiting).symm
      | false =>
          obtain ⟨header, action, depth, startedAt, left, number, phase⟩ := leaf
          cases phase with
          | begin => exact (pendingPrepared _ session tasks).symm
          | press notes input => rfl
          | tried notes ending =>
              cases ending with
              | failed failure =>
                  cases failure with
                  | aborted abort =>
                      refine Eq.trans ?_ (Eq.refl false)
                      exact pendingAborted rfl
                  | _ => exact (pendingTryAgain _ session tasks notes _).symm
              | _ => rfl
          | rest => rfl
          | _ => cases isWaiting

/-- Of the calls from an instant on one injects input exactly if input is pending at the instant. -/
theorem pendingAlong {first : Instant device} {after : Session device} {halt : Option Halt}
    (passes : Passes place first (.between ⟨after, halt, []⟩)) (stopped : first.Stopped) :
    ∃ records, after.calls.toList = first.session.calls.toList ++ records ∧
      ((∃ record ∈ records, record.injects = true) ↔ first.pending = true) := by
  induction passes using Relation.ReflTransGen.head_induction_on with
  | refl => exact ⟨[], (List.append_nil _).symm, nofun, nofun⟩
  | @head first second next passes inductionHypothesis =>
      obtain ⟨records, entries, winds, injects⟩ := windsDownNext place stopped
      rw [next] at winds
      obtain ⟨others, calls, further⟩ := inductionHypothesis (winds.later.stopped stopped)
      refine ⟨records ++ others, by rw [calls, winds.calls, List.append_assoc], ?_⟩
      rw [pendingNext place stopped, next, Bool.or_eq_true, ← injects, ← further]
      constructor
      · rintro ⟨record, member, isInput⟩
        exact (List.mem_append.mp member).imp (fun early => ⟨record, early, isInput⟩)
          fun late => ⟨record, late, isInput⟩
      · rintro (⟨record, member, isInput⟩ | ⟨record, member, isInput⟩)
        · exact ⟨record, List.mem_append_left _ member, isInput⟩
        · exact ⟨record, List.mem_append_right _ member, isInput⟩

end Instant

end Interpreter

end DeskScript
