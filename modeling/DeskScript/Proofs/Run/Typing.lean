/-
This file shows what is typed when a step that types a text is executed. The text has its
placeholders replaced in every attempt, and the names without a value are reported.
-/

import DeskScript.Proofs.Placeholder
import DeskScript.Proofs.Run.Phases
import DeskScript.Proofs.Run.Retries

namespace DeskScript

variable {device : Type} {place : Workplace device}

theorem StepNotes.resolveUnresolved (bindings : Bindings) (template : String) :
    (StepNotes.empty.resolve bindings template).2.unresolved =
      (Template.resolve template bindings).unresolved :=
  Template.addNamesNew (Template.unresolvedDistinct template bindings)

/-! ### Attempts -/

namespace Leaf

/-- These calls were made, and all of them typed the same text. -/
structure Typed (text : String) (interval : Nat) (before after : Session device) : Prop where
  bindings : after.bindings = before.bindings
  calls : ∃ typed : List CallRecord, typed ≠ [] ∧
    after.calls.toList = before.calls.toList ++ typed ∧
    ∀ record ∈ typed, record.call = .input (.type text interval)

theorem Typed.trans {text : String} {interval : Nat} {before middle after : Session device}
    (first : Typed text interval before middle) (second : Typed text interval middle after) :
    Typed text interval before after := by
  obtain ⟨typed, written, calls, same⟩ := first.calls
  obtain ⟨further, -, others, sameOthers⟩ := second.calls
  refine ⟨second.bindings.trans first.bindings, typed ++ further, ?_, ?_, ?_⟩
  · simp [written]
  · rw [others, calls, List.append_assoc]
  · intro record inside
    rcases List.mem_append.mp inside with early | late
    · exact same record early
    · exact sameOthers record late

theorem actTyped (place : Workplace device) (stepId : String) (session : Session device)
    (text : String) (interval : UInt64) :
    Typed (Template.resolve text session.bindings).value interval.toNat session
        (act place stepId session (.type text interval)).session ∧
      (act place stepId session (.type text interval)).notes.unresolved =
        (Template.resolve text session.bindings).unresolved := by
  have proceeds : Session.Proceeds session (session.input place
      (.type (Template.resolve text session.bindings).value interval.toNat)).1 _ :=
    session.inputProceeds _
  constructor
  · show Typed _ _ _ (input place session _ _).session
    rw [inputSession]
    exact ⟨rfl, _, List.cons_ne_nil _ _, proceeds.calls, by simp⟩
  · show (input place session _ _).notes.unresolved = _
    rw [inputNotes]
    exact StepNotes.resolveUnresolved session.bindings text

/-- Every attempt at typing finds the variables as the first one did. -/
theorem furtherAttemptTyped (place : Workplace device) (stepId : String) (text : String)
    (interval : UInt64) (later : Nat) (session : Session device) :
    Typed (Template.resolve text session.bindings).value interval.toNat session
        (furtherAttempt place stepId (.type text interval) later session).session ∧
      (furtherAttempt place stepId (.type text interval) later session).notes.unresolved =
        (Template.resolve text session.bindings).unresolved := by
  induction later generalizing session with
  | zero => exact actTyped place stepId session text interval
  | succ later inductionHypothesis =>
      have first := (actTyped place stepId session text interval).1
      obtain ⟨further, unresolved⟩ :=
        inductionHypothesis (act place stepId session (.type text interval)).session
      rw [first.bindings] at further unresolved
      exact ⟨first.trans further, unresolved⟩

end Leaf

/-! ### Executions -/

namespace Interpreter

/--
When a step was executed, some text has been typed in every attempt and nothing else was called. The
step has been recorded with the names that were not bound, unless a device broke down.
-/
structure TypedAs (resolution : Resolution) (interval : Nat) (stepId : String)
    (before : Session device) (after : Moment device) : Prop where
  typed : Leaf.Typed resolution.value interval before after.session
  recorded : after.halt ≠ some .brokeDown → ∃ entry : TraceEntry,
    after.session.trace = before.trace.push entry ∧ entry.stepId = stepId ∧
      entry.unresolved = resolution.unresolved

/-- A step that types a text types it with the placeholders replaced, in every attempt. -/
theorem attemptTyped (place : Workplace device) (session : Session device) (depth : Nat)
    (header : StepHeader) (text : String) (interval : UInt64) (startedAt : Time.Timestamp)
    (tasks : List Task) :
    TypedAs (Template.resolve text session.bindings) interval.toNat header.id session
      (.ofFlow (Leaf.attempt place (.leaf header (.type text interval)) (.type text interval) depth
        startedAt (Leaf.furtherAttempts header) 1
        (startStep depth (.leaf header (.type text interval)) session)) tasks) := by
  obtain ⟨last, -, -, -, concluded⟩ := Leaf.attemptConcludes place
    (.leaf header (.type text interval)) (.type text interval) depth startedAt
    (Leaf.furtherAttempts header) 1 (startStep depth (.leaf header (.type text interval)) session)
  rw [concluded]
  obtain ⟨typed, unresolved⟩ := Leaf.furtherAttemptTyped place
    (Step.leaf header (.type text interval)).id text interval last
    (startStep depth (.leaf header (.type text interval)) session)
  have quiet := Leaf.furtherAttemptQuiet place (Step.leaf header (.type text interval)).id
    (.type text interval) last (startStep depth (.leaf header (.type text interval)) session)
  generalize Leaf.furtherAttempt place _ _ last _ = run at typed unresolved quiet ⊢
  obtain ⟨context, trace, events, concludes, -⟩ := Leaf.concludeFrame place
    (.leaf header (.type text interval)) depth startedAt run (1 + last)
  refine ⟨?_, fun works => ?_⟩
  · rw [Moment.ofFlow, concludes]
    exact ⟨typed.bindings, typed.calls⟩
  · obtain ⟨outcome, error, context, -, -, recorded⟩ :=
      Leaf.concludeRecords place (.leaf header (.type text interval)) depth startedAt run _ works
    refine ⟨run.session.entry place (.leaf header (.type text interval)) depth outcome run.notes
      error (UInt32.ofNat (1 + last)) startedAt, ?_, rfl, unresolved⟩
    rw [Moment.ofFlow, recorded]
    show run.session.trace.push _ = _
    rw [quiet.trace]
    rfl

end Interpreter

/-- Whenever a run of a script executes a step with a header, it types what a text resolves to. -/
def Script.Types (script : Script) (header : StepHeader) (text : String) (interval : UInt64)
    (resolution : Bindings → Resolution) : Prop :=
  ∀ (device : Type) (place : Workplace device) (context : RunContext) (bindings : Bindings)
    (state : device)
    (leaf : Interpreter.LeafRun place (.start script (Session.start context bindings state))),
    leaf.header = header → leaf.action = .type text interval →
      Interpreter.TypedAs (resolution leaf.session.bindings) interval.toNat header.id leaf.session
        (leaf.before.next place)

theorem Script.typesResolved (script : Script) (header : StepHeader) (text : String)
    (interval : UInt64) : script.Types header text interval (Template.resolve text) := by
  intro device place context bindings state leaf isHeader isAction
  have next := leaf.isNext
  rw [isHeader, isAction] at next
  rw [next]
  exact Interpreter.attemptTyped place leaf.session leaf.depth header text interval _ _

end DeskScript
