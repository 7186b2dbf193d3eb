/-
This file says how often the steps of a script ought to be found in a trace.
-/

import DeskScript.Proofs.Step.Forest
import DeskScript.Run.Trace
import Mathlib.Algebra.GroupWithZero.Nat

namespace DeskScript

/-! ### Entries of a step -/

/-- These are the entries of a trace that belong to the step with an identity. -/
def entriesOf (id : String) (trace : List TraceEntry) : List TraceEntry :=
  trace.filter fun entry => entry.stepId = id

def entryCount (id : String) (trace : List TraceEntry) : Nat :=
  (entriesOf id trace).length

/-- A branching step has an entry for every time that it was run, with the way that it took. -/
def takenCount (id : String) (taken : BranchTaken) (trace : List TraceEntry) : Nat :=
  ((entriesOf id trace).filter fun entry => entry.outcome = .branch taken).length

/-- The attempts of a loop are the iterations that were begun. -/
def iterationsBegun (id : String) (trace : List TraceEntry) : Nat :=
  ((entriesOf id trace).map fun entry => entry.attempts.toNat).sum

theorem entriesOfAppend (id : String) (first second : List TraceEntry) :
    entriesOf id (first ++ second) = entriesOf id first ++ entriesOf id second :=
  List.filter_append first second

theorem entryCountAppend (id : String) (first second : List TraceEntry) :
    entryCount id (first ++ second) = entryCount id first + entryCount id second := by
  rw [entryCount, entriesOfAppend, List.length_append]
  rfl

theorem takenCountAppend (id : String) (taken : BranchTaken) (first second : List TraceEntry) :
    takenCount id taken (first ++ second) =
      takenCount id taken first + takenCount id taken second := by
  rw [takenCount, entriesOfAppend, List.filter_append, List.length_append]
  rfl

theorem iterationsBegunAppend (id : String) (first second : List TraceEntry) :
    iterationsBegun id (first ++ second) = iterationsBegun id first + iterationsBegun id second := by
  rw [iterationsBegun, entriesOfAppend, List.map_append, List.sum_append]
  rfl

/-- A trace is foreign to an identity when it has no entry of the step with it. -/
theorem entriesOfForeign (id : String) (trace : List TraceEntry)
    (foreign : ∀ entry ∈ trace, entry.stepId ≠ id) : entriesOf id trace = [] := by
  rw [entriesOf, List.filter_eq_nil_iff]
  intro entry inside
  simpa using foreign entry inside

theorem entryCountForeign (id : String) (trace : List TraceEntry)
    (foreign : ∀ entry ∈ trace, entry.stepId ≠ id) : entryCount id trace = 0 := by
  rw [entryCount, entriesOfForeign id trace foreign]
  rfl

theorem takenCountForeign (id : String) (taken : BranchTaken) (trace : List TraceEntry)
    (foreign : ∀ entry ∈ trace, entry.stepId ≠ id) : takenCount id taken trace = 0 := by
  rw [takenCount, entriesOfForeign id trace foreign]
  rfl

theorem iterationsBegunForeign (id : String) (trace : List TraceEntry)
    (foreign : ∀ entry ∈ trace, entry.stepId ≠ id) : iterationsBegun id trace = 0 := by
  rw [iterationsBegun, entriesOfForeign id trace foreign]
  rfl

theorem entriesOfOwn (entry : TraceEntry) : entriesOf entry.stepId [entry] = [entry] := by
  simp [entriesOf]

/-! ### Counts -/

/-- A count never exceeds its bound, and reaches it where everything was completed. -/
def Within (completed : Prop) (count bound : Nat) : Prop :=
  count ≤ bound ∧ (completed → count = bound)

namespace Within

variable {completed : Prop}

theorem refl (count : Nat) : Within completed count count := ⟨Nat.le_refl count, fun _ => rfl⟩

theorem add {count bound other otherBound : Nat} (first : Within completed count bound)
    (second : Within completed other otherBound) :
    Within completed (count + other) (bound + otherBound) :=
  ⟨Nat.add_le_add first.1 second.1, fun all => by rw [first.2 all, second.2 all]⟩

theorem weaken {less : Prop} {count bound : Nat} (within : Within completed count bound)
    (implies : less → completed) : Within less count bound :=
  ⟨within.1, fun all => within.2 (implies all)⟩

end Within

/-- The outcome of a loop that was completed agrees with the rule of the loop. -/
def LoopRule.Allows (rule : LoopRule) : StepOutcome → Prop
  | .loop iterations limited =>
      match rule.mode with
      | .count times => iterations = times ∧ limited = false
      | .while_ _ => iterations ≤ rule.limit ∧ (limited = true → iterations = rule.limit)
  | _ => False

/--
A list of steps was run a number of times. Every step in a branch was run as often as the branch was
taken, and every step in a loop as often as an iteration of the loop was begun. Where the run was
not completed the steps may have been run less often.
-/
structure ExecutionCounts (completed : Prop) (times : Nat) (trace : List TraceEntry)
    (steps : List Step) : Prop where
  top : ∀ step ∈ steps, Within completed (entryCount step.id trace) times
  whenTrue : ∀ header condition whenTrue whenFalse,
    .branch header condition whenTrue whenFalse ∈ Step.forest steps → ∀ child ∈ whenTrue,
      Within completed (entryCount child.id trace) (takenCount header.id .whenTrue trace)
  whenFalse : ∀ header condition whenTrue whenFalse,
    .branch header condition whenTrue whenFalse ∈ Step.forest steps → ∀ child ∈ whenFalse,
      Within completed (entryCount child.id trace) (takenCount header.id .whenFalse trace)
  body : ∀ header rule body, .loop header rule body ∈ Step.forest steps → ∀ child ∈ body,
    Within completed (entryCount child.id trace) (iterationsBegun header.id trace)
  loops : completed → ∀ header rule body, .loop header rule body ∈ Step.forest steps →
    ∀ entry ∈ trace, entry.stepId = header.id → entry.outcome ≠ .skip → rule.Allows entry.outcome

namespace ExecutionCounts

variable {completed : Prop} {times : Nat} {trace : List TraceEntry} {steps : List Step}

/-- Of a run that was completed less may be claimed. -/
theorem weaken {less : Prop} (counts : ExecutionCounts completed times trace steps)
    (implies : less → completed) : ExecutionCounts less times trace steps where
  top step inside := (counts.top step inside).weaken implies
  whenTrue header condition whenTrue whenFalse inside child below :=
    (counts.whenTrue header condition whenTrue whenFalse inside child below).weaken implies
  whenFalse header condition whenTrue whenFalse inside child below :=
    (counts.whenFalse header condition whenTrue whenFalse inside child below).weaken implies
  body header rule body inside child below :=
    (counts.body header rule body inside child below).weaken implies
  loops all := counts.loops (implies all)

/-- Where the run was not completed, the steps may have been run more often for all we know. -/
theorem relax (counts : ExecutionCounts completed times trace steps) (incomplete : ¬completed)
    (more : Nat) (bound : times ≤ more) : ExecutionCounts completed more trace steps :=
  { counts with
    top := fun step inside =>
      ⟨Nat.le_trans (counts.top step inside).1 bound, fun all => absurd all incomplete⟩ }

/-- The counts of two parts of a run add up. -/
theorem append {more : Nat} {further : List TraceEntry}
    (first : ExecutionCounts completed times trace steps)
    (second : ExecutionCounts completed more further steps) :
    ExecutionCounts completed (times + more) (trace ++ further) steps where
  top step inside := by
    rw [entryCountAppend]
    exact (first.top step inside).add (second.top step inside)
  whenTrue header condition whenTrue whenFalse inside child below := by
    rw [entryCountAppend, takenCountAppend]
    exact (first.whenTrue header condition whenTrue whenFalse inside child below).add
      (second.whenTrue header condition whenTrue whenFalse inside child below)
  whenFalse header condition whenTrue whenFalse inside child below := by
    rw [entryCountAppend, takenCountAppend]
    exact (first.whenFalse header condition whenTrue whenFalse inside child below).add
      (second.whenFalse header condition whenTrue whenFalse inside child below)
  body header rule body inside child below := by
    rw [entryCountAppend, iterationsBegunAppend]
    exact (first.body header rule body inside child below).add
      (second.body header rule body inside child below)
  loops all header rule body inside entry member := by
    rcases List.mem_append.mp member with early | late
    · exact first.loops all header rule body inside entry early
    · exact second.loops all header rule body inside entry late

/-- Entries of other steps do not count. -/
theorem foreign (other : ∀ entry ∈ trace, entry.stepId ∉ Step.forestIds steps) :
    ExecutionCounts completed 0 trace steps := by
  have none : ∀ step ∈ Step.forest steps, ∀ entry ∈ trace, entry.stepId ≠ step.id :=
    fun step inside entry member same =>
      other entry member (same ▸ List.mem_map_of_mem inside)
  constructor
  · intro step inside
    rw [entryCountForeign _ _ (none step (Step.ofMemForest steps step inside))]
    exact Within.refl 0
  · intro header condition whenTrue whenFalse inside child below
    have childInside := Step.childrenOfForest steps _ child inside (List.mem_append_left _ below)
    rw [entryCountForeign _ _ (none child childInside), takenCountForeign header.id _ _ (none _ inside)]
    exact Within.refl 0
  · intro header condition whenTrue whenFalse inside child below
    have childInside := Step.childrenOfForest steps _ child inside (List.mem_append_right _ below)
    rw [entryCountForeign _ _ (none child childInside), takenCountForeign header.id _ _ (none _ inside)]
    exact Within.refl 0
  · intro header rule body inside child below
    have childInside := Step.childrenOfForest steps _ child inside below
    rw [entryCountForeign _ _ (none child childInside), iterationsBegunForeign header.id _ (none _ inside)]
    exact Within.refl 0
  · intro all header rule body inside entry member same
    exact absurd same (none _ inside entry member)

theorem nothing (halted : ¬completed) : ExecutionCounts completed times [] steps :=
  (foreign fun _ inside => absurd inside List.not_mem_nil).relax halted times (Nat.zero_le times)

theorem cons (step : Step) (first : ExecutionCounts completed times trace [step])
    (others : ExecutionCounts completed times trace steps) :
    ExecutionCounts completed times trace (step :: steps) where
  top other inside := by
    rcases List.mem_cons.mp inside with same | old
    · exact first.top other (List.mem_singleton.mpr same)
    · exact others.top other old
  whenTrue header condition whenTrue whenFalse inside := by
    rw [Step.forestCons, List.mem_append] at inside
    exact inside.elim (first.whenTrue header condition whenTrue whenFalse)
      (others.whenTrue header condition whenTrue whenFalse)
  whenFalse header condition whenTrue whenFalse inside := by
    rw [Step.forestCons, List.mem_append] at inside
    exact inside.elim (first.whenFalse header condition whenTrue whenFalse)
      (others.whenFalse header condition whenTrue whenFalse)
  body header rule body inside := by
    rw [Step.forestCons, List.mem_append] at inside
    exact inside.elim (first.body header rule body) (others.body header rule body)
  loops all header rule body inside := by
    rw [Step.forestCons, List.mem_append] at inside
    exact inside.elim (first.loops all header rule body) (others.loops all header rule body)

theorem ofLeaf (header : StepHeader) (action : Action)
    (own : Within completed (entryCount header.id trace) times) :
    ExecutionCounts completed times trace [.leaf header action] where
  top step inside := by
    rw [List.mem_singleton.mp inside]
    exact own
  whenTrue _ _ _ _ inside := by cases List.mem_singleton.mp inside
  whenFalse _ _ _ _ inside := by cases List.mem_singleton.mp inside
  body _ _ _ inside := by cases List.mem_singleton.mp inside
  loops _ _ _ _ inside := by cases List.mem_singleton.mp inside

/-- The steps in a branching step are counted by the ways that it took. -/
theorem ofBranch (header : StepHeader) (condition : Condition) (whenTrue whenFalse : List Step)
    (own : Within completed (entryCount header.id trace) times)
    (ofTrue : ExecutionCounts completed (takenCount header.id .whenTrue trace) trace whenTrue)
    (ofFalse : ExecutionCounts completed (takenCount header.id .whenFalse trace) trace whenFalse) :
    ExecutionCounts completed times trace [.branch header condition whenTrue whenFalse] where
  top step inside := by
    rw [List.mem_singleton.mp inside]
    exact own
  whenTrue header condition whenTrue whenFalse inside := by
    rw [Step.forestBranch, List.mem_cons, List.mem_append] at inside
    rcases inside with same | inTrue | inFalse
    · cases same
      exact ofTrue.top
    · exact ofTrue.whenTrue header condition whenTrue whenFalse inTrue
    · exact ofFalse.whenTrue header condition whenTrue whenFalse inFalse
  whenFalse header condition whenTrue whenFalse inside := by
    rw [Step.forestBranch, List.mem_cons, List.mem_append] at inside
    rcases inside with same | inTrue | inFalse
    · cases same
      exact ofFalse.top
    · exact ofTrue.whenFalse header condition whenTrue whenFalse inTrue
    · exact ofFalse.whenFalse header condition whenTrue whenFalse inFalse
  body header rule body inside := by
    rw [Step.forestBranch, List.mem_cons, List.mem_append] at inside
    rcases inside with same | inTrue | inFalse
    · cases same
    · exact ofTrue.body header rule body inTrue
    · exact ofFalse.body header rule body inFalse
  loops all header rule body inside := by
    rw [Step.forestBranch, List.mem_cons, List.mem_append] at inside
    rcases inside with same | inTrue | inFalse
    · cases same
    · exact ofTrue.loops all header rule body inTrue
    · exact ofFalse.loops all header rule body inFalse

/-- The steps in a loop are counted by the iterations of the loop. -/
theorem ofLoop (header : StepHeader) (rule : LoopRule) (body : List Step)
    (own : Within completed (entryCount header.id trace) times)
    (ofBody : ExecutionCounts completed (iterationsBegun header.id trace) trace body)
    (sound : completed → ∀ entry ∈ trace, entry.stepId = header.id → entry.outcome ≠ .skip →
      rule.Allows entry.outcome) :
    ExecutionCounts completed times trace [.loop header rule body] where
  top step inside := by
    rw [List.mem_singleton.mp inside]
    exact own
  whenTrue header condition whenTrue whenFalse inside := by
    rw [Step.forestLoop, List.mem_cons] at inside
    rcases inside with same | inBody
    · cases same
    · exact ofBody.whenTrue header condition whenTrue whenFalse inBody
  whenFalse header condition whenTrue whenFalse inside := by
    rw [Step.forestLoop, List.mem_cons] at inside
    rcases inside with same | inBody
    · cases same
    · exact ofBody.whenFalse header condition whenTrue whenFalse inBody
  body header rule body inside := by
    rw [Step.forestLoop, List.mem_cons] at inside
    rcases inside with same | inBody
    · cases same
      exact ofBody.top
    · exact ofBody.body header rule body inBody
  loops all header rule body inside := by
    rw [Step.forestLoop, List.mem_cons] at inside
    rcases inside with same | inBody
    · cases same
      exact sound all
    · exact ofBody.loops all header rule body inBody

end ExecutionCounts

end DeskScript
