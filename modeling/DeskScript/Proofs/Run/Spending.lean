/-
This file shows how much a run may spend. Every step has a cost, which follows from the numbers of
iterations of its loops, and a run of the step spends no more than that.
-/

import DeskScript.Proofs.Run.Course

namespace DeskScript

variable {device : Type}

/-! ### Costs -/

/-- A tariff says what a leaf step costs, and what another step costs besides the steps in it. -/
structure Tariff where
  leaf : StepHeader → Nat
  own : Nat

namespace Step

mutual

/-- A branching step costs as much as its dearer way, and a loop as much as all its iterations. -/
def cost (tariff : Tariff) : Step → Nat
  | .leaf header _ => tariff.leaf header
  | .branch _ _ whenTrue whenFalse =>
      tariff.own + max (costAll tariff whenTrue) (costAll tariff whenFalse)
  | .loop _ rule body => tariff.own + Interpreter.iterationsAllowed rule * costAll tariff body

def costAll (tariff : Tariff) : List Step → Nat
  | [] => 0
  | step :: rest => cost tariff step + costAll tariff rest

end

end Step

namespace Interpreter

/-! ### Measures -/

/-- A part of a run adds at most an amount to a measure, from whatever session it begins in. -/
def Spends (measure : Session device → Nat) (amount : Nat)
    (part : Session device → Flow device) : Prop :=
  ∀ session, measure (part session).1 ≤ measure session + amount

/-- Only the execution of leaf steps and the record of other steps add to a measure. -/
structure Metered (place : Workplace device) (tariff : Tariff) (measure : Session device → Nat) :
    Prop where
  timed : ∀ (session : Session device) (context : RunContext),
    measure { session with context } = measure session
  published : ∀ (session : Session device) (news : RunNews),
    measure (session.publish news) = measure session
  warned : ∀ (session : Session device) (warning : LoopWarning),
    measure (session.warn warning) = measure session
  bound : ∀ (session : Session device) (name value : String),
    measure (session.bind name value) = measure session
  recorded : ∀ (session : Session device) (step : Step) (depth : Nat) (outcome : StepOutcome)
      (notes : StepNotes) (error : Option String) (attempts : UInt32) (startedAt : Time.Timestamp),
    measure (session.record place step depth outcome notes error attempts startedAt) ≤
      measure session + tariff.own
  executed : ∀ (header : StepHeader) (action : Action) (depth : Nat) (startedAt : Time.Timestamp),
    Spends measure (tariff.leaf header) (Leaf.attempt place (.leaf header action) action depth
      startedAt (Leaf.furtherAttempts header) 1)
  least : ∀ header : StepHeader, tariff.own ≤ tariff.leaf header

namespace Spends

variable {measure : Session device → Nat} {amount more : Nat}
  {part next : Session device → Flow device}

theorem checkpoint (stepId : String) :
    Spends measure 0 fun session => session.checkpoint stepId := by
  intro session
  dsimp only
  rw [Session.checkpoint]
  split <;> exact Nat.le_refl _

/-- Where the second part does not begin nothing is spent on it. -/
theorem andThen (spends : Spends measure amount part) (others : Spends measure more next) :
    Spends measure (amount + more) fun session => (part session).andThen next := by
  intro session
  have spent := spends session
  dsimp only
  generalize part session = flow at spent ⊢
  obtain ⟨after, _ | reason⟩ := flow
  · have further := others after
    rw [Flow.andThen]
    dsimp only at spent
    omega
  · rw [Flow.andThen]
    dsimp only at spent ⊢
    omega

end Spends

section

variable {place : Workplace device} {tariff : Tariff} {measure : Session device → Nat}
  {amount : Nat} {body : Session device → Flow device}

/-! ### Loops -/

theorem iterateSpends (metered : Metered place tariff measure)
    (spends : Spends measure amount body) (stepId : String) (rule : LoopRule) (iteration : Nat) :
    Spends measure amount (iterate stepId rule body iteration) := by
  rw [← Nat.zero_add amount]
  refine (Spends.checkpoint stepId).andThen fun session => ?_
  cases rule.indexVariable with
  | none => exact spends session
  | some index =>
      have spent := spends (session.bind index (toString iteration))
      rwa [metered.bound] at spent

/-- A loop that counts spends at most the amount of the body in every iteration that is left. -/
theorem countUpSpends (metered : Metered place tariff measure)
    (spends : Spends measure amount body) (stepId : String) (rule : LoopRule)
    (left iterations : Nat) (session : Session device) :
    measure (countUp stepId rule body left iterations session).session ≤
      measure session + left * amount := by
  induction left generalizing iterations session with
  | zero =>
      rw [countUp]
      exact Nat.le_add_right _ _
  | succ left inductionHypothesis =>
      have spent := iterateSpends metered spends stepId rule (iterations + 1) session
      rw [countUp, Nat.succ_mul]
      generalize iterate stepId rule body (iterations + 1) session = flow at spent ⊢
      obtain ⟨after, _ | reason⟩ := flow
      · have further := inductionHypothesis (iterations + 1) after
        dsimp only at spent ⊢
        omega
      · dsimp only at spent ⊢
        omega

theorem repeatWhileSpends (metered : Metered place tariff measure)
    (spends : Spends measure amount body) (stepId : String) (rule : LoopRule)
    (condition : Condition) (left iterations : Nat) (notes : StepNotes)
    (session : Session device) :
    measure (repeatWhile stepId rule condition body left iterations notes session).session ≤
      measure session + left * amount := by
  induction left generalizing iterations notes session with
  | zero =>
      rw [repeatWhile]
      split
      · dsimp only
        omega
      · dsimp only
        split
        · dsimp only
          omega
        · dsimp only
          rw [metered.warned]
          omega
  | succ left inductionHypothesis =>
      have spent := iterateSpends metered spends stepId rule (iterations + 1) session
      rw [repeatWhile, Nat.succ_mul]
      split
      · dsimp only
        omega
      · dsimp only
        split
        · dsimp only
          omega
        · generalize iterate stepId rule body (iterations + 1) session = flow at spent ⊢
          obtain ⟨after, _ | reason⟩ := flow
          · have further := inductionHypothesis (iterations + 1) { notes with
              unresolved := Template.addNames notes.unresolved
                (condition.evaluate session.bindings).unresolved } after
            dsimp only at spent ⊢
            omega
          · dsimp only at spent ⊢
            omega

/-- The condition of a loop may change with its body, but not the number of iterations. -/
theorem runLoopSpends (metered : Metered place tariff measure)
    (spends : Spends measure amount body) (stepId : String) (rule : LoopRule)
    (session : Session device) :
    measure (runLoop stepId rule body session).session ≤
      measure session + iterationsAllowed rule * amount := by
  rw [runLoop, iterationsAllowed]
  cases rule.mode with
  | count times => exact countUpSpends metered spends stepId rule _ 0 session
  | while_ condition => exact repeatWhileSpends metered spends stepId rule condition _ 0 _ session

theorem endLoopSpends (metered : Metered place tariff measure) (step : Step) (depth : Nat)
    (startedAt : Time.Timestamp) (run : LoopRun device) :
    measure (endLoop place step depth startedAt run).1 ≤ measure run.session + tariff.own := by
  obtain ⟨after, iterations, limited, notes, _ | reason⟩ := run
  · exact metered.recorded _ _ _ _ _ _ _ _
  · cases reason with
    | brokeDown => exact Nat.le_add_right _ _
    | _ => exact metered.recorded _ _ _ _ _ _ _ _

/-! ### Steps -/

/-- A step that is too deep or not enabled spends nothing but what its record costs. -/
theorem enterSpends (metered : Metered place tariff measure) (step : Step) (depth : Nat)
    {run : Time.Timestamp → Session device → Flow device} (least : tariff.own ≤ amount)
    (spends : ∀ startedAt, Spends measure amount (run startedAt)) :
    Spends measure amount fun session => enter place step depth session run := by
  intro session
  dsimp only
  rw [enter]
  split
  · exact Nat.le_add_right _ _
  · dsimp only
    split
    · have recorded := metered.recorded session step depth .skip .empty none 0 (session.time place)
      exact Nat.le_trans recorded (Nat.add_le_add_left least _)
    · have spent := spends (session.time place)
        (session.publish (.stepStarted step.id step.stepType (UInt64.ofNat depth)))
      rwa [metered.published] at spent

mutual

theorem runStepSpends (metered : Metered place tariff measure) (depth : Nat) :
    ∀ step : Step, Spends measure (step.cost tariff) (runStep place depth step)
  | .leaf header action => by
      rw [Step.cost]
      intro session
      rw [runStep]
      apply enterSpends metered _ _ (metered.least header)
      intro startedAt
      exact metered.executed header action depth startedAt
  | .branch header condition whenTrue whenFalse => by
      have ofTrue := runAllSpends metered (depth + 1) whenTrue
      have ofFalse := runAllSpends metered (depth + 1) whenFalse
      rw [Step.cost]
      intro session
      rw [runStep]
      apply enterSpends metered _ _ (Nat.le_add_right _ _)
      intro startedAt session
      have recorded := metered.recorded session (.branch header condition whenTrue whenFalse) depth
        (.branch (if (condition.evaluate session.bindings).result then .whenTrue else .whenFalse))
        ⟨(condition.evaluate session.bindings).unresolved, none⟩ none 1 startedAt
      dsimp only
      split
      · have spent := ofTrue (recordBranch place (.branch header condition whenTrue whenFalse) depth
          startedAt (condition.evaluate session.bindings) session)
        rw [recordBranch] at spent ⊢
        omega
      · have spent := ofFalse (recordBranch place (.branch header condition whenTrue whenFalse)
          depth startedAt (condition.evaluate session.bindings) session)
        rw [recordBranch] at spent ⊢
        omega
  | .loop header rule body => by
      have ofBody := runAllSpends metered (depth + 1) body
      rw [Step.cost]
      intro session
      rw [runStep]
      apply enterSpends metered _ _ (Nat.le_add_right _ _)
      intro startedAt session
      have spent : measure (runLoop header.id rule
          (fun session => runAll place (depth + 1) body session) session).session ≤ _ :=
        runLoopSpends metered ofBody header.id rule session
      have ended := endLoopSpends metered (.loop header rule body) depth startedAt
        (runLoop header.id rule (fun session => runAll place (depth + 1) body session) session)
      dsimp only
      omega

/-- A list of steps spends at most what its steps cost together. -/
theorem runAllSpends (metered : Metered place tariff measure) (depth : Nat) :
    ∀ steps : List Step, Spends measure (Step.costAll tariff steps) (runAll place depth steps)
  | [] => by
      intro session
      rw [runAll]
      exact Nat.le_add_right _ _
  | step :: rest => by
      have first := runStepSpends metered depth step
      have others := runAllSpends metered depth rest
      have together := (Spends.checkpoint step.id).andThen
        (first.andThen ((Spends.checkpoint step.id).andThen others))
      rw [Nat.zero_add, Nat.zero_add] at together
      intro session
      rw [runAll, Step.costAll]
      exact together session

end

/-- A run spends at most what the steps of its script cost. -/
theorem runSpends (metered : Metered place tariff measure) (script : Script)
    (session : Session device) :
    measure (run place script session).1 ≤
      measure session + Step.costAll tariff script.steps := by
  have armed := metered.timed session session.context.arm
  have spent := runAllSpends metered 0 script.steps
    { session with context := session.context.arm }
  rw [armed] at spent
  rw [run]
  generalize runAll place 0 script.steps _ = flow at spent ⊢
  obtain ⟨after, halt⟩ := flow
  dsimp only at spent ⊢
  split
  · exact spent
  · have cancelled := metered.timed after after.context.cancel
    rw [report]
    dsimp only
    rw [metered.published, cancelled]
    exact spent

end

end Interpreter

end DeskScript
