/-
This file shows that editing a script loses no step and makes none twice, whatever positions and
identities the edits name and however many of them follow each other.
-/

import DeskScript.Proofs.Step.Forest
import DeskScript.Script.Basic
import Mathlib.Algebra.Order.Group.Multiset

namespace DeskScript

namespace Step

/-! ### Nodes -/

/-- A node is a step without the steps in it. -/
inductive Node where
  | leaf (header : StepHeader) (action : Action)
  | branch (header : StepHeader) (condition : Condition)
  | loop (header : StepHeader) (rule : LoopRule)

def node : Step → Node
  | .leaf header action => .leaf header action
  | .branch header condition _ _ => .branch header condition
  | .loop header rule _ => .loop header rule

/-- These are the nodes of all steps of a list and of the steps in them, however often each. -/
def nodes (steps : List Step) : Multiset Node := ↑((forest steps).map node)

theorem nodesCons (step : Step) (rest : List Step) :
    nodes (step :: rest) = nodes [step] + nodes rest := by
  rw [nodes, forestCons, List.map_append, ← Multiset.coe_add]
  rfl

theorem nodesAppend (first second : List Step) :
    nodes (first ++ second) = nodes first + nodes second := by
  induction first with
  | nil => exact (zero_add _).symm
  | cons step rest inductionHypothesis =>
      rw [List.cons_append, nodesCons, inductionHypothesis, nodesCons step rest, add_assoc]

theorem nodesBranch (header : StepHeader) (condition : Condition)
    (whenTrue whenFalse : List Step) :
    nodes [.branch header condition whenTrue whenFalse] =
      {.branch header condition} + (nodes whenTrue + nodes whenFalse) := by
  rw [nodes, forestBranch, List.map_cons, List.map_append, ← Multiset.cons_coe,
    ← Multiset.coe_add, ← Multiset.singleton_add]
  rfl

theorem nodesLoop (header : StepHeader) (rule : LoopRule) (body : List Step) :
    nodes [.loop header rule body] = {.loop header rule} + nodes body := by
  rw [nodes, forestLoop, List.map_cons, ← Multiset.cons_coe, ← Multiset.singleton_add]
  rfl

/-! ### Taking a step out -/

/-- A list of steps becomes another one by taking out one step, here or from inside a step. -/
inductive TakenOut (removed : Step) : List Step → List Step → Prop where
  | here (first second : List Step) :
      TakenOut removed (first ++ removed :: second) (first ++ second)
  | whenTrue {whenTrue others : List Step} (header : StepHeader) (condition : Condition)
      (whenFalse rest : List Step) (inside : TakenOut removed whenTrue others) :
      TakenOut removed (.branch header condition whenTrue whenFalse :: rest)
        (.branch header condition others whenFalse :: rest)
  | whenFalse {whenFalse others : List Step} (header : StepHeader) (condition : Condition)
      (whenTrue rest : List Step) (inside : TakenOut removed whenFalse others) :
      TakenOut removed (.branch header condition whenTrue whenFalse :: rest)
        (.branch header condition whenTrue others :: rest)
  | body {body others : List Step} (header : StepHeader) (rule : LoopRule) (rest : List Step)
      (inside : TakenOut removed body others) :
      TakenOut removed (.loop header rule body :: rest) (.loop header rule others :: rest)
  | later {rest others : List Step} (step : Step) (behind : TakenOut removed rest others) :
      TakenOut removed (step :: rest) (step :: others)

/-- What is taken out is all that is missing afterwards. -/
theorem TakenOut.nodes {removed : Step} {before after : List Step}
    (taken : TakenOut removed before after) :
    Step.nodes before = Step.nodes after + Step.nodes [removed] := by
  induction taken with
  | here first second =>
      rw [nodesAppend, nodesAppend, nodesCons removed second, add_comm (Step.nodes [removed]),
        add_assoc]
  | whenTrue header condition whenFalse rest inside inductionHypothesis =>
      rw [nodesCons, nodesBranch, inductionHypothesis, nodesCons _ rest, nodesBranch]
      ac_rfl
  | whenFalse header condition whenTrue rest inside inductionHypothesis =>
      rw [nodesCons, nodesBranch, inductionHypothesis, nodesCons _ rest, nodesBranch]
      ac_rfl
  | body header rule rest inside inductionHypothesis =>
      rw [nodesCons, nodesLoop, inductionHypothesis, nodesCons _ rest, nodesLoop]
      ac_rfl
  | @later rest others step behind inductionHypothesis =>
      rw [nodesCons step rest, inductionHypothesis, nodesCons step others, add_assoc]

/-! ### Removing -/

theorem removeHereFound {id : String} {steps others : List Step} {removed : Step}
    (found : removeHere id steps = some (removed, others)) :
    removed.id = id ∧ TakenOut removed steps others := by
  induction steps generalizing others with
  | nil => cases found
  | cons step rest inductionHypothesis =>
      rw [removeHere] at found
      split at found
      · rename_i isNamed
        cases found
        exact ⟨isNamed, .here [] rest⟩
      · obtain ⟨⟨removed, left⟩, later, same⟩ := Option.map_eq_some_iff.mp found
        cases same
        obtain ⟨isNamed, taken⟩ := inductionHypothesis later
        exact ⟨isNamed, .later step taken⟩

theorem removeHereNone {id : String} {steps : List Step} (missed : removeHere id steps = none) :
    ∀ step ∈ steps, step.id ≠ id := by
  induction steps with
  | nil => exact fun step inside => absurd inside List.not_mem_nil
  | cons step rest inductionHypothesis =>
      rw [removeHere] at missed
      split at missed
      · cases missed
      · rename_i other
        exact List.forall_mem_cons.mpr
          ⟨other, inductionHypothesis (Option.map_eq_none_iff.mp missed)⟩

/-- A step that is removed from a list was in the list itself or inside one of its steps. -/
theorem removeAtFound {id : String} {steps others : List Step} {removed : Step}
    (inside : removeBelow id steps = some (removed, others) →
      removed.id = id ∧ TakenOut removed steps others)
    (found : (removeHere id steps).or (removeBelow id steps) = some (removed, others)) :
    removed.id = id ∧ TakenOut removed steps others := by
  rcases Option.or_eq_some_iff.mp found with here | ⟨_, below⟩
  · exact removeHereFound here
  · exact inside below

mutual

theorem removeInsideFound (id : String) : ∀ (step removed after : Step),
    removeInside id step = some (removed, after) →
    removed.id = id ∧ ∀ rest, TakenOut removed (step :: rest) (after :: rest)
  | .leaf header action, removed, after, found => by simp [removeInside] at found
  | .branch header condition whenTrue whenFalse, removed, after, found => by
      rw [removeInside] at found
      split at found
      · rename_i _ others ofTrue
        cases found
        obtain ⟨isNamed, taken⟩ :=
          removeAtFound (removeBelowFound id whenTrue removed others) ofTrue
        exact ⟨isNamed, fun rest => .whenTrue header condition whenFalse rest taken⟩
      · split at found
        · rename_i _ others ofFalse
          cases found
          obtain ⟨isNamed, taken⟩ :=
            removeAtFound (removeBelowFound id whenFalse removed others) ofFalse
          exact ⟨isNamed, fun rest => .whenFalse header condition whenTrue rest taken⟩
        · cases found
  | .loop header rule body, removed, after, found => by
      rw [removeInside] at found
      split at found
      · rename_i _ others ofBody
        cases found
        obtain ⟨isNamed, taken⟩ :=
          removeAtFound (removeBelowFound id body removed others) ofBody
        exact ⟨isNamed, fun rest => .body header rule rest taken⟩
      · cases found

theorem removeBelowFound (id : String) : ∀ (steps : List Step) (removed : Step)
    (others : List Step), removeBelow id steps = some (removed, others) →
    removed.id = id ∧ TakenOut removed steps others
  | [], removed, others, found => by simp [removeBelow] at found
  | step :: rest, removed, others, found => by
      rw [removeBelow] at found
      split at found
      · rename_i _ after inside
        cases found
        obtain ⟨isNamed, taken⟩ := removeInsideFound id step removed after inside
        exact ⟨isNamed, taken rest⟩
      · split at found
        · rename_i _ left behind
          cases found
          obtain ⟨isNamed, taken⟩ := removeBelowFound id rest removed left behind
          exact ⟨isNamed, .later step taken⟩
        · cases found

end

mutual

theorem removeInsideNone (id : String) : ∀ step : Step, removeInside id step = none →
    step.id ≠ id → id ∉ forestIds [step]
  | .leaf header action, _, other => by
      rw [forestIds, forestLeaf]
      exact fun inside => other (List.mem_singleton.mp inside).symm
  | .branch header condition whenTrue whenFalse, missed, other => by
      rw [removeInside] at missed
      split at missed
      · cases missed
      · rename_i noneTrue
        split at missed
        · cases missed
        · rename_i noneFalse
          rw [Option.or_eq_none_iff] at noneTrue noneFalse
          have absentTrue := removeBelowNone id whenTrue noneTrue.2 (removeHereNone noneTrue.1)
          have absentFalse := removeBelowNone id whenFalse noneFalse.2 (removeHereNone noneFalse.1)
          rw [forestIdsBranch, List.mem_cons, List.mem_append]
          rintro (same | inside | inside)
          · exact other same.symm
          · exact absentTrue inside
          · exact absentFalse inside
  | .loop header rule body, missed, other => by
      rw [removeInside] at missed
      split at missed
      · cases missed
      · rename_i none
        rw [Option.or_eq_none_iff] at none
        have absent := removeBelowNone id body none.2 (removeHereNone none.1)
        rw [forestIdsLoop, List.mem_cons]
        rintro (same | inside)
        · exact other same.symm
        · exact absent inside

theorem removeBelowNone (id : String) : ∀ steps : List Step, removeBelow id steps = none →
    (∀ step ∈ steps, step.id ≠ id) → id ∉ forestIds steps
  | [], _, _ => List.not_mem_nil
  | step :: rest, missed, others => by
      rw [removeBelow] at missed
      split at missed
      · cases missed
      · rename_i noneInside
        split at missed
        · cases missed
        · rename_i noneBehind
          obtain ⟨other, others⟩ := List.forall_mem_cons.mp others
          rw [forestIdsCons, List.mem_append]
          rintro (inside | behind)
          · exact removeInsideNone id step noneInside other inside
          · exact removeBelowNone id rest noneBehind others behind

end

theorem removeFromFound {id : String} {steps others : List Step} {removed : Step}
    (found : removeFrom id steps = some (removed, others)) :
    removed.id = id ∧ TakenOut removed steps others :=
  removeAtFound (removeBelowFound id steps removed others) found

theorem removeFromNone {id : String} {steps : List Step} (missed : removeFrom id steps = none) :
    id ∉ forestIds steps := by
  rw [removeFrom, Option.or_eq_none_iff] at missed
  exact removeBelowNone id steps missed.2 (removeHereNone missed.1)

end Step

namespace Script

open Step (nodes TakenOut forestIds)

/-! ### One edit -/

/-- Positions are those of the outermost list of steps. -/
inductive Edit where
  | push (step : Step)
  | insert (position : Nat) (step : Step)
  | remove (id : String)
  | move (origin target : Nat)

inductive Answer where
  | done
  | removed (step : Option Step)
  | moved (succeeded : Bool)

/-- An edit that does not succeed leaves the script alone. -/
def edit (script : Script) (now : Time.Timestamp) : Edit → Script × Answer
  | .push step => (script.pushStep step now, .done)
  | .insert position step => (script.insertStep position step now, .done)
  | .remove id =>
      match script.removeStep? id now with
      | some (removed, after) => (after, .removed (some removed))
      | none => (script, .removed none)
  | .move origin target =>
      match script.moveStep? origin target now with
      | some after => (after, .moved true)
      | none => (script, .moved false)

/-- This is what each edit does to a script, and what it answers. -/
inductive Edited (now : Time.Timestamp) (before : Script) : Edit → Script → Answer → Prop where
  | pushed (step : Step) :
      Edited now before (.push step)
        { before with steps := before.steps ++ [step], updatedAt := now } .done
  | inserted {first second : List Step} (position : Nat) (step : Step)
      (split : before.steps = first ++ second)
      (place : first.length = min position before.steps.length) :
      Edited now before (.insert position step)
        { before with steps := first ++ step :: second, updatedAt := now } .done
  | removed {step : Step} {others : List Step} (taken : TakenOut step before.steps others) :
      Edited now before (.remove step.id)
        { before with steps := others, updatedAt := now } (.removed (some step))
  | missing {id : String} (absent : id ∉ forestIds before.steps) :
      Edited now before (.remove id) before (.removed none)
  | moved {origin target : Nat} {first second third fourth : List Step} {step : Step}
      (split : before.steps = first ++ step :: second) (position : first.length = origin)
      (sameOrder : first ++ second = third ++ fourth) (place : third.length = target) :
      Edited now before (.move origin target)
        { before with steps := third ++ step :: fourth, updatedAt := now } (.moved true)
  | unmoved {origin target : Nat}
      (outside : before.steps.length ≤ origin ∨ before.steps.length ≤ target) :
      Edited now before (.move origin target) before (.moved false)

theorem insertEdited (script : Script) (now : Time.Timestamp) (position : Nat) (step : Step) :
    Edited now script (.insert position step) (script.insertStep position step now) .done :=
  .inserted position step (List.take_append_drop position script.steps).symm List.length_take

theorem removeEdited (script : Script) (now : Time.Timestamp) (id : String) :
    Edited now script (.remove id) (script.edit now (.remove id)).1
      (script.edit now (.remove id)).2 := by
  simp only [edit, removeStep?]
  cases isResult : Step.removeFrom id script.steps with
  | none => exact .missing (Step.removeFromNone isResult)
  | some result =>
      obtain ⟨rfl, taken⟩ := Step.removeFromFound isResult
      exact .removed taken

theorem moveEdited (script : Script) (now : Time.Timestamp) (origin target : Nat) :
    Edited now script (.move origin target) (script.edit now (.move origin target)).1
      (script.edit now (.move origin target)).2 := by
  simp only [edit, moveStep?]
  cases isStep : script.steps[origin]? with
  | none => exact .unmoved (.inl (List.getElem?_eq_none_iff.mp isStep))
  | some step =>
      obtain ⟨isInside, isHere⟩ := List.getElem?_eq_some_iff.mp isStep
      by_cases isTarget : target < script.steps.length
      · simp only [if_pos isTarget]
        have left : (script.steps.eraseIdx origin).length = script.steps.length - 1 :=
          List.length_eraseIdx_of_lt isInside
        have isRoom : target ≤ (script.steps.eraseIdx origin).length := by omega
        have split : script.steps =
            script.steps.take origin ++ step :: script.steps.drop (origin + 1) := by
          rw [← isHere, List.getElem_cons_drop, List.take_append_drop]
        have sameOrder : script.steps.take origin ++ script.steps.drop (origin + 1) =
            (script.steps.eraseIdx origin).take target ++
              (script.steps.eraseIdx origin).drop target := by
          rw [List.take_append_drop, List.eraseIdx_eq_take_drop_succ]
        exact .moved split (List.length_take_of_le (Nat.le_of_lt isInside)) sameOrder
          (List.length_take_of_le isRoom)
      · simp only [if_neg isTarget]
        exact .unmoved (.inr (Nat.not_lt.mp isTarget))

theorem editEdited (script : Script) (now : Time.Timestamp) (change : Edit) :
    Edited now script change (script.edit now change).1 (script.edit now change).2 := by
  cases change with
  | push step => exact .pushed step
  | insert position step => exact insertEdited script now position step
  | remove id => exact removeEdited script now id
  | move origin target => exact moveEdited script now origin target

/-! ### Many edits -/

/-- These nodes come into a script by an edit. -/
def Edit.nodes : Edit → Multiset Step.Node
  | .push step | .insert _ step => Step.nodes [step]
  | .remove _ | .move _ _ => 0

/-- These nodes come out of a script with the answer to an edit. -/
def Answer.nodes : Answer → Multiset Step.Node
  | .removed (some step) => Step.nodes [step]
  | .removed none | .done | .moved _ => 0

/-- Every edit happens at a time of its own. -/
def editAll (script : Script) : List (Time.Timestamp × Edit) → Script × List Answer
  | [] => (script, [])
  | (now, change) :: changes =>
      let (after, answer) := script.edit now change
      let (final, answers) := after.editAll changes
      (final, answer :: answers)

/-- One edit neither loses a node nor makes one twice. -/
theorem Edited.nodes {now : Time.Timestamp} {before after : Script} {change : Edit}
    {answer : Answer} (edited : Edited now before change after answer) :
    Step.nodes after.steps + answer.nodes = Step.nodes before.steps + change.nodes := by
  cases edited with
  | pushed step => exact (add_zero _).trans (Step.nodesAppend before.steps [step])
  | @inserted first second position step split place =>
      rw [split]
      simp only [Step.nodesAppend, Step.nodesCons step second, Edit.nodes, Answer.nodes]
      ac_rfl
  | removed taken => exact taken.nodes.symm.trans (add_zero _).symm
  | missing absent => rfl
  | @moved origin target first second third fourth step split position sameOrder place =>
      have sameNodes : Step.nodes first + Step.nodes second =
          Step.nodes third + Step.nodes fourth := by
        rw [← Step.nodesAppend, sameOrder, Step.nodesAppend]
      rw [split]
      simp only [Step.nodesAppend, Step.nodesCons step second, Step.nodesCons step fourth,
        Edit.nodes, Answer.nodes]
      rw [add_left_comm (Step.nodes first), sameNodes]
      ac_rfl
  | unmoved outside => rfl

theorem editAllNodes (changes : List (Time.Timestamp × Edit)) (script : Script) :
    Step.nodes (script.editAll changes).1.steps +
        ((script.editAll changes).2.map Answer.nodes).sum =
      Step.nodes script.steps + (changes.map fun change => change.2.nodes).sum := by
  induction changes generalizing script with
  | nil => rfl
  | cons change changes inductionHypothesis =>
      obtain ⟨now, change⟩ := change
      have one := (editEdited script now change).nodes
      have others := inductionHypothesis (script.edit now change).1
      simp only [editAll, List.map_cons, List.sum_cons]
      rw [add_left_comm, others, ← add_assoc, add_comm (Answer.nodes _), one, add_assoc]

/-- Every edit does what it is for and nothing else, and after any edits the nodes of the script
and of the removed steps are those of the script before and of the steps that were put in. -/
theorem editingLosesNothing (script : Script) :
    (∀ now change, Edited now script change (script.edit now change).1
      (script.edit now change).2) ∧
    ∀ changes : List (Time.Timestamp × Edit),
      Step.nodes (script.editAll changes).1.steps +
          ((script.editAll changes).2.map Answer.nodes).sum =
        Step.nodes script.steps + (changes.map fun change => change.2.nodes).sum :=
  ⟨editEdited script, fun changes => editAllNodes changes script⟩

end Script

end DeskScript
