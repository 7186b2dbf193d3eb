/-
This file shows that removing a step takes out the step that is found under the identity. A block of
steps is missing afterwards in one place of the list of all steps, and nothing else has changed.
-/

import DeskScript.Proofs.Script.Editing

namespace DeskScript

/-! ### Blocks -/

/-- A list becomes another one by cutting out a block in one place. -/
def Cut {item : Type} (block before after : List item) : Prop :=
  ∃ first second, before = first ++ block ++ second ∧ after = first ++ second

namespace Cut

variable {item : Type} {block before after : List item}

theorem behind (cut : Cut block before after) (front : List item) :
    Cut block (front ++ before) (front ++ after) := by
  obtain ⟨first, second, rfl, rfl⟩ := cut
  exact ⟨front ++ first, second, by simp only [List.append_assoc], by rw [List.append_assoc]⟩

theorem inFront (cut : Cut block before after) (back : List item) :
    Cut block (before ++ back) (after ++ back) := by
  obtain ⟨first, second, rfl, rfl⟩ := cut
  exact ⟨first, second ++ back, by simp only [List.append_assoc], by rw [List.append_assoc]⟩

theorem map {other : Type} (cut : Cut block before after) (change : item → other) :
    Cut (block.map change) (before.map change) (after.map change) := by
  obtain ⟨first, second, rfl, rfl⟩ := cut
  exact ⟨first.map change, second.map change, by simp only [List.map_append],
    List.map_append⟩

theorem length (cut : Cut block before after) : after.length + block.length = before.length := by
  obtain ⟨first, second, rfl, rfl⟩ := cut
  simp only [List.length_append]
  omega

theorem sublist (cut : Cut block before after) : after.Sublist before := by
  obtain ⟨first, second, rfl, rfl⟩ := cut
  exact (List.sublist_append_left first block).append_right second

/-- If nothing was in a list twice, nothing of the block is left. -/
theorem apart (cut : Cut block before after) (distinct : before.Nodup) :
    ∀ one ∈ block, one ∉ after := by
  obtain ⟨first, second, rfl, rfl⟩ := cut
  obtain ⟨front, -, behind⟩ := List.nodup_append.mp distinct
  obtain ⟨-, -, inside⟩ := List.nodup_append.mp front
  intro one inBlock left
  rcases List.mem_append.mp left with inFirst | inSecond
  · exact inside one inFirst one inBlock rfl
  · exact behind one (List.mem_append_right first inBlock) one inSecond rfl

end Cut

namespace Step

/-! ### Plans -/

def Node.header : Node → StepHeader
  | .leaf header _ | .branch header _ | .loop header _ => header

theorem nodeHeader (step : Step) : step.node.header = step.header := by
  cases step <;> rfl

/-- The plan of a list of steps shows the node of every step and how deep the step is. -/
def plan (depth : Nat) (steps : List Step) : List (Nat × Node) :=
  (visitAll depth steps).map fun (depth, step) => (depth, step.node)

/-- These are the identities of all steps of a list, and how deep each step is. -/
def levels (depth : Nat) (steps : List Step) : List (Nat × String) :=
  (visitAll depth steps).map fun (depth, step) => (depth, step.id)

theorem levelsOfPlan (depth : Nat) (steps : List Step) :
    levels depth steps =
      (plan depth steps).map fun (depth, node) => (depth, node.header.id) := by
  simp only [levels, plan, List.map_map, Function.comp_def, nodeHeader]
  rfl

theorem idsOfLevels (depth : Nat) (steps : List Step) :
    forestIds steps = (levels depth steps).map Prod.snd := by
  rw [forestIds, forest, visitAllDepth 0 depth steps, levels, List.map_map, List.map_map]
  rfl

theorem planCons (depth : Nat) (step : Step) (rest : List Step) :
    plan depth (step :: rest) = plan depth [step] ++ plan depth rest := by
  simp only [plan, visitAll, List.map_append, List.append_nil]

theorem planAppend (depth : Nat) (first second : List Step) :
    plan depth (first ++ second) = plan depth first ++ plan depth second := by
  induction first with
  | nil => rfl
  | cons step rest inductionHypothesis =>
      rw [List.cons_append, planCons, inductionHypothesis, planCons depth step rest,
        List.append_assoc]

theorem planBranch (depth : Nat) (header : StepHeader) (condition : Condition)
    (whenTrue whenFalse rest : List Step) :
    plan depth (.branch header condition whenTrue whenFalse :: rest) =
      [(depth, .branch header condition)] ++
        (plan (depth + 1) whenTrue ++ plan (depth + 1) whenFalse) ++ plan depth rest := by
  simp only [plan, visitAll, visit, List.map_cons, List.map_append, List.cons_append]
  rfl

theorem planLoop (depth : Nat) (header : StepHeader) (rule : LoopRule) (body rest : List Step) :
    plan depth (.loop header rule body :: rest) =
      [(depth, .loop header rule)] ++ plan (depth + 1) body ++ plan depth rest := by
  simp only [plan, visitAll, visit, List.map_cons, List.map_append, List.cons_append]
  rfl

theorem planLength (depth : Nat) (steps : List Step) :
    (plan depth steps).length = (forest steps).length := by
  rw [plan, forest, List.length_map, visitAllDepth 0 depth steps, List.length_map]

/-! ### What is taken out -/

/-- What is taken out of a list was among its steps or inside one of them. -/
theorem TakenOut.inside {removed : Step} {before after : List Step}
    (taken : TakenOut removed before after) : removed ∈ forest before := by
  induction taken with
  | here first second => exact ofMemForest _ _ (by simp)
  | whenTrue header condition whenFalse rest inside inductionHypothesis =>
      exact trueInForest _ _ _ _ _ inductionHypothesis
  | whenFalse header condition whenTrue rest inside inductionHypothesis =>
      exact falseInForest _ _ _ _ _ inductionHypothesis
  | body header rule rest inside inductionHypothesis =>
      exact bodyInForest _ _ _ _ inductionHypothesis
  | later step behind inductionHypothesis => exact restInForest _ _ inductionHypothesis

/-- The plan of the step that is taken out, with all steps in it, is a block of the plan before. -/
theorem TakenOut.cut {removed : Step} {before after : List Step}
    (taken : TakenOut removed before after) (depth : Nat) :
    ∃ inner, Cut (plan inner [removed]) (plan depth before) (plan depth after) := by
  induction taken generalizing depth with
  | here first second =>
      refine ⟨depth, plan depth first, plan depth second, ?_, planAppend depth first second⟩
      rw [planAppend, planCons depth removed second, List.append_assoc]
  | whenTrue header condition whenFalse rest inside inductionHypothesis =>
      obtain ⟨inner, cut⟩ := inductionHypothesis (depth + 1)
      refine ⟨inner, ?_⟩
      rw [planBranch, planBranch]
      exact ((cut.inFront _).behind _).inFront _
  | whenFalse header condition whenTrue rest inside inductionHypothesis =>
      obtain ⟨inner, cut⟩ := inductionHypothesis (depth + 1)
      refine ⟨inner, ?_⟩
      rw [planBranch, planBranch]
      exact ((cut.behind _).behind _).inFront _
  | body header rule rest inside inductionHypothesis =>
      obtain ⟨inner, cut⟩ := inductionHypothesis (depth + 1)
      refine ⟨inner, ?_⟩
      rw [planLoop, planLoop]
      exact (cut.behind _).inFront _
  | @later rest others step behind inductionHypothesis =>
      obtain ⟨inner, cut⟩ := inductionHypothesis depth
      refine ⟨inner, ?_⟩
      rw [planCons depth step rest, planCons depth step others]
      exact cut.behind _

theorem TakenOut.cutIds {removed : Step} {before after : List Step}
    (taken : TakenOut removed before after) :
    Cut (forestIds [removed]) (forestIds before) (forestIds after) := by
  obtain ⟨depth, cut⟩ := taken.cut 0
  have ofIds := (cut.map fun (depth, node) => (depth, node.header.id)).map Prod.snd
  rw [← levelsOfPlan, ← levelsOfPlan, ← levelsOfPlan] at ofIds
  rwa [← idsOfLevels, ← idsOfLevels, ← idsOfLevels] at ofIds

end Step

namespace Script

open Step (TakenOut forest forestIds levels plan)

/-! ### Finding -/

theorem findStepNone (script : Script) (id : String) :
    script.findStep? id = none ↔ id ∉ forestIds script.steps := by
  rw [findStep?, Option.map_eq_none_iff, List.find?_eq_none, forestIds, forest, List.map_map]
  simp only [decide_eq_true_eq, List.mem_map, not_exists, not_and]
  rfl

/-- Where identities are different, the step that is found is the one that has the identity. -/
theorem findStepSome (script : Script) (distinct : (forestIds script.steps).Nodup) (id : String)
    (step : Step) :
    script.findStep? id = some step ↔ step ∈ forest script.steps ∧ step.id = id := by
  have sound (found : Step) (isFound : script.findStep? id = some found) :
      found ∈ forest script.steps ∧ found.id = id := by
    obtain ⟨visited, isVisited, rfl⟩ := Option.map_eq_some_iff.mp isFound
    have isNamed := List.find?_some isVisited
    exact ⟨List.mem_map_of_mem (List.mem_of_find?_eq_some isVisited), of_decide_eq_true isNamed⟩
  refine ⟨sound step, fun ⟨inside, isNamed⟩ => ?_⟩
  cases isFound : script.findStep? id with
  | none =>
      have absent := (script.findStepNone id).mp isFound
      exact absurd (isNamed ▸ List.mem_map_of_mem inside) absent
  | some found =>
      obtain ⟨isInside, sameId⟩ := sound found isFound
      exact congrArg some
        (List.inj_on_of_nodup_map distinct isInside inside (sameId.trans isNamed.symm))

/-! ### Removing -/

/-- A step has been cut out of a script, with all steps in it and with nothing else. -/
structure CutOut (before : Script) (removed : Step) (after : Script) : Prop where
  block : ∃ depth, Cut (plan depth [removed]) (plan 0 before.steps) (plan 0 after.steps) ∧
    Cut (levels depth [removed]) (levels 0 before.steps) (levels 0 after.steps)
  count : after.stepCount + (forest [removed]).length = before.stepCount
  gone : after.findStep? removed.id = none
  others : after = { before with steps := after.steps, updatedAt := after.updatedAt }

theorem stepCountPlan (script : Script) : script.stepCount = (plan 0 script.steps).length := by
  rw [stepCount, plan, List.length_map, visit]

theorem TakenOut.cutOut {script : Script} {removed : Step} {others : List Step}
    (distinct : (forestIds script.steps).Nodup) (taken : TakenOut removed script.steps others)
    (now : Time.Timestamp) :
    CutOut script removed { script with steps := others, updatedAt := now } := by
  obtain ⟨depth, cut⟩ := taken.cut 0
  have ofLevels : Cut (levels depth [removed]) (levels 0 script.steps) (levels 0 others) := by
    simp only [Step.levelsOfPlan]
    exact cut.map _
  refine ⟨⟨depth, cut, ofLevels⟩, ?_, ?_, rfl⟩
  · rw [stepCountPlan, stepCountPlan, ← Step.planLength depth [removed]]
    exact cut.length
  · have inside : removed ∈ forest [removed] := Step.ofMemForest _ _ (List.mem_singleton_self _)
    rw [findStepNone]
    exact taken.cutIds.apart distinct removed.id (List.mem_map_of_mem inside)

/-- Where identities are different, what is found under an identity is what is removed with it. -/
theorem removedIsFound {script : Script} (distinct : (forestIds script.steps).Nodup) {id : String}
    {removed : Step} {others : List Step}
    (isRemoved : Step.removeFrom id script.steps = some (removed, others)) :
    script.findStep? id = some removed := by
  obtain ⟨isNamed, taken⟩ := Step.removeFromFound isRemoved
  exact (script.findStepSome distinct id removed).mpr ⟨taken.inside, isNamed⟩

/--
A step is found under an identity exactly if the same step, with all steps in it, is removed with
the identity. Then it is cut out of the script, and nothing is found under the identity any more.
Steps are found under the identities in the script and under no others.
-/
theorem foundIffRemoved (script : Script) (distinct : (forestIds script.steps).Nodup) (id : String)
    (now : Time.Timestamp) :
    (∀ step, script.findStep? id = some step ↔
      ∃ after, script.removeStep? id now = some (step, after)) ∧
    (∀ step after, script.removeStep? id now = some (step, after) →
      step.id = id ∧ after.updatedAt = now ∧ CutOut script step after) ∧
    ((script.findStep? id).isSome = true ↔ id ∈ (levels 0 script.steps).map Prod.snd) := by
  refine ⟨fun step => ⟨fun isFound => ?_, ?_⟩, ?_, ?_⟩
  · cases isResult : Step.removeFrom id script.steps with
    | none =>
        rw [(script.findStepNone id).mpr (Step.removeFromNone isResult)] at isFound
        cases isFound
    | some result =>
        obtain ⟨removed, others⟩ := result
        cases (removedIsFound distinct isResult).symm.trans isFound
        exact ⟨_, congrArg _ isResult⟩
  · rintro ⟨after, isRemoved⟩
    obtain ⟨⟨removed, others⟩, isResult, same⟩ := Option.map_eq_some_iff.mp isRemoved
    cases same
    exact removedIsFound distinct isResult
  · intro step after isRemoved
    obtain ⟨⟨removed, others⟩, isResult, same⟩ := Option.map_eq_some_iff.mp isRemoved
    cases same
    obtain ⟨isNamed, taken⟩ := Step.removeFromFound isResult
    exact ⟨isNamed, rfl, TakenOut.cutOut distinct taken now⟩
  · rw [← Step.idsOfLevels, ← not_iff_not, ← findStepNone, Option.not_isSome_iff_eq_none]

/-- In this script a loop decides whether to wait once or twice. -/
def chores : Script :=
  { Script.new "chores" "chores" .epoch with
    steps := [Step.newRepeat "loop" 2 [decision], Step.newWait "end" 5] }
where
  decision : Step :=
    Step.newBranch "decision" ⟨"day", .equals, "day"⟩ [Step.newWait "once" 5]
      [Step.newWait "first" 5, Step.newWait "second" 5]

theorem foundIffRemovedChores :
    (forestIds chores.steps).Nodup ∧ chores.findStep? "decision" = some chores.decision ∧
      ∃ after, chores.removeStep? "decision" .epoch = some (chores.decision, after) ∧
        CutOut chores chores.decision after ∧
        levels 0 after.steps = [(0, "loop"), (0, "end")] := by
  have distinct : (forestIds chores.steps).Nodup := by decide
  obtain ⟨isFound, isCut, -⟩ := foundIffRemoved chores distinct "decision" .epoch
  have removed : ∃ after, chores.removeStep? "decision" .epoch = some (chores.decision, after) ∧
      levels 0 after.steps = [(0, "loop"), (0, "end")] := ⟨_, rfl, by decide⟩
  obtain ⟨after, isRemoved, left⟩ := removed
  exact ⟨distinct, (isFound chores.decision).mpr ⟨after, isRemoved⟩, after, isRemoved,
    (isCut chores.decision after isRemoved).2.2, left⟩

end Script

end DeskScript
