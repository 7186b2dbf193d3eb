/-
This file shows that a probe and a branch that stand next to each other in a script are nowhere
apart, because no two steps of a script have the same identity.
-/

import DeskScript.Proofs.Run.ProbedBranch
import DeskScript.Proofs.Step.Forest
import Mathlib.Data.List.Nodup
import Mathlib.Data.List.Pairwise

namespace DeskScript

namespace Step

/-- Two steps stand next to each other in a list of steps or in a list in it. -/
inductive Neighbours (first second : Step) : List Step → Prop where
  | here {rest : List Step} : Neighbours first second (first :: second :: rest)
  | later {step : Step} {rest : List Step} (neighbours : Neighbours first second rest) :
      Neighbours first second (step :: rest)
  | inside {step : Step} {steps rest : List Step} (isList : steps ∈ step.lists)
      (neighbours : Neighbours first second steps) : Neighbours first second (step :: rest)

/-- The identities of the steps right inside a step and of those in them are among these. -/
theorem forestIdsSelf (step : Step) :
    forestIds [step] = step.id :: step.lists.flatMap forestIds := by
  cases step with
  | leaf header action => rfl
  | branch header condition whenTrue whenFalse =>
      rw [forestIdsBranch, lists, List.flatMap_cons, List.flatMap_singleton]
      rfl
  | loop header rule body =>
      rw [forestIdsLoop, lists, List.flatMap_singleton]
      rfl

theorem Neighbours.second {first second : Step} {steps : List Step}
    (neighbours : Neighbours first second steps) : second.id ∈ forestIds steps := by
  induction neighbours with
  | here =>
      rw [forestIdsCons, forestIdsCons second, forestIdsSelf second]
      exact List.mem_append_right _ (List.mem_append_left _ List.mem_cons_self)
  | later _ inductionHypothesis =>
      rw [forestIdsCons]
      exact List.mem_append_right _ inductionHypothesis
  | @inside step steps rest isList _ inductionHypothesis =>
      rw [forestIdsCons, forestIdsSelf]
      exact List.mem_append_left _ (List.mem_cons_of_mem _
        (List.mem_flatMap.mpr ⟨steps, isList, inductionHypothesis⟩))

end Step

namespace ProbedBranch

variable {pair : ProbedBranch}

theorem otherId {step : Step} (absent : pair.header.id ∉ Step.forestIds [step]) :
    step.id ≠ pair.header.id := by
  intro same
  rw [Step.forestIdsSelf, same] at absent
  exact absent List.mem_cons_self

mutual

/-- Where the branch does not occur there is nothing to guard. -/
theorem guardsWithin : ∀ step : Step, pair.header.id ∉ Step.forestIds [step] →
    ∀ steps ∈ step.lists, pair.Guards steps
  | .leaf _ _, _, steps, isList => absurd isList List.not_mem_nil
  | .branch header condition whenTrue whenFalse, absent, steps, isList => by
      have ofTrue := guardsFree whenTrue
      have ofFalse := guardsFree whenFalse
      rw [Step.forestIdsBranch, List.mem_cons, List.mem_append, not_or, not_or] at absent
      rcases List.mem_cons.mp isList with rfl | isList
      · exact ofTrue absent.2.1
      · rw [List.mem_singleton.mp isList]
        exact ofFalse absent.2.2
  | .loop header rule body, absent, steps, isList => by
      have ofBody := guardsFree body
      rw [Step.forestIdsLoop, List.mem_cons, not_or] at absent
      rw [List.mem_singleton.mp isList]
      exact ofBody absent.2

theorem guardsFree : ∀ steps : List Step, pair.header.id ∉ Step.forestIds steps →
    pair.Guards steps
  | [], _ => .nil
  | step :: rest, absent => by
      have within := guardsWithin step
      have further := guardsFree rest
      rw [Step.forestIdsCons, List.mem_append, not_or] at absent
      exact .other (otherId absent.1) (within absent.1) (further absent.2)

end

/-- Two lists in a step have no identities in common. -/
theorem listsApart {step : Step} (distinct : (Step.forestIds [step]).Nodup)
    {first second : List Step} (isFirst : first ∈ step.lists) (isSecond : second ∈ step.lists) (different : first ≠ second) :
    List.Disjoint (Step.forestIds first) (Step.forestIds second) := by
  rw [Step.forestIdsSelf, List.nodup_cons, List.nodup_flatMap] at distinct
  have symmetric : Std.Symm (Function.onFun List.Disjoint Step.forestIds) :=
    ⟨fun _ _ apart _ inSecond inFirst => apart inFirst inSecond⟩
  exact distinct.2.2.forall isFirst isSecond different

theorem guardsOfNeighbours {steps : List Step}
    (neighbours : Step.Neighbours pair.probeStep pair.branchStep steps)
    (distinct : (Step.forestIds steps).Nodup) : pair.Guards steps := by
  induction neighbours with
  | @here rest =>
      rw [Step.forestIdsCons, Step.forestIdsCons pair.branchStep] at distinct
      have behind := (List.nodup_append.mp distinct).2.1
      have inBranch : pair.header.id ∈ Step.forestIds [pair.branchStep] := by
        rw [Step.forestIdsSelf]
        exact List.mem_cons_self
      have ownIds := (List.nodup_append.mp behind).1
      rw [branchStep, Step.forestIdsBranch, List.nodup_cons, List.mem_append, not_or] at ownIds
      refine .pair (fun taken => ?_)
        (guardsFree rest (List.disjoint_of_nodup_append behind inBranch))
      cases taken with
      | whenTrue => exact guardsFree pair.whenTrue ownIds.1.1
      | whenFalse => exact guardsFree pair.whenFalse ownIds.1.2
  | @later step rest neighbours inductionHypothesis =>
      have inRest : pair.header.id ∈ Step.forestIds rest := neighbours.second
      rw [Step.forestIdsCons] at distinct
      have absent : pair.header.id ∉ Step.forestIds [step] := fun inStep =>
        List.disjoint_of_nodup_append distinct inStep inRest
      exact .other (otherId absent) (guardsWithin step absent)
        (inductionHypothesis (List.nodup_append.mp distinct).2.1)
  | @inside step steps rest isList neighbours inductionHypothesis =>
      have inSteps : pair.header.id ∈ Step.forestIds steps := neighbours.second
      rw [Step.forestIdsCons] at distinct
      have ownIds := (List.nodup_append.mp distinct).1
      have inLists : pair.header.id ∈ step.lists.flatMap Step.forestIds :=
        List.mem_flatMap.mpr ⟨steps, isList, inSteps⟩
      have inStep : pair.header.id ∈ Step.forestIds [step] := by
        rw [Step.forestIdsSelf]
        exact List.mem_cons_of_mem _ inLists
      have parts := ownIds
      rw [Step.forestIdsSelf, List.nodup_cons, List.nodup_flatMap] at parts
      have different : step.id ≠ pair.header.id := fun same => parts.1 (same ▸ inLists)
      refine .other different (fun others isOther => ?_)
        (guardsFree rest (List.disjoint_of_nodup_append distinct inStep))
      by_cases same : others = steps
      · rw [same]
        exact inductionHypothesis (parts.2.1 steps isList)
      · exact guardsFree others fun inOthers =>
          listsApart ownIds isOther isList same inOthers inSteps

end ProbedBranch

end DeskScript
