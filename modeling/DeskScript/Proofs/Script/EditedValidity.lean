/-
This file shows which edits keep a script valid. Moving steps always does, new steps have to fit in,
and the only step of a loop must not be removed.
-/

import DeskScript.Proofs.Script.Removal
import DeskScript.Proofs.Script.Validity
import Mathlib.Data.List.Nodup
import Mathlib.Data.List.Pairwise

namespace DeskScript

namespace Step

/-! ### Parents -/

/-- The steps of two lists are the outermost ones and their children if this is so of each list. -/
theorem permParents {first second : List Step}
    (ofFirst : (forest first).Perm (first ++ (forest first).flatMap children))
    (ofSecond : (forest second).Perm (second ++ (forest second).flatMap children)) :
    (forest (first ++ second)).Perm
      ((first ++ second) ++ (forest (first ++ second)).flatMap children) := by
  rw [forestAppend, List.flatMap_append]
  refine (ofFirst.append ofSecond).trans ?_
  rw [List.append_assoc, List.append_assoc]
  refine List.Perm.append_left first ?_
  rw [← List.append_assoc, ← List.append_assoc]
  exact List.perm_append_comm.append_right _

theorem permTree {tree : Step}
    (below : (forest tree.children).Perm
      (tree.children ++ (forest tree.children).flatMap children)) :
    (forest [tree]).Perm ([tree] ++ (forest [tree]).flatMap children) := by
  rw [forestTree, List.flatMap_cons]
  exact below.cons tree

mutual

theorem treeParents : ∀ tree : Step,
    (forest [tree]).Perm ([tree] ++ (forest [tree]).flatMap children)
  | .leaf .. => .refl _
  | .branch _ _ whenTrue whenFalse =>
      permTree (permParents (forestParents whenTrue) (forestParents whenFalse))
  | .loop _ _ body => permTree (forestParents body)

/-- Every step of a forest is one of the outermost steps or the child of exactly one step. -/
theorem forestParents : ∀ steps : List Step,
    (forest steps).Perm (steps ++ (forest steps).flatMap children)
  | [] => .refl _
  | tree :: rest => permParents (treeParents tree) (forestParents rest)

end

/-- No step is at two places of a forest where identities are different. -/
theorem placedOnce {steps : List Step} (distinct : (forestIds steps).Nodup) :
    (steps ++ (forest steps).flatMap children).Nodup :=
  (forestParents steps).nodup_iff.mp (List.Nodup.of_map _ distinct)

/-- An outermost step is nobody's child. -/
theorem noParent {steps : List Step} (distinct : (forestIds steps).Nodup) {step parent : Step}
    (outermost : step ∈ steps) (isParent : parent ∈ forest steps) : step ∉ parent.children := by
  intro below
  obtain ⟨-, -, apart⟩ := List.nodup_append.mp (placedOnce distinct)
  exact apart step outermost step (List.mem_flatMap.mpr ⟨parent, isParent, below⟩) rfl

theorem oneParent {steps : List Step} (distinct : (forestIds steps).Nodup)
    {step first second : Step} (isFirst : first ∈ forest steps) (isSecond : second ∈ forest steps)
    (inFirst : step ∈ first.children) (inSecond : step ∈ second.children) : first = second := by
  obtain ⟨-, ofParents, -⟩ := List.nodup_append.mp (placedOnce distinct)
  obtain ⟨-, apart⟩ := List.nodup_flatMap.mp ofParents
  by_contra different
  have symmetric : Std.Symm (Function.onFun List.Disjoint children) := ⟨fun _ _ => .symm⟩
  exact apart.forall isFirst isSecond different inFirst inSecond

/-! ### Putting a step in -/

theorem forestInsert (first second : List Step) (step : Step) :
    (forest (first ++ step :: second)).Perm (forest [step] ++ forest (first ++ second)) := by
  rw [forestAppend, forestCons, forestAppend]
  exact List.perm_append_comm_assoc _ _ _

/-- A step fits to other steps if it is valid and no identity would be there twice. -/
structure Fits (steps : List Step) (step : Step) : Prop where
  valid : step.validate = .ok ()
  distinct : (forestIds [step]).Nodup
  unused : ∀ id ∈ forestIds [step], id ∉ forestIds steps

theorem soundInsert (first second : List Step) (step : Step) :
    Sound (first ++ step :: second) ↔
      Sound (first ++ second) ∧ Fits (first ++ second) step := by
  have perm := forestInsert first second step
  have ids : (forestIds (first ++ step :: second)).Perm
      (forestIds [step] ++ forestIds (first ++ second)) := by
    rw [forestIds, forestIds, forestIds, ← List.map_append]
    exact perm.map _
  constructor
  · intro sound
    have each : ∀ inner ∈ forest [step] ++ forest (first ++ second), inner.checkOwn = .ok () :=
      fun inner inside => sound.each inner (perm.mem_iff.mpr inside)
    obtain ⟨valid, others⟩ := List.forall_mem_append.mp each
    obtain ⟨own, distinct, apart⟩ := List.nodup_append.mp (ids.nodup_iff.mp sound.distinct)
    exact ⟨⟨others, distinct⟩, step.validIff.mpr valid, own,
      fun id inside isUsed => apart id inside id isUsed rfl⟩
  · intro ⟨sound, fits⟩
    refine ⟨fun inner inside => ?_, ids.nodup_iff.mpr ?_⟩
    · rcases List.mem_append.mp (perm.mem_iff.mp inside) with inStep | inOthers
      · exact step.validIff.mp fits.valid inner inStep
      · exact sound.each inner inOthers
    · refine List.nodup_append.mpr ⟨fits.distinct, sound.distinct, ?_⟩
      rintro id inStep _ isUsed rfl
      exact fits.unused id inStep isUsed

/-! ### Taking a step out -/

/-- What is taken out of a list with no steps left was the only step. -/
theorem TakenOut.onlyStep {removed : Step} {before after : List Step}
    (taken : TakenOut removed before after) (empty : after = []) : before = [removed] := by
  cases taken with
  | here first second =>
      obtain ⟨rfl, rfl⟩ := List.append_eq_nil_iff.mp empty
      rfl
  | whenTrue | whenFalse | body | later => cases empty

/-- Nothing is left when the only step of a list is taken out. -/
theorem TakenOut.nothingLeft {removed : Step} {after : List Step}
    (taken : TakenOut removed [removed] after) : after = [] := by
  have none : Step.nodes after = 0 := by simpa using taken.nodes
  cases after with
  | nil => rfl
  | cons step rest =>
      rw [Step.nodes, forestCons, forestTree] at none
      cases (Multiset.coe_eq_zero _).mp none

/-- After a step was taken out of sound steps, only a loop may be wrong that has lost its body. -/
theorem TakenOut.soundOrEmptied {removed : Step} {before after whole : List Step}
    (taken : TakenOut removed before after) (within : forest before ⊆ whole)
    (sound : ∀ step ∈ whole, step.checkOwn = .ok ()) :
    ∀ step ∈ forest after, step.checkOwn = .ok () ∨
      ∃ header rule, step = .loop header rule [] ∧ .loop header rule [removed] ∈ whole := by
  induction taken with
  | here first second =>
      intro step inside
      refine .inl (sound step (within ?_))
      exact (forestInsert first second removed).mem_iff.mpr (List.mem_append_right _ inside)
  | whenTrue header condition whenFalse rest inside inductionHypothesis =>
      simp only [forestCons _ rest, forestBranch, List.append_subset, List.cons_subset] at within
      simp only [forestCons _ rest, forestBranch, List.forall_mem_append, List.forall_mem_cons]
      obtain ⟨⟨here, inTrue, inFalse⟩, inRest⟩ := within
      exact ⟨⟨.inl (branchSound (sound _ here)), inductionHypothesis inTrue,
        fun step inside => .inl (sound step (inFalse inside))⟩,
        fun step inside => .inl (sound step (inRest inside))⟩
  | whenFalse header condition whenTrue rest inside inductionHypothesis =>
      simp only [forestCons _ rest, forestBranch, List.append_subset, List.cons_subset] at within
      simp only [forestCons _ rest, forestBranch, List.forall_mem_append, List.forall_mem_cons]
      obtain ⟨⟨here, inTrue, inFalse⟩, inRest⟩ := within
      exact ⟨⟨.inl (branchSound (sound _ here)),
        fun step inside => .inl (sound step (inTrue inside)), inductionHypothesis inFalse⟩,
        fun step inside => .inl (sound step (inRest inside))⟩
  | @body body others header rule rest inside inductionHypothesis =>
      simp only [forestCons _ rest, forestLoop, List.append_subset, List.cons_subset] at within
      simp only [forestCons _ rest, forestLoop, List.forall_mem_append, List.forall_mem_cons]
      obtain ⟨⟨here, inBody⟩, inRest⟩ := within
      refine ⟨⟨?_, inductionHypothesis inBody⟩,
        fun step inside => .inl (sound step (inRest inside))⟩
      -- The check of a loop asks only whether there is anything in its body.
      by_cases empty : others = []
      · rw [inside.onlyStep empty] at here
        exact .inr ⟨header, rule, by rw [empty], here⟩
      · exact .inl (loopSound (sound _ here) empty)
  | later step behind inductionHypothesis =>
      rw [forestCons, List.append_subset] at within
      rw [forestCons, List.forall_mem_append]
      exact ⟨fun step inside => .inl (sound step (within.1 inside)), inductionHypothesis within.2⟩

/-- A step that is taken out was an outermost step, or a child whose parent loses it. -/
theorem TakenOut.fromParent {removed : Step} {before after : List Step}
    (taken : TakenOut removed before after) :
    removed ∈ before ∨ ∃ parent ∈ forest before, removed ∈ parent.children ∧
      ∀ header rule, parent = .loop header rule [removed] →
        .loop header rule [] ∈ forest after := by
  induction taken with
  | here first second => exact .inl (List.mem_append_right first List.mem_cons_self)
  | @whenTrue whenTrue others header condition whenFalse rest inside inductionHypothesis =>
      refine .inr ?_
      rcases inductionHypothesis with outermost | ⟨parent, isInside, isParent, emptied⟩
      · exact ⟨_, ofMemForest _ _ List.mem_cons_self, List.mem_append_left _ outermost, nofun⟩
      · exact ⟨parent, trueInForest _ _ _ _ _ isInside, isParent,
          fun header rule same => trueInForest _ _ _ _ _ (emptied header rule same)⟩
  | @whenFalse whenFalse others header condition whenTrue rest inside inductionHypothesis =>
      refine .inr ?_
      rcases inductionHypothesis with outermost | ⟨parent, isInside, isParent, emptied⟩
      · exact ⟨_, ofMemForest _ _ List.mem_cons_self, List.mem_append_right _ outermost, nofun⟩
      · exact ⟨parent, falseInForest _ _ _ _ _ isInside, isParent,
          fun header rule same => falseInForest _ _ _ _ _ (emptied header rule same)⟩
  | @body body others header rule rest inside inductionHypothesis =>
      refine .inr ?_
      rcases inductionHypothesis with outermost | ⟨parent, isInside, isParent, emptied⟩
      · refine ⟨_, ofMemForest _ _ List.mem_cons_self, outermost, ?_⟩
        rintro _ _ ⟨⟩
        rw [inside.nothingLeft]
        exact ofMemForest _ _ List.mem_cons_self
      · exact ⟨parent, bodyInForest _ _ _ _ isInside, isParent,
          fun header rule same => bodyInForest _ _ _ _ (emptied header rule same)⟩
  | later step behind inductionHypothesis =>
      rcases inductionHypothesis with outermost | ⟨parent, isInside, isParent, emptied⟩
      · exact .inl (List.mem_cons_of_mem _ outermost)
      · exact .inr ⟨parent, restInForest _ _ isInside, isParent,
          fun header rule same => restInForest _ _ (emptied header rule same)⟩

/-- A loop is still there after its only step was taken out, but it has no body any more. -/
theorem TakenOut.emptied {removed : Step} {before after : List Step}
    (taken : TakenOut removed before after) (distinct : (forestIds before).Nodup)
    {header : StepHeader} {rule : LoopRule} (isLoop : .loop header rule [removed] ∈ forest before) :
    .loop header rule [] ∈ forest after := by
  have inLoop : removed ∈ (Step.loop header rule [removed]).children := List.mem_singleton_self _
  rcases taken.fromParent with outermost | ⟨parent, isInside, isParent, emptied⟩
  · exact absurd inLoop (noParent distinct outermost isLoop)
  · exact emptied header rule (oneParent distinct isInside isLoop isParent inLoop)

/-- Taking a step out of sound steps leaves them sound if it was not the only step of a loop. -/
theorem TakenOut.sound {removed : Step} {before after : List Step}
    (taken : TakenOut removed before after) (sound : Sound before)
    (others : ∀ header rule, .loop header rule [removed] ∉ forest before) : Sound after where
  each step inside := by
    rcases taken.soundOrEmptied (List.Subset.refl _) sound.each step inside with
      isSound | ⟨header, rule, -, isLoop⟩
    · exact isSound
    · exact absurd isLoop (others header rule)
  distinct := sound.distinct.sublist taken.cutIds.sublist

end Step

namespace Script

open Step (Fits Sound TakenOut forest)

/-! ### Edited scripts -/

/-- Steps and time of a script have nothing to do with its names. -/
theorem WellNamed.edited {script : Script} (named : script.WellNamed) (steps : List Step)
    (now : Time.Timestamp) : { script with steps := steps, updatedAt := now }.WellNamed :=
  ⟨named.name, named.defaults⟩

theorem WellNamed.validWith {script : Script} (named : script.WellNamed) (steps : List Step)
    (now : Time.Timestamp) :
    { script with steps := steps, updatedAt := now }.validate = .ok () ↔ Sound steps :=
  (validIff _).trans (and_iff_right (named.edited steps now))

theorem sameStep {steps : List Step} (distinct : (Step.forestIds steps).Nodup)
    {first second : Step} (isFirst : first ∈ forest steps) (isSecond : second ∈ forest steps)
    (sameId : first.id = second.id) : first = second :=
  List.inj_on_of_nodup_map distinct isFirst isSecond sameId

/-- What is alone in a loop of a list is one of the steps of the list. -/
theorem onlyStepInForest {steps : List Step} {header : StepHeader} {rule : LoopRule} {step : Step}
    (isLoop : .loop header rule [step] ∈ forest steps) : step ∈ forest steps :=
  Step.childrenOfForest steps _ step isLoop (List.mem_singleton_self step)

/-- A script is refused for the loop that has lost its only step, and for nothing else. -/
theorem emptiedRefused {script : Script} (valid : script.validate = .ok ()) {removed : Step}
    {others : List Step} (taken : TakenOut removed script.steps others) {header : StepHeader}
    {rule : LoopRule} (isLoop : .loop header rule [removed] ∈ forest script.steps)
    (now : Time.Timestamp) :
    { script with steps := others, updatedAt := now }.validate =
      .error (.invalidField header.id .emptyBody) := by
  obtain ⟨named, sound⟩ := script.validIff.mp valid
  -- Every other step that may be wrong is a loop with the same step in it, hence the same loop.
  have onlyLoop {header' : StepHeader} {rule' : LoopRule}
      (isOther : .loop header' rule' [removed] ∈ forest script.steps) :
      Step.loop header' rule' [removed] = .loop header rule [removed] :=
    Step.oneParent sound.distinct isOther isLoop (List.mem_singleton_self removed)
      (List.mem_singleton_self removed)
  have faulty := Step.emptiedLoop (sound.each _ isLoop)
  have each : ∀ step ∈ forest others, step.checkOwn = .ok () ∨
      step.checkOwn = .error (.invalidField header.id .emptyBody) := by
    intro step inside
    refine (taken.soundOrEmptied (List.Subset.refl _) sound.each step inside).imp_right ?_
    rintro ⟨header', rule', rfl, isOther⟩
    cases onlyLoop isOther
    exact faulty
  have isRefused : Step.checkEach (Step.visitAll 0 others) =
      .error (.invalidField header.id .emptyBody) := by
    refine Step.eachFaulty (List.forall_mem_map.mp each) ?_
    obtain ⟨entry, isVisited, isLoop⟩ := List.mem_map.mp (taken.emptied sound.distinct isLoop)
    exact ⟨entry, isVisited, by rw [isLoop, faulty]⟩
  exact (named.edited others now).refused isRefused

/-- This is what an edit has to respect for a valid script to stay valid. -/
def Respects (script : Script) : Edit → Prop
  | .push step | .insert _ step => Fits script.steps step
  | .remove id => ∀ header rule step, .loop header rule [step] ∈ forest script.steps → step.id ≠ id
  | .move _ _ => True

theorem Edited.validIff {now : Time.Timestamp} {before after : Script} {change : Edit}
    {answer : Answer} (edited : Edited now before change after answer)
    (valid : before.validate = .ok ()) :
    after.validate = .ok () ↔ before.Respects change := by
  obtain ⟨named, sound⟩ := before.validIff.mp valid
  cases edited with
  | pushed step =>
      have ofInsert := Step.soundInsert before.steps [] step
      rw [List.append_nil] at ofInsert
      exact (named.validWith _ now).trans (ofInsert.trans (and_iff_right sound))
  | @inserted first second position step split place =>
      have ofInsert := Step.soundInsert first second step
      rw [← split] at ofInsert
      exact (named.validWith _ now).trans (ofInsert.trans (and_iff_right sound))
  | @removed step others taken =>
      constructor
      · intro isValid header rule other isLoop sameId
        cases sameStep sound.distinct (onlyStepInForest isLoop) taken.inside sameId
        rw [emptiedRefused valid taken isLoop now] at isValid
        cases isValid
      · exact fun respects => (named.validWith _ now).mpr
          (taken.sound sound fun header rule isLoop => respects header rule step isLoop rfl)
  | missing absent =>
      refine iff_of_true valid fun header rule other isLoop sameId => absent ?_
      exact sameId ▸ List.mem_map_of_mem (onlyStepInForest isLoop)
  | @moved origin target first second third fourth step split position sameOrder place =>
      rw [split, Step.soundInsert, sameOrder] at sound
      have soundAfter := (Step.soundInsert third fourth step).mpr sound
      exact iff_of_true ((named.validWith _ now).mpr soundAfter) trivial
  | unmoved outside => exact iff_of_true valid trivial

theorem Edited.refused {now : Time.Timestamp} {before after : Script} {answer : Answer}
    {step : Step} (edited : Edited now before (.remove step.id) after answer)
    (valid : before.validate = .ok ()) {header : StepHeader} {rule : LoopRule}
    (isLoop : .loop header rule [step] ∈ forest before.steps) :
    after.validate = .error (.invalidField header.id .emptyBody) := by
  generalize isChange : Edit.remove step.id = change at edited
  cases edited with
  | removed taken =>
      cases sameStep (distinctIds valid) (onlyStepInForest isLoop) taken.inside
        (Edit.remove.inj isChange)
      exact emptiedRefused valid taken isLoop now
  | missing absent =>
      cases isChange
      exact absurd (List.mem_map_of_mem (onlyStepInForest isLoop)) absent
  | pushed | inserted | moved | unmoved => cases isChange

/--
Moving a step keeps a script valid. Putting a step in does exactly if the step fits, and removing a
step does exactly if the step is not all that is in a loop. Otherwise the script is refused for this
loop.
-/
theorem editKeepsValid (script : Script) (valid : script.validate = .ok ()) (now : Time.Timestamp)
    (change : Edit) :
    ((script.edit now change).1.validate = .ok () ↔ script.Respects change) ∧
      ∀ header rule step, .loop header rule [step] ∈ forest script.steps →
        change = .remove step.id → (script.edit now change).1.validate =
          .error (.invalidField header.id .emptyBody) := by
  have edited := editEdited script now change
  refine ⟨edited.validIff valid, ?_⟩
  rintro header rule step isLoop rfl
  exact edited.refused valid isLoop

theorem editKeepsValidChores :
    chores.validate = .ok () ∧ (chores.edit .epoch (.move 1 0)).1.validate = .ok () ∧
      (chores.edit .epoch (.remove "decision")).1.validate =
        .error (.invalidField "loop" .emptyBody) := by
  have valid : chores.validate = .ok () := okOfToBool (by decide)
  have isLoop : .loop (Step.newHeader "loop") ⟨.count 2, max Step.loopLimit 2, none⟩
      [chores.decision] ∈ forest chores.steps := Step.ofMemForest _ _ List.mem_cons_self
  exact ⟨valid, (editKeepsValid chores valid .epoch (.move 1 0)).1.mpr trivial,
    (editKeepsValid chores valid .epoch (.remove "decision")).2 _ _ _ isLoop rfl⟩

end Script

end DeskScript
