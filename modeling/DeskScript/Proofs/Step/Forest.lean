/-
This file lists all steps of a tree, shows how the list is made up, and tells which steps may run
while another step is open. A branching step is closed before the steps in it begin, but a loop stays
open around them.
-/

import DeskScript.Step.Basic

namespace DeskScript

namespace Step

/-! ### All steps of a list -/

/-- These are all steps of a list and the steps in them. -/
def forest (steps : List Step) : List Step := (visitAll 0 steps).map Prod.snd

def forestIds (steps : List Step) : List String := (forest steps).map Step.id

mutual

theorem visitDepth (depth other : Nat) : ∀ step : Step,
    (step.visit depth).map Prod.snd = (step.visit other).map Prod.snd
  | .leaf header action => rfl
  | .branch header condition whenTrue whenFalse => by
      simp only [visit, List.map_cons, List.map_append,
        visitAllDepth (depth + 1) (other + 1) whenTrue,
        visitAllDepth (depth + 1) (other + 1) whenFalse]
  | .loop header rule body => by
      simp only [visit, List.map_cons, visitAllDepth (depth + 1) (other + 1) body]

theorem visitAllDepth (depth other : Nat) : ∀ steps : List Step,
    (visitAll depth steps).map Prod.snd = (visitAll other steps).map Prod.snd
  | [] => rfl
  | step :: rest => by
      simp only [visitAll, List.map_append, visitDepth depth other step,
        visitAllDepth depth other rest]

end

theorem forestCons (step : Step) (rest : List Step) :
    forest (step :: rest) = forest [step] ++ forest rest := by
  simp [forest, visitAll]

theorem forestLeaf (header : StepHeader) (action : Action) :
    forest [.leaf header action] = [.leaf header action] := rfl

theorem forestBranch (header : StepHeader) (condition : Condition)
    (whenTrue whenFalse : List Step) :
    forest [.branch header condition whenTrue whenFalse] =
      .branch header condition whenTrue whenFalse :: (forest whenTrue ++ forest whenFalse) := by
  simp only [forest, visitAll, visit, List.append_nil, List.map_cons, List.map_append,
    visitAllDepth 1 0]

theorem forestLoop (header : StepHeader) (rule : LoopRule) (body : List Step) :
    forest [.loop header rule body] = .loop header rule body :: forest body := by
  simp only [forest, visitAll, visit, List.append_nil, List.map_cons, visitAllDepth 1 0]

theorem forestAppend (first second : List Step) :
    forest (first ++ second) = forest first ++ forest second := by
  induction first with
  | nil => rfl
  | cons step rest inductionHypothesis =>
      rw [List.cons_append, forestCons, inductionHypothesis, forestCons step rest,
        List.append_assoc]

theorem forestIdsCons (step : Step) (rest : List Step) :
    forestIds (step :: rest) = forestIds [step] ++ forestIds rest := by
  rw [forestIds, forestCons, List.map_append]
  rfl

theorem forestIdsAppend (first second : List Step) :
    forestIds (first ++ second) = forestIds first ++ forestIds second := by
  rw [forestIds, forestAppend, List.map_append]
  rfl

theorem forestIdsBranch (header : StepHeader) (condition : Condition)
    (whenTrue whenFalse : List Step) :
    forestIds [.branch header condition whenTrue whenFalse] =
      header.id :: (forestIds whenTrue ++ forestIds whenFalse) := by
  rw [forestIds, forestBranch, List.map_cons, List.map_append]
  rfl

theorem forestIdsLoop (header : StepHeader) (rule : LoopRule) (body : List Step) :
    forestIds [.loop header rule body] = header.id :: forestIds body := by
  rw [forestIds, forestLoop, List.map_cons]
  rfl

/-! ### Steps in steps -/

theorem restInForest (step : Step) (rest : List Step) : forest rest ⊆ forest (step :: rest) := by
  rw [forestCons]
  exact List.subset_append_right _ _

theorem trueInForest (header : StepHeader) (condition : Condition)
    (whenTrue whenFalse rest : List Step) :
    forest whenTrue ⊆ forest (.branch header condition whenTrue whenFalse :: rest) := by
  rw [forestCons, forestBranch]
  exact fun step inside =>
    List.mem_append_left _ (List.mem_cons_of_mem _ (List.mem_append_left _ inside))

theorem falseInForest (header : StepHeader) (condition : Condition)
    (whenTrue whenFalse rest : List Step) :
    forest whenFalse ⊆ forest (.branch header condition whenTrue whenFalse :: rest) := by
  rw [forestCons, forestBranch]
  exact fun step inside =>
    List.mem_append_left _ (List.mem_cons_of_mem _ (List.mem_append_right _ inside))

theorem bodyInForest (header : StepHeader) (rule : LoopRule) (body rest : List Step) :
    forest body ⊆ forest (.loop header rule body :: rest) := by
  rw [forestCons, forestLoop]
  exact fun step inside => List.mem_append_left _ (List.mem_cons_of_mem _ inside)

/-- These are the steps right inside a step. -/
def children : Step → List Step
  | .leaf _ _ => []
  | .branch _ _ whenTrue whenFalse => whenTrue ++ whenFalse
  | .loop _ _ body => body

/-- A tree is its root and the forest below. -/
theorem forestTree (tree : Step) : forest [tree] = tree :: forest tree.children := by
  cases tree with
  | leaf header action => rfl
  | branch header condition whenTrue whenFalse => rw [forestBranch, children, forestAppend]
  | loop header rule body => rw [forestLoop, children]

theorem ofMemForest (steps : List Step) (step : Step) (inside : step ∈ steps) :
    step ∈ forest steps := by
  obtain ⟨first, second, rfl⟩ := List.append_of_mem inside
  rw [forestAppend, forestCons, forestTree]
  exact List.mem_append_right _ (List.mem_append_left _ List.mem_cons_self)

mutual

/-- A forest holds the steps in each of its steps. -/
theorem childrenOfTree : ∀ (tree step child : Step), step ∈ forest [tree] →
    child ∈ step.children → child ∈ forest [tree]
  | .leaf header action, step, child, inside, below => by
      rw [forestLeaf, List.mem_singleton] at inside
      rw [inside] at below
      exact absurd below List.not_mem_nil
  | .branch header condition whenTrue whenFalse, step, child, inside, below => by
      rw [forestBranch, List.mem_cons, List.mem_append] at inside ⊢
      rcases inside with same | ofTrue | ofFalse
      · rw [same, children, List.mem_append] at below
        exact .inr (below.imp (ofMemForest whenTrue child) (ofMemForest whenFalse child))
      · exact .inr (.inl (childrenOfForest whenTrue step child ofTrue below))
      · exact .inr (.inr (childrenOfForest whenFalse step child ofFalse below))
  | .loop header rule body, step, child, inside, below => by
      rw [forestLoop, List.mem_cons] at inside ⊢
      rcases inside with same | ofBody
      · rw [same, children] at below
        exact .inr (ofMemForest body child below)
      · exact .inr (childrenOfForest body step child ofBody below)

theorem childrenOfForest : ∀ (steps : List Step) (step child : Step), step ∈ forest steps →
    child ∈ step.children → child ∈ forest steps
  | [], _, _, inside, _ => absurd inside List.not_mem_nil
  | tree :: rest, step, child, inside, below => by
      rw [forestCons, List.mem_append] at inside ⊢
      exact inside.imp (fun ofTree => childrenOfTree tree step child ofTree below)
        (fun ofRest => childrenOfForest rest step child ofRest below)

end

/-! ### Steps that may run while a step is open -/

mutual

/-- These are a step and the steps in it that are in none of its loops, with their depth. -/
def surface (depth : Nat) : Step → List (Nat × Step)
  | .leaf header action => [(depth, .leaf header action)]
  | .branch header condition whenTrue whenFalse =>
      (depth, .branch header condition whenTrue whenFalse) ::
        (surfaceAll (depth + 1) whenTrue ++ surfaceAll (depth + 1) whenFalse)
  | .loop header rule body => [(depth, .loop header rule body)]

def surfaceAll (depth : Nat) : List Step → List (Nat × Step)
  | [] => []
  | step :: rest => step.surface depth ++ surfaceAll depth rest

end

/-- These steps may run while a step is open. A step that is no loop is closed before the next. -/
def within (depth : Nat) : Step → List (Nat × Step)
  | .loop _ _ body => surfaceAll (depth + 1) body
  | _ => []

theorem surfaceSelf (depth : Nat) (step : Step) : (depth, step) ∈ step.surface depth := by
  cases step <;> simp [surface]

mutual

theorem surfaceVisited (depth : Nat) : ∀ step : Step, step.surface depth ⊆ step.visit depth
  | .leaf .. => by rw [surface, visit]; exact List.Subset.refl _
  | .branch _ _ whenTrue whenFalse => by
      have inTrue := surfaceAllVisited (depth + 1) whenTrue
      have inFalse := surfaceAllVisited (depth + 1) whenFalse
      rw [surface, visit]
      intro visited member
      simp only [List.mem_cons, List.mem_append] at member ⊢
      exact member.imp_right (Or.imp (inTrue ·) (inFalse ·))
  | .loop .. => by
      rw [surface, visit]
      intro visited member
      simp only [List.mem_cons, List.not_mem_nil, or_false] at member
      simp [member]

theorem surfaceAllVisited (depth : Nat) :
    ∀ steps : List Step, surfaceAll depth steps ⊆ visitAll depth steps
  | [] => by rw [surfaceAll]; exact List.nil_subset _
  | step :: rest => by
      have inStep := surfaceVisited depth step
      have inRest := surfaceAllVisited depth rest
      rw [surfaceAll, visitAll]
      intro visited member
      rw [List.mem_append] at member ⊢
      exact member.imp (inStep ·) (inRest ·)

end

mutual

theorem withinVisited (depth : Nat) : ∀ (step : Step) (visited : Nat × Step),
    visited ∈ step.visit depth → visited.2.within visited.1 ⊆ step.visit depth
  | .leaf .., visited, member => by
      rw [visit, List.mem_singleton] at member
      rw [member]
      exact List.nil_subset _
  | .branch _ _ whenTrue whenFalse, visited, member => by
      have inTrue := withinAllVisited (depth + 1) whenTrue visited
      have inFalse := withinAllVisited (depth + 1) whenFalse visited
      rw [visit, List.mem_cons, List.mem_append] at member
      rw [visit]
      obtain rfl | member | member := member
      · exact List.nil_subset _
      · exact fun other more => List.mem_cons_of_mem _ (List.mem_append_left _ (inTrue member more))
      · exact fun other more =>
          List.mem_cons_of_mem _ (List.mem_append_right _ (inFalse member more))
  | .loop _ _ body, visited, member => by
      have inBody := withinAllVisited (depth + 1) body visited
      rw [visit, List.mem_cons] at member
      rw [visit]
      obtain rfl | member := member
      · exact fun other more => List.mem_cons_of_mem _ (surfaceAllVisited (depth + 1) body more)
      · exact fun other more => List.mem_cons_of_mem _ (inBody member more)

theorem withinAllVisited (depth : Nat) : ∀ (steps : List Step) (visited : Nat × Step),
    visited ∈ visitAll depth steps → visited.2.within visited.1 ⊆ visitAll depth steps
  | [], visited, member => by
      rw [visitAll] at member
      cases member
  | step :: rest, visited, member => by
      have inStep := withinVisited depth step visited
      have inRest := withinAllVisited depth rest visited
      rw [visitAll, List.mem_append] at member
      rw [visitAll]
      obtain member | member := member
      · exact fun other more => List.mem_append_left _ (inStep member more)
      · exact fun other more => List.mem_append_right _ (inRest member more)

end

end Step

end DeskScript
