/-
This file holds scripts and the operations that edit them.
-/

import DeskScript.Step.Validity
import DeskScript.Time.Timestamp

namespace DeskScript

/-- A script is a tree of steps with the values that its variables start with. -/
structure Script where
  id : String
  name : String
  description : String
  createdAt : Time.Timestamp
  updatedAt : Time.Timestamp
  steps : List Step
  defaults : Table String
  metadata : Table Json

namespace Step

/-! ### Finding and removing -/

/-- This function removes the first step with an identity from a list, but looks into no step. -/
def removeHere (id : String) : List Step → Option (Step × List Step)
  | [] => none
  | step :: rest =>
      if step.id = id then some (step, rest)
      else (removeHere id rest).map fun (removed, rest) => (removed, step :: rest)

mutual

/-- The steps of a list are looked at before the steps in them. -/
def removeInside (id : String) : Step → Option (Step × Step)
  | .leaf _ _ => none
  | .branch header condition whenTrue whenFalse =>
      match (removeHere id whenTrue).or (removeBelow id whenTrue) with
      | some (removed, whenTrue) => some (removed, .branch header condition whenTrue whenFalse)
      | none =>
          match (removeHere id whenFalse).or (removeBelow id whenFalse) with
          | some (removed, whenFalse) => some (removed, .branch header condition whenTrue whenFalse)
          | none => none
  | .loop header rule body =>
      match (removeHere id body).or (removeBelow id body) with
      | some (removed, body) => some (removed, .loop header rule body)
      | none => none

/-- This function removes a step from inside one of the steps of a list. -/
def removeBelow (id : String) : List Step → Option (Step × List Step)
  | [] => none
  | step :: rest =>
      match removeInside id step with
      | some (removed, step) => some (removed, step :: rest)
      | none =>
          match removeBelow id rest with
          | some (removed, rest) => some (removed, step :: rest)
          | none => none

end

/-- This function removes a step from wherever it is in a list of steps. -/
def removeFrom (id : String) (steps : List Step) : Option (Step × List Step) :=
  (removeHere id steps).or (removeBelow id steps)

end Step

namespace Script

/-- A new script has no steps yet. -/
def new (id name : String) (now : Time.Timestamp) : Script :=
  ⟨id, name, "", now, now, [], .empty, .empty⟩

def withSteps (script : Script) (steps : List Step) : Script :=
  { script with steps := steps }

def withVariable (script : Script) (name value : String) : Script :=
  { script with defaults := script.defaults.put name value }

/-! ### Views -/

/-- These are all steps with their depth, every step before the ones in it. -/
def visit (script : Script) : List (Nat × Step) :=
  Step.visitAll 0 script.steps

def stepCount (script : Script) : Nat := script.visit.length

/-- This is the number of levels of the tree of steps. -/
def maxDepth (script : Script) : Nat :=
  script.visit.foldl (fun depth (level, _) => max depth (level + 1)) 0

def findStep? (script : Script) (id : String) : Option Step :=
  (script.visit.find? fun (_, step) => step.id = id).map Prod.snd

/-- These are the names in placeholders anywhere in a script. -/
def referencedVariables (script : Script) : List String :=
  script.visit.foldl (fun names (_, step) =>
    step.templates.foldl (fun names template =>
      Template.addNames names (Template.placeholders template)) names) []

def usesType (script : Script) (type : StepType) : Bool :=
  script.visit.any fun (_, step) => step.stepType = type

/-! ### Editing -/

/-- Editing a script changes the time of its last update. -/
def touch (script : Script) (now : Time.Timestamp) : Script :=
  { script with updatedAt := now }

def pushStep (script : Script) (step : Step) (now : Time.Timestamp) : Script :=
  { script with steps := script.steps ++ [step] }.touch now

/-- A position beyond the end means the end. -/
def insertStep (script : Script) (position : Nat) (step : Step) (now : Time.Timestamp) : Script :=
  let steps := script.steps.take position ++ step :: script.steps.drop position
  { script with steps := steps }.touch now

/-- This function removes the step with an identity, if there is one. -/
def removeStep? (script : Script) (id : String) (now : Time.Timestamp) : Option (Step × Script) :=
  (Step.removeFrom id script.steps).map fun (removed, steps) =>
    (removed, { script with steps := steps }.touch now)

/-- This function moves a step of the outermost list. Both positions have to exist. -/
def moveStep? (script : Script) (origin target : Nat) (now : Time.Timestamp) : Option Script :=
  match script.steps[origin]? with
  | none => none
  | some step =>
      if target < script.steps.length then
        let others := script.steps.eraseIdx origin
        let steps := others.take target ++ step :: others.drop target
        some ({ script with steps := steps }.touch now)
      else none

/-! ### Validity -/

/-- A variable that cannot be written in a placeholder is refused. -/
def isVariableName (name : String) : Bool :=
  !Text.isBlankText name && !name.toList.contains '\x7d'

/-- This is the first text that occurs a second time. -/
def firstRepeated (seen : List String) : List String → Option String
  | [] => none
  | id :: rest => if seen.contains id then some id else firstRepeated (id :: seen) rest

/-- A valid script has a name, usable variables and valid steps with different identities. -/
def validate (script : Script) : Except StepFault Unit :=
  if Text.isBlankText script.name then .error .emptyName
  else
    match script.defaults.keys.find? fun name => !isVariableName name with
    | some name => .error (.variableName name)
    | none =>
        match Step.checkEach script.visit with
        | .error fault => .error fault
        | .ok () =>
            match firstRepeated [] (script.visit.map fun (_, step) => step.id) with
            | some id => .error (.duplicateId id)
            | none => .ok ()

end Script

end DeskScript
