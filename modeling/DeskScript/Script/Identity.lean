/-
This file gives identities to the steps of a document that have none.
-/

import DeskScript.Json.Basic

namespace DeskScript

/-- An identity source draws identities by number, and counts those already used. -/
structure IdSource where
  draw : Nat → String
  used : Nat

namespace IdSource

/-- This function draws a fresh identity. -/
def fresh (source : IdSource) : String × IdSource :=
  (source.draw source.used, { source with used := source.used + 1 })

end IdSource

namespace Identity

/-- Steps are found in these members of a step. -/
def holdsSteps (key : String) : Bool :=
  key = "body" || key = "true_branch" || key = "false_branch"

/-- An object without an identity gets a fresh one. -/
def identify (members : List (String × Json)) (source : IdSource) :
    List (String × Json) × IdSource :=
  match Json.member? members "id" with
  | some _ => (members, source)
  | none => (putEntry "id" (.string source.fresh.1) members, source.fresh.2)

mutual

def identifyStep : Json → IdSource → Json × IdSource
  | .object members, source =>
      let (members, source) := identifyMembers members source
      let (members, source) := identify members source
      (.object members, source)
  | found, source => (found, source)

def identifyMembers : List (String × Json) → IdSource → List (String × Json) × IdSource
  | [], source => ([], source)
  | (key, found) :: rest, source =>
      let (found, source) := if holdsSteps key then identifySteps found source else (found, source)
      let (rest, source) := identifyMembers rest source
      ((key, found) :: rest, source)

def identifySteps : Json → IdSource → Json × IdSource
  | .array items, source =>
      let (items, source) := identifyItems items source
      (.array items, source)
  | found, source => (found, source)

def identifyItems : List Json → IdSource → List Json × IdSource
  | [], source => ([], source)
  | item :: rest, source =>
      let (item, source) := identifyStep item source
      let (rest, source) := identifyItems rest source
      (item :: rest, source)

end

/-- The outermost steps are found in one member of a script. -/
def identifyTop : List (String × Json) → IdSource → List (String × Json) × IdSource
  | [], source => ([], source)
  | (key, found) :: rest, source =>
      let (found, source) := if key = "steps" then identifySteps found source else (found, source)
      let (rest, source) := identifyTop rest source
      ((key, found) :: rest, source)

/--
A script may also be written as an array, in which the identity comes first and the steps come
sixth.
-/
def identifyScript : Json → IdSource → Json × IdSource
  | .object members, source =>
      let (members, source) := identifyTop members source
      let (members, source) := identify members source
      (.object members, source)
  | .array [], source => (.array [.string source.fresh.1], source.fresh.2)
  | .array items, source =>
      let (steps, source) := identifySteps (items.getD 5 .null) source
      (.array (items.set 5 steps), source)
  | found, source => (found, source)

end Identity

end DeskScript
