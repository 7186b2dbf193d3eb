/-
This file says what can be seen of a tree of steps in a document of either version: which steps are
where, with their identities and types. Probes can be put into an outline and taken out of it.
-/

import DeskScript.Document.Upgrade
import DeskScript.Proofs.Json.Canonical

namespace DeskScript

/--
The outline of a step is its identity, which is empty where none is written, its type, a mark, and
the outlines of the steps on both ways of a branch.
-/
inductive Outline (α : Type) where
  | step (id type : String) (mark : α) (whenTrue whenFalse : List (Outline α))

namespace Outline

/-! ### Probes -/

mutual

/-- A step whose mark names a type of probe gets a probe of this type right before it. -/
def probed : Outline (Option String) → List (Outline Bool)
  | .step id type mark whenTrue whenFalse =>
      (mark.map fun probe => .step (id ++ "-probe") probe true [] []).toList ++
        [.step id type false (probedAll whenTrue) (probedAll whenFalse)]

def probedAll : List (Outline (Option String)) → List (Outline Bool)
  | [] => []
  | outline :: rest => probed outline ++ probedAll rest

end

mutual

/-- Steps that are marked as probes are dropped. -/
def unprobed : Outline Bool → List (Outline Unit)
  | .step id type isProbe whenTrue whenFalse =>
      if isProbe then []
      else [.step id type () (unprobedAll whenTrue) (unprobedAll whenFalse)]

def unprobedAll : List (Outline Bool) → List (Outline Unit)
  | [] => []
  | outline :: rest => unprobed outline ++ unprobedAll rest

end

mutual

/-- The marks are forgotten. -/
def plain {α : Type} : Outline α → Outline Unit
  | .step id type _ whenTrue whenFalse =>
      .step id type () (plainAll whenTrue) (plainAll whenFalse)

def plainAll {α : Type} : List (Outline α) → List (Outline Unit)
  | [] => []
  | outline :: rest => plain outline :: plainAll rest

end

theorem unprobedAppend (first second : List (Outline Bool)) :
    unprobedAll (first ++ second) = unprobedAll first ++ unprobedAll second := by
  induction first with
  | nil => rfl
  | cons outline rest inductionHypothesis =>
      rw [List.cons_append, unprobedAll, unprobedAll, inductionHypothesis, List.append_assoc]

mutual

/-- What is left without the probes is what was there before they were put in. -/
theorem unprobedProbed : ∀ outline : Outline (Option String),
    unprobedAll (probed outline) = [plain outline]
  | .step id type mark whenTrue whenFalse => by
      have insideTrue := unprobedAllProbed whenTrue
      have insideFalse := unprobedAllProbed whenFalse
      rw [probed, unprobedAppend, plain]
      cases mark <;> simp [unprobedAll, unprobed, insideTrue, insideFalse]

theorem unprobedAllProbed : ∀ outlines : List (Outline (Option String)),
    unprobedAll (probedAll outlines) = plainAll outlines
  | [] => rfl
  | outline :: rest => by
      rw [probedAll, unprobedAppend, unprobedProbed outline, unprobedAllProbed rest, plainAll]
      rfl

end

/-! ### Reading -/

/-- A reader finds the parts of an outline among the members of a step. -/
structure Reader (α : Type) where
  id : List (String × Json) → String
  type : List (String × Json) → String
  mark : List (String × Json) → α
  trueKey : String
  falseKey : String

namespace Reader

variable {α : Type}

/-- Only a branch has further steps. -/
def way (reader : Reader α) (members : List (String × Json))
    (lists : List (String × List (Outline α))) (key : String) : List (Outline α) :=
  if reader.type members = "if_condition" then (lookUp? key lists).getD [] else []

mutual

/-- What is not an object has an outline without any parts. -/
def read (reader : Reader α) : Json → Outline α
  | .object members =>
      .step (reader.id members) (reader.type members) (reader.mark members)
        (reader.way members (readMembers reader members) reader.trueKey)
        (reader.way members (readMembers reader members) reader.falseKey)
  | _ => .step "" "" (reader.mark []) [] []

/-- These are the outlines in every member that might be a list of steps. -/
def readMembers (reader : Reader α) : List (String × Json) → List (String × List (Outline α))
  | [] => []
  | (key, found) :: rest => (key, readList reader found) :: readMembers reader rest

def readList (reader : Reader α) : Json → List (Outline α)
  | .array items => readItems reader items
  | _ => []

def readItems (reader : Reader α) : List Json → List (Outline α)
  | [] => []
  | item :: rest => read reader item :: readItems reader rest

end

theorem lookUpMembers (reader : Reader α) (key : String) (members : List (String × Json)) :
    lookUp? key (reader.readMembers members) =
      (Json.member? members key).map reader.readList := by
  induction members with
  | nil => rfl
  | cons head rest inductionHypothesis =>
      obtain ⟨first, found⟩ := head
      rw [readMembers, lookUp?, Json.member?, lookUp?]
      split
      · rfl
      · exact inductionHypothesis

theorem readItemsAppend (reader : Reader α) (first second : List Json) :
    reader.readItems (first ++ second) = reader.readItems first ++ reader.readItems second := by
  induction first with
  | nil => rfl
  | cons item rest inductionHypothesis =>
      rw [List.cons_append, readItems, readItems, inductionHypothesis, List.cons_append]

end Reader

/-! ### Both versions -/

/-- A text search was called by another name. -/
def counterpart (type : String) : String := if type = "ocr_text" then "text_search" else type

/-- The first version has a probe within a condition on the screen. This is its type. -/
def probeType (members : List (String × Json)) : Option String :=
  if Upgrade.textOr members "step_type" "" = "if_condition" then
    let type := Upgrade.textOr members "condition_type" "image_exists"
    if type = "image_exists" then some "wait_image"
    else if type = "text_exists" then some "text_search"
    else none
  else none

/-- This is how steps of the first version are read. -/
def old : Reader (Option String) where
  id members := Upgrade.textOr members "step_id" ""
  type members := counterpart (Upgrade.textOr members "step_type" "")
  mark := probeType
  trueKey := "true_steps"
  falseKey := "false_steps"

/-- This is how steps of the second version are read. Only probes have an output variable. -/
def new : Reader Bool where
  id members := Upgrade.textOr members "id" ""
  type members := Upgrade.textOr members "type" ""
  mark members := (Json.member? members "output_variable").isSome
  trueKey := "true_branch"
  falseKey := "false_branch"

/-- These are the steps of the body of a document. -/
def ofBody {α : Type} (reader : Reader α) : Json → List (Outline α)
  | .object members => ((Json.member? members "steps").map reader.readList).getD []
  | _ => []

end Outline

end DeskScript
