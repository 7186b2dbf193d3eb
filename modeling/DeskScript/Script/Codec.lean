/-
This file writes scripts as JSON values and reads them.
-/

import DeskScript.Script.Basic
import DeskScript.Step.Codec
import DeskScript.Time.Reader

namespace DeskScript

def Shape.timestamp : Json → Shape.Result Time.Timestamp
  | .string text =>
      match Time.readRelaxed text with
      | .ok time => .ok time
      | .error .unreadable => .error .unreadableTime
      | .error .impossible => .error .impossibleTime
  | found => .error (.wrongType found "an RFC 3339 formatted date and time string")

namespace Script

/-- An empty description and empty metadata are left out. -/
def toJson (script : Script) : Json :=
  .object ([("id", .string script.id), ("name", .string script.name)] ++
    (if script.description.isEmpty then [] else [("description", .string script.description)]) ++
    [("created_at", .string script.createdAt.text), ("updated_at", .string script.updatedAt.text),
      ("steps", .array (Step.toJsonAll script.steps)), ("variables", .ofTexts script.defaults)] ++
    if script.metadata.entries.isEmpty then []
    else [("metadata", .object script.metadata.entries)])

/-- These are the fields of a script in their declared order. -/
def fieldNames : List String :=
  ["id", "name", "description", "created_at", "updated_at", "steps", "variables", "metadata"]

def ofJson (found : Json) : Shape.Result Script := do
  let fields ← Shape.Fields.of "struct Macro" fieldNames .document found
  let id := fields.required "id" Shape.text
  let name := fields.required "name" Shape.text
  let description := fields.optional "description" Shape.text ""
  let createdAt := fields.required "created_at" Shape.timestamp
  let updatedAt := fields.required "updated_at" Shape.timestamp
  let steps := fields.optional "steps" (Step.listOfJson .document) []
  let defaults := fields.optional "variables" (Shape.table Shape.text) .empty
  let metadata := fields.optional "metadata" (Shape.table Except.ok) .empty
  fields.settle [id.state, name.state, description.state, createdAt.state, updatedAt.state,
    steps.state, defaults.state, metadata.state]
  return ⟨← id.value, ← name.value, ← description.value, ← createdAt.value, ← updatedAt.value,
    ← steps.value, ← defaults.value, ← metadata.value⟩

/-- Two scripts are the same when they are written the same. -/
def same (first second : Script) : Bool :=
  first.toJson.same second.toJson

end Script

end DeskScript
