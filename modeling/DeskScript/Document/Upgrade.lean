/-
This file rewrites documents of the first version in the form of the second.
-/

import DeskScript.Placeholder
import DeskScript.Json.Printer
import DeskScript.Step.Basic
import DeskScript.Time.Reader

namespace DeskScript

/-- An upgrade fault tells why a document of the first version has no counterpart. -/
inductive UpgradeFault where
  | notAnObject
  | stepNotAnObject
  | noStepType
  | notAList (key : String)
  | loop (id : String)
  | stepType (type : String)
  | conditionType (type : String)
  | relativePoint (type origin : String)
  | noVariable (id : String)
  | region (found : Json)
  | timestamp (text : String)

def UpgradeFault.reason : UpgradeFault → String
  | .notAnObject => "\x60macro\x60 is not an object"
  | .stepNotAnObject => "step is not an object"
  | .noStepType => "step without \x60step_type\x60"
  | .notAList key => "\x60" ++ key ++ "\x60 is not a list"
  | .loop id => "loop step " ++ id ++ " references steps by id; rebuild it with a nested body"
  | .stepType type => "step type \x60" ++ type ++ "\x60 has no equivalent"
  | .conditionType type => "condition type \x60" ++ type ++ "\x60 has no equivalent"
  | .relativePoint type origin =>
      type ++ " relative to \x60" ++ origin ++ "\x60 has no absolute equivalent"
  | .noVariable id => "condition of step " ++ id ++ " names no variable"
  | .region found => "unreadable region " ++ found.compact
  | .timestamp text => "unreadable timestamp \x60" ++ text ++ "\x60"

namespace Upgrade

abbrev Members := List (String × Json)

abbrev Upgraded (α : Type) := Except UpgradeFault α

/-! ### Reading old members -/

def textOr (old : Members) (key fallback : String) : String :=
  ((Json.member? old key).bind Json.text?).getD fallback

def floatOr (old : Members) (key : String) (fallback : Float) : Float :=
  ((Json.member? old key).bind Json.float?).getD fallback

def flagOr (old : Members) (key : String) (fallback : Bool) : Bool :=
  ((Json.member? old key).bind Json.bool?).getD fallback

/-- A number is rounded to the nearest whole one, and a half away from zero. -/
def roundToWhole (value : Float) : Int := value.round.toInt64.toInt

/-- A missing number counts as zero. -/
def wholeOf (old : Members) (key : String) : Int :=
  roundToWhole (floatOr old key 0)

/-- Times were written in seconds. A time that is not positive counts as zero. -/
def milliseconds (old : Members) (key : String) (fallback : Float) : Nat :=
  let seconds := floatOr old key fallback
  if seconds.isFinite && 0 < seconds then (seconds * 1000).round.toUInt64.toNat else 0

/-- This is a value as the text of a variable. -/
def textOf : Json → String
  | .string text => text
  | .null => ""
  | found => found.compact

/-- A placeholder is a name in braces after a dollar sign. -/
def placeholder (name : String) : String := "$\x7b" ++ name ++ "\x7d"

/-! ### Parts of steps -/

/-- A retry that was asked for without a number is one retry. -/
def retries (old : Members) : Nat :=
  let written := match (Json.member? old "retry_count").bind Json.whole? with
    | some value => value.toNat
    | none => 0
  if textOr old "error_handling" "stop" = "retry" then max written 1 else written

/-- These are the members that steps of every type have. -/
def common (old : Members) (id : String) : Members :=
  let name := textOr old "name" ""
  let enabled := (Json.member? old "enabled").bind Json.bool?
  let handling := if textOr old "error_handling" "stop" = "continue" then "continue" else "stop"
  let retryCount := retries old
  (if id.isEmpty then [] else [("id", .string id)]) ++
    (if name.isEmpty then [] else [("label", .string name)]) ++
    (enabled.map fun enabled => ("enabled", .bool enabled)).toList ++
    [("on_error", .string handling)] ++
    if retryCount = 0 then [] else [("retry_count", .nat retryCount)]

/-- A point has to be relative to the screen. -/
def checkOrigin (old : Members) (type : String) : Upgraded Unit :=
  let origin := textOr old "relative_to" "screen"
  if origin = "screen" then .ok () else .error (.relativePoint type origin)

/-- What is not a number counts as zero. -/
def regionPart (found : Json) : Int :=
  roundToWhole (found.float?.getD 0)

/-- A region was written as a list of four numbers. -/
def region (old : Members) : Upgraded Members :=
  match Json.member? old "region" with
  | none => .ok []
  | some .null => .ok []
  | some (.array [x, y, width, height]) =>
      .ok [("region", .object [("x", .whole (regionPart x)), ("y", .whole (regionPart y)),
        ("width", .whole (max (regionPart width) 0)),
        ("height", .whole (max (regionPart height) 0))])]
  | some found => .error (.region found)

/-- A number outside 63 bits counts as zero. -/
def offsetPart (found : Json) : Json :=
  match found.whole? with
  | some value => if value < 2 ^ 63 then .whole value else .whole 0
  | none => .whole 0

/-- A text that was found was clicked on unless the step said otherwise. -/
def matchClick (old : Members) : Members :=
  if flagOr old "click_after_find" true then
    let offset := match Json.member? old "click_offset" with
      | some (.array [x, y]) => (offsetPart x, offsetPart y)
      | _ => (.whole 0, .whole 0)
    [("click_on_match", .object [("button", .string "left"), ("click_count", .whole 1),
      ("offset", .object [("x", offset.1), ("y", offset.2)])])]
  else []

/-- An old search took one look at the screen. -/
def snapshotTimeout : Json := .whole 1

/-! ### Steps without steps in them -/

def click (old : Members) : Upgraded Members := do
  checkOrigin old "mouse_click"
  return [("type", .string "mouse_click"), ("x", .whole (wholeOf old "x")),
    ("y", .whole (wholeOf old "y")), ("button", .string (textOr old "button" "left")),
    ("click_count", .whole (max (wholeOf old "clicks") 1))]

def move (old : Members) : Upgraded Members := do
  checkOrigin old "mouse_move"
  return [("type", .string "mouse_move"), ("x", .whole (wholeOf old "x")),
    ("y", .whole (wholeOf old "y")), ("duration_ms", .nat (milliseconds old "duration" 0))]

/-- Placeholders in a text were replaced unless the step said otherwise. -/
def keyboardType (old : Members) : Members :=
  let text := textOr old "text" ""
  let text := if flagOr old "use_variables" true then Template.upgrade text else text
  [("type", .string "keyboard_type"), ("text", .string text),
    ("interval_ms", .nat (milliseconds old "interval" 0))]

def hotkey (old : Members) : Members :=
  [("type", .string "keyboard_hotkey"), ("keys", (Json.member? old "keys").getD (.array []))]

def wait (old : Members) : Members :=
  [("type", .string "wait_time"), ("duration_ms", .nat (milliseconds old "seconds" 1))]

def waitImage (old : Members) : Upgraded Members := do
  return [("type", .string "wait_image"), ("template_ref", .string (textOr old "image_path" "")),
    ("timeout_ms", .nat (milliseconds old "timeout" 10)),
    ("confidence_threshold", .decimal (floatOr old "confidence" Step.imageThreshold))] ++
    (← region old)

/-- The text to search for came from a column of a table or from the step itself. -/
def searchQuery (old : Members) : String :=
  let column := textOr old "excel_column" ""
  if column.isEmpty then Template.upgrade (textOr old "search_text" "") else placeholder column

def searchText (old : Members) : Upgraded Members := do
  return [("type", .string "text_search"), ("query_text", .string (searchQuery old)),
    ("timeout_ms", snapshotTimeout), ("exact_match", .bool (flagOr old "exact_match" false)),
    ("confidence_threshold", .decimal (floatOr old "confidence" 0.5))] ++
    (← region old) ++ matchClick old

/-! ### Conditions -/

/-- A condition becomes a comparison, and possibly a step before it that looks at the screen. -/
structure UpgradedCondition where
  probe : List Json
  condition : Json

def comparison (id operator : String) (old : Members) : Upgraded UpgradedCondition :=
  let name := textOr old "variable" ""
  if name.isEmpty then .error (.noVariable id)
  else
    let right := textOf ((Json.member? old "compare_value").getD .null)
    .ok ⟨[], .object [("left", .string (placeholder name)), ("operator", .string operator),
      ("right", .string (Template.upgrade right))]⟩

/-- The probe of a condition is named after the first letters and digits of its identity. -/
def probeName (id : String) : String :=
  "probe_" ++ String.ofList ((id.toList.filter Char.isAlphanum).take 8)

/-- The probe fails quietly, and leaves its name without a value when it finds nothing. -/
def probe (id type : String) (members : Members) (old : Members) : Upgraded UpgradedCondition := do
  let name := probeName id
  let region ← region old
  let head : Members :=
    [("id", .string (id ++ "-probe")), ("label", .string (type ++ " probe")),
      ("on_error", .string "continue"), ("output_variable", .string name),
      ("timeout_ms", snapshotTimeout)]
  return ⟨[.object (head ++ members ++ region)],
    .object [("left", .string (placeholder name)), ("operator", .string "exists")]⟩

def imageProbe (old : Members) : Members :=
  [("type", .string "wait_image"), ("template_ref", .string (textOr old "image_path" "")),
    ("confidence_threshold", .decimal (floatOr old "confidence" Step.imageThreshold))]

def textProbe (old : Members) : Members :=
  [("type", .string "text_search"),
    ("query_text", .string (Template.upgrade (textOr old "text" ""))),
    ("exact_match", .bool (flagOr old "exact_match" false)),
    ("confidence_threshold", .decimal (floatOr old "confidence" Step.textThreshold))]

def condition (id : String) (step : Members) : Upgraded UpgradedCondition :=
  let type := textOr step "condition_type" "image_exists"
  let old := match Json.member? step "condition_value" with
    | some (.object members) => members
    | _ => []
  if type = "variable_equals" then comparison id "equals" old
  else if type = "variable_contains" then comparison id "contains" old
  else if type = "variable_greater" then comparison id "greater_than" old
  else if type = "variable_less" then comparison id "less_than" old
  else if type = "image_exists" then probe id type (imageProbe old) old
  else if type = "text_exists" then probe id type (textProbe old) old
  else .error (.conditionType type)

/-! ### Trees of steps -/

/-- The lists of steps in a step have been upgraded for every member that might be one. -/
abbrev Branches := List (String × Upgraded (List Json))

/-- A list that is missing is empty. -/
def branchOf (branches : Branches) (key : String) : Upgraded (List Json) :=
  (branches.lookup key).getD (.ok [])

def ifCondition (id : String) (old : Members) (branches : Branches) : Upgraded (List Json) := do
  let whenTrue ← branchOf branches "true_steps"
  let whenFalse ← branchOf branches "false_steps"
  let upgraded ← condition id old
  return upgraded.probe ++ [.object (common old id ++ [("type", .string "if_condition"),
    ("condition", upgraded.condition), ("true_branch", .array whenTrue),
    ("false_branch", .array whenFalse)])]

/-- These are the members that depend on the type of a step without steps in it. -/
def leaf (id type : String) (old : Members) : Upgraded Members :=
  if type = "mouse_click" then click old
  else if type = "mouse_move" then move old
  else if type = "keyboard_type" then .ok (keyboardType old)
  else if type = "keyboard_hotkey" then .ok (hotkey old)
  else if type = "wait_time" then .ok (wait old)
  else if type = "wait_image" then waitImage old
  else if type = "ocr_text" then searchText old
  else if type = "loop" then .error (.loop id)
  else .error (.stepType type)

def stepOfMembers (old : Members) (branches : Branches) : Upgraded (List Json) :=
  match (Json.member? old "step_type").bind Json.text? with
  | none => .error .noStepType
  | some type =>
      let id := textOr old "step_id" ""
      if type = "if_condition" then ifCondition id old branches
      else (leaf id type old).map fun members => [.object (common old id ++ members)]

mutual

/-- A condition on the screen becomes two steps, and every other step becomes one. -/
def step : Json → Upgraded (List Json)
  | .object old => stepOfMembers old (branchesOf old)
  | _ => .error .stepNotAnObject

def branchesOf : List (String × Json) → Branches
  | [] => []
  | (key, found) :: rest => (key, steps key found) :: branchesOf rest

def steps (key : String) : Json → Upgraded (List Json)
  | .null => .ok []
  | .array items => stepItems items
  | _ => .error (.notAList key)

def stepItems : List Json → Upgraded (List Json)
  | [] => .ok []
  | item :: rest =>
      match step item with
      | .error fault => .error fault
      | .ok first =>
          match stepItems rest with
          | .error fault => .error fault
          | .ok others => .ok (first ++ others)

end

/-! ### Documents -/

/-- A time without a zone is read as UTC. A script without a time was made now. -/
def timestamp (now : Time.Timestamp) (old : Members) (key : String) : Upgraded Json :=
  match (Json.member? old key).bind Json.text? with
  | none => .ok (.string now.offsetText)
  | some text =>
      match (Time.readStrict? text).or (Time.readNaive? text) with
      | some time => .ok (.string time.offsetText)
      | none => .error (.timestamp text)

def objectOf (old : Members) (key : String) : Members :=
  match Json.member? old key with
  | some (.object members) => members
  | _ => []

/-- The version of the program that made the document is kept with the metadata. -/
def metadata (old : Members) : Members :=
  objectOf old "metadata" ++ match (Json.member? old "version").bind Json.text? with
    | some version => [("legacy_version", .string version)]
    | none => []

/-- These are the steps of a document. A list that is missing is empty. -/
def scriptSteps (old : Members) : Upgraded (List Json) :=
  ((Json.member? old "steps").map (steps "steps")).getD (.ok [])

/-- This is the body of the document in the second version around its steps. -/
def scriptAround (now : Time.Timestamp) (old : Members) (steps : List Json) : Upgraded Json := do
  let id := (Json.member? old "macro_id").bind Json.text?
  let createdAt ← timestamp now old "created_at"
  let updatedAt ← timestamp now old "updated_at"
  let defaults := (objectOf old "variables").map fun (name, found) =>
    (name, Json.string (textOf found))
  return (Json.object ((id.map fun id => ("id", Json.string id)).toList ++
    [("name", .string (textOr old "name" "")),
      ("description", .string (textOr old "description" "")),
      ("created_at", createdAt), ("updated_at", updatedAt), ("steps", .array steps),
      ("variables", .object defaults), ("metadata", .object (metadata old))])).canonical

def script (now : Time.Timestamp) : Json → Upgraded Json
  | .object old => do scriptAround now old (← scriptSteps old)
  | _ => .error .notAnObject

end Upgrade

end DeskScript
