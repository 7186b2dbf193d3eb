/-
This file writes scripts, runs and libraries as lines of text for a reader.
-/

import DeskScript.Library.Basic
import DeskScript.Match.Basic
import DeskScript.Run.Trace

namespace DeskScript.Listing

/-- Deeper lines are indented by two blanks for every level. -/
def indent (level : Nat) : String := String.ofList (List.replicate (2 * level) ' ')

def line (text : String) : String := text ++ "\n"

/-! ### Scripts -/

/-- These are the words that tell what a step does. -/
def describe : Step → String
  | .leaf _ (.click x y button _) =>
      " " ++ button.tag ++ " at (" ++ x.text ++ ", " ++ y.text ++ ")"
  | .leaf _ (.move x y _) => " to (" ++ x.text ++ ", " ++ y.text ++ ")"
  | .leaf _ (.type text _) => " " ++ Text.quoted text
  | .leaf _ (.hotkey keys) => " " ++ "+".intercalate keys
  | .leaf _ (.wait duration) => " " ++ toString duration.toNat ++ "ms"
  | .leaf _ (.waitImage template sensing) =>
      " " ++ template ++ " (timeout " ++ toString sensing.timeout.toNat ++ "ms)"
  | .leaf _ (.searchText query _ sensing) =>
      " " ++ Text.quoted query ++ " (timeout " ++ toString sensing.timeout.toNat ++ "ms)"
  | .branch _ condition _ _ => " if " ++ condition.text
  | .loop _ rule _ =>
      match rule.mode with
      | .count times => " x" ++ toString times.toNat
      | .while_ condition =>
          " while " ++ condition.text ++ " (max " ++ toString rule.limit.toNat ++ ")"

def stepLine (level : Nat) (step : Step) : String :=
  let name := if step.header.enabled then step.displayName else step.displayName ++ " (disabled)"
  line (indent level ++ "• " ++ name ++ describe step)

mutual

def stepLines (level : Nat) : Step → String
  | .leaf header action => stepLine level (.leaf header action)
  | .branch header condition whenTrue whenFalse =>
      stepLine level (.branch header condition whenTrue whenFalse) ++
        line (indent level ++ "  then:") ++ allStepLines (level + 2) whenTrue ++
        if whenFalse.isEmpty then ""
        else line (indent level ++ "  else:") ++ allStepLines (level + 2) whenFalse
  | .loop header rule body =>
      stepLine level (.loop header rule body) ++ allStepLines (level + 1) body

def allStepLines (level : Nat) : List Step → String
  | [] => ""
  | step :: rest => stepLines level step ++ allStepLines level rest

end

/-- A script is shown with its variables and its tree of steps. -/
def script (script : Script) : String :=
  line (script.name ++ " [" ++ script.id ++ "]") ++
    (if script.description.isEmpty then "" else line ("  " ++ script.description)) ++
    (if script.defaults.entries.isEmpty then ""
      else line "\nVariables:" ++ String.join (script.defaults.entries.map fun (name, value) =>
        line ("  " ++ name ++ " = " ++ Text.quoted value))) ++
    line "\nSteps:" ++ allStepLines 1 script.steps

/-! ### Runs -/

def outcomeMark : StepOutcome → String
  | .success | .branch _ | .loop _ false => "✓"
  | .loop _ true => "⚠"
  | .skip => "⏭"
  | .timeout | .error | .aborted => "✗"

def attemptsNote (attempts : UInt32) : String :=
  if 1 < attempts then " after " ++ toString attempts.toNat ++ " attempts" else ""

/-- An entry is shown with its attempts, its error and the names that were not bound. -/
def entry (entry : TraceEntry) : String :=
  let start := indent (entry.depth + 1).toNat
  line (start ++ outcomeMark entry.outcome ++ " " ++ entry.text ++ attemptsNote entry.attempts ++
      (entry.error.map fun error => " (" ++ error ++ ")").getD "") ++
    if entry.unresolved.isEmpty then ""
    else line (start ++ "  ⚠ unresolved: " ++ ", ".intercalate entry.unresolved)

def warningLine (warning : LoopWarning) : String := line ("  ⚠ " ++ warning.message)

/-- Only finished steps and warnings are shown while a run goes on. -/
def event (event : RunEvent) : String :=
  match event.news with
  | .stepFinished found => entry found
  | .warning warning => warningLine warning
  | _ => ""

def outcomeTitle : RunOutcome → String
  | .completed => "✅ COMPLETED"
  | .aborted .. => "⏹  ABORTED"
  | .failed .. => "❌ FAILED"

/-- Lengths of runs are shown in seconds with two places. -/
def seconds (milliseconds : Int) : String :=
  Decimal.fixedPlaces 2 (floatOfWhole milliseconds / 1000) ++ "s"

def report (report : RunReport) : String :=
  let problems := report.problems
  line "" ++
    line (outcomeTitle report.outcome ++ " " ++ report.scriptName ++ " in " ++
      seconds report.duration) ++
    (if report.outcome.isCompleted then "" else line ("  " ++ report.outcome.text)) ++
    (if problems.isEmpty then ""
      else line "\nProblems:" ++ String.join (problems.map fun entry =>
        line ("  ✗ " ++ entry.text))) ++
    (if report.warnings.isEmpty then ""
      else line "\nWarnings:" ++ String.join (report.warnings.map warningLine)) ++
    line ("\n" ++ toString report.trace.length ++ " steps recorded, " ++
      toString problems.length ++ " problem(s)")

/-! ### Libraries -/

def summary (summary : Library.Summary) : String :=
  line (summary.name ++ " (" ++ toString summary.stepCount ++ " steps, updated " ++
      summary.updatedAt.minuteText ++ ") " ++ summary.path.text) ++
    if summary.description.isEmpty then "" else line ("  " ++ summary.description)

def library (found : List Library.Summary) : String :=
  if found.isEmpty then line "No macros found" else String.join (found.map summary)

/-! ### Texts on the screen -/

/-- Numbers are filled up with blanks in front. -/
def padBlanks (width : Nat) (value : Int) : String :=
  let digits := Decimal.intDigits value
  String.ofList (List.replicate (width - digits.length) ' ' ++ digits)

def foundText (found : Match Float) : String :=
  line ("(" ++ padBlanks 5 found.center.x.toInt ++ ", " ++ padBlanks 5 found.center.y.toInt ++
    ") " ++ found.label ++ " " ++ Decimal.fixedPlaces 2 found.confidence)

def foundTexts (found : List (Match Float)) : String :=
  if found.isEmpty then line "No text recognized" else String.join (found.map foundText)

end DeskScript.Listing
