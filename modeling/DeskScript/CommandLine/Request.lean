/-
This file says what can be asked for on the command line, and reads the lengths of time that a user
writes there.
-/

import DeskScript.CommandLine.Words
import DeskScript.Decimal.Reader
import DeskScript.Document.Codec
import DeskScript.File.Path
import DeskScript.Geometry
import DeskScript.Run.Config
import DeskScript.Text.Blank
import DeskScript.Text.Letter

namespace DeskScript

inductive DurationFault where
  | noNumber (text : String)
  | badNumber (text : String)
  | negative (text : String)
  | unknownUnit (unit : String)
  deriving DecidableEq

def DurationFault.message : DurationFault → String
  | .noNumber text => "No numeric value in duration: " ++ text
  | .badNumber text => "Invalid number in duration: " ++ text
  | .negative text => "Duration must be a non-negative number: " ++ text
  | .unknownUnit unit => "Unknown time unit: " ++ unit

namespace DurationReader

/-- These are the names of the units with their lengths in milliseconds. -/
def units : List (List String × Nat) :=
  [(["ms", "millis", "milliseconds", ""], 1),
    (["s", "sec", "secs", "second", "seconds"], 1000),
    (["m", "min", "mins", "minute", "minutes"], 60000),
    (["h", "hr", "hrs", "hour", "hours"], 3600000)]

def unit? (name : String) : Option Nat :=
  (units.find? fun entry => entry.1.contains name).map Prod.snd

/-- Milliseconds are counted with 64 bits, and what is more counts as the greatest number. -/
def greatest : Nat := 2 ^ 64 - 1

def wholeMilliseconds (value : Float) : Nat :=
  match Decimal.Dyadic.ofFloat? value with
  | some number => min number.nearestWhole.toNat greatest
  | none => greatest

/--
A length is a number and a unit, or a number of milliseconds. The number ends where the first
letter stands.
-/
def read (input : String) : Except DurationFault Nat :=
  let text := Text.trimChars input.toList
  match Decimal.natBelow? 10 (2 ^ 64) text with
  | some milliseconds => .ok milliseconds
  | none =>
      let number := Text.trimChars (text.takeWhile fun character => !Text.isLetter character)
      let unit := String.ofList
        (Text.trimChars (text.dropWhile fun character => !Text.isLetter character))
      if number.isEmpty then .error (.noNumber (String.ofList text))
      else
        match Decimal.float? number with
        | none => .error (.badNumber (String.ofList number))
        | some value =>
            if !value.isFinite || value < 0 then .error (.negative (String.ofList text))
            else
              match unit? unit with
              | none => .error (.unknownUnit unit)
              | some length => .ok (wholeMilliseconds (value * (UInt64.ofNat length).toFloat))

end DurationReader

namespace CommandLine

/-- A run may replace rules of the settings. Times are in milliseconds. -/
structure RunRequest where
  file : Path
  overrides : List (String × String)
  policy : Option FailurePolicy
  timeout : Option Nat
  pollInterval : Option Nat
  stepDelay : Option Nat
  dryRun : Bool
  screenshot : Option Path
  traceFile : Option Path
  quiet : Bool

inductive Command where
  | run (request : RunRequest)
  | validate (file : Path)
  | show_ (file : Path)
  | convert (origin target : Path) (format : Option DocumentFormat)
  | list (directory : Option Path) (asJson : Bool)
  | readTexts (region : Option Rect) (image : Option Path)

/-- A command may come with a settings file. -/
structure Request where
  settings : Option Path
  command : Command

/-! ### Values of options -/

def path? (text : String) : Option Path := if text = "" then none else some ⟨text⟩

/-- The name of a variable ends at the first equals sign and is trimmed. -/
def binding? (text : String) : Option (String × String) :=
  match (text.toList.dropWhile (· ≠ '=')).tail? with
  | none => none
  | some value =>
      let name := Text.trimChars (text.toList.takeWhile (· ≠ '='))
      if name.isEmpty then none else some (String.ofList name, String.ofList value)

def policy? (text : String) : Option FailurePolicy :=
  [("skip", .skipAndContinue), ("abort", .abortOnFailure)].lookup text

def format? (text : String) : Option DocumentFormat :=
  [("json", .json), ("yaml", .yaml)].lookup text

def duration? (text : String) : Option Nat := (DurationReader.read text).toOption

/-- A region is given by its left and upper edge and its size, which is not zero. -/
def region? (text : String) : Option Rect :=
  match (text.splitOn ",").map fun part => Text.trimChars part.toList with
  | [x, y, width, height] => do
      let x ← Decimal.intWithin? 10 (2 ^ 31) x
      let y ← Decimal.intWithin? 10 (2 ^ 31) y
      let width ← Decimal.natBelow? 10 (2 ^ 32) width
      let height ← Decimal.natBelow? 10 (2 ^ 32) height
      if width = 0 ∨ height = 0 then none
      else some ⟨Int32.ofInt x, Int32.ofInt y, UInt32.ofNat width, UInt32.ofNat height⟩
  | _ => none

/-! ### Grammars -/

def valued {value : Type} (name : String) (letter : Option Char) (reader : String → Option value)
    (standIn : Option String) : OptionRule :=
  ⟨name, letter, .value fun text => (reader text).isSome, standIn⟩

def flagged (name : String) (letter : Option Char) : OptionRule := ⟨name, letter, .flag, none⟩

/-- The settings file can be given before and after the name of the command. -/
def settingsRule : OptionRule := valued "settings" none path? (some "MACROFLOW_SETTINGS")

def topGrammar : Grammar := ⟨[settingsRule], 0, true, true⟩

def commandGrammar (operands : Nat) (options : List OptionRule) : Grammar :=
  ⟨options ++ [settingsRule], operands, false, false⟩

def runOptions : List OptionRule :=
  [⟨"var", some 'v', .values fun text => (binding? text).isSome, none⟩,
    valued "policy" none policy? (some "MACROFLOW_POLICY"),
    valued "timeout" none duration? (some "MACROFLOW_TIMEOUT"),
    valued "poll-interval" none duration? (some "MACROFLOW_POLL_INTERVAL"),
    valued "step-delay" none duration? (some "MACROFLOW_STEP_DELAY"), flagged "dry-run" none,
    valued "screenshot" none path? none, valued "trace-out" none path? none,
    flagged "quiet" (some 'q')]

def grammars : List (String × Grammar) :=
  [("run", commandGrammar 1 runOptions), ("validate", commandGrammar 1 []),
    ("show", commandGrammar 1 []),
    ("convert", commandGrammar 2 [valued "format" (some 'f') format? none]),
    ("list", commandGrammar 0 [valued "dir" (some 'd') path? none, flagged "json" none]),
    ("ocr", commandGrammar 0 [valued "region" (some 'r') region? none,
      valued "image" none path? none])]

/-! ### Requests -/

def Words.read? {value : Type} (words : Words) (name : String) (reader : String → Option value) :
    Option value :=
  (words.value? name).bind reader

def runRequest (file : Path) (words : Words) : RunRequest where
  file := file
  overrides := (words.values "var").filterMap binding?
  policy := words.read? "policy" policy?
  timeout := words.read? "timeout" duration?
  pollInterval := words.read? "poll-interval" duration?
  stepDelay := words.read? "step-delay" duration?
  dryRun := words.has "dry-run"
  screenshot := words.read? "screenshot" path?
  traceFile := words.read? "trace-out" path?
  quiet := words.has "quiet"

/-- A command is refused when operands are missing. -/
def command? (name : String) (words : Words) : Option Command :=
  match name, words.operands.map Path.mk with
  | "run", [file] => some (.run (runRequest file words))
  | "validate", [file] => some (.validate file)
  | "show", [file] => some (.show_ file)
  | "convert", [origin, target] => some (.convert origin target (words.read? "format" format?))
  | "list", [] => some (.list (words.read? "dir" path?) (words.has "json"))
  | "ocr", [] => some (.readTexts (words.read? "region" region?) (words.read? "image" path?))
  | _, _ => none

/-- Help can be asked for with the names of commands. -/
def helpFor (names : List String) : Stop :=
  match names with
  | [] => .help
  | [name] => if name = "help" || (grammars.lookup name).isSome then .help else .refused
  | _ => .refused

namespace Request

/--
The words after the name of the command belong to the command. A settings file given among them
counts most, and one given by the environment counts least.
-/
def read (environment : Table String) (given : List String) : Except Stop Request := do
  let outer ← topGrammar.take none .empty given
  match outer.rest with
  | [] => throw .refused
  | "help" :: names => throw (helpFor names)
  | name :: rest =>
      match grammars.lookup name with
      | none => throw .refused
      | some grammar =>
          let own ← grammar.take none .empty rest
          let inner ← grammar.complete environment own
          let _ ← topGrammar.complete environment outer
          match command? name inner with
          | none => throw .refused
          | some command =>
              let settings := ((own.value? "settings").or (outer.value? "settings")).or
                (inner.value? "settings")
              return ⟨settings.bind path?, command⟩

end Request

end CommandLine

end DeskScript
