/-
This file holds the program behind the command line, as a function on trees of files.
-/

import DeskScript.CommandLine.Listing
import DeskScript.CommandLine.Request
import DeskScript.Run.Interpreter
import DeskScript.Run.Engine
import DeskScript.Screen.Finder
import DeskScript.Settings

namespace DeskScript.CommandLine

/-- The program works on files, takes fresh identities, and starts at a time. -/
structure World where
  files : FileTree
  ids : IdSource
  now : Time.Timestamp

/-- The program ends with an exit code after it has written some texts. -/
structure Ending where
  exitCode : Nat
  written : String
  complaint : String
  /-- This is how long the program has worked, in milliseconds. -/
  duration : Nat

namespace Ending

def done (written : String) : Ending := ⟨0, written, "", 0⟩

/-- A complaint is one line. What has been written before stays. -/
def failed (written message : String) : Ending := ⟨1, written, "error: " ++ message ++ "\n", 0⟩

end Ending

/-! ### Messages with their causes -/

/-- A message is followed by the messages of its causes. -/
def withCauses (messages : List String) : String := ": ".intercalate messages

def documentMessages (fault : DocumentFault) : List String :=
  match fault with
  | .invalid cause => [fault.message, cause.message]
  | _ => [fault.message]

def libraryMessages (fault : LibraryFault) : List String :=
  match fault with
  | .files _ cause => [fault.message, cause.message]
  | .notFound _ => [fault.message]
  | .document _ cause => fault.message :: documentMessages cause

def settingsMessages (fault : SettingsFault) : List String :=
  match fault with
  | .read _ cause => [fault.message, cause.message]
  | _ => [fault.message]

/-- A failure while a file is loaded or written names the file first. -/
def loading (path : Path) : String := "loading " ++ path.text

def writing (path : Path) : String := "writing " ++ path.text

/-! ### Running -/

/-- Rules given on the command line replace those of the settings. -/
def RunRequest.config (request : RunRequest) (config : EngineConfig) : EngineConfig :=
  { config with
    failurePolicy := request.policy.getD config.failurePolicy
    runTimeout := (request.timeout.map UInt64.ofNat).or config.runTimeout
    pollInterval := (request.pollInterval.map UInt64.ofNat).getD config.pollInterval
    stepDelay := (request.stepDelay.map UInt64.ofNat).getD config.stepDelay }

/-- Images are looked for beside the script, or else in the place that the settings name. -/
def RunRequest.imageRoot (request : RunRequest) (settings : Settings) : Path :=
  match request.file.parent?.filter fun parent => parent.text ≠ "" with
  | some parent => parent
  | none => settings.assetRoot.getD ⟨"."⟩

/-- Without a screenshot there is nothing to look at. -/
def noScreen : Unavailable := ⟨"built without the \x60screen\x60 feature"⟩

def noInput : String :=
  "built without the \x60input\x60 feature; pass --dry-run to log actions instead"

/-- While a run goes on, images are kept and actions are listed. -/
structure DryRunState where
  actions : Array InputAction
  images : ImageCache

def pictureFiles (files : FileTree) : PictureFiles := fun path =>
  (PictureFile.read files path).mapError PictureFile.PictureFault.message

/-- The devices of a dry run look at a screenshot and do not do anything. -/
def dryRunDevices (finder : Option Finder) (files : FileTree) : Devices DryRunState where
  note state _ := (state, .immediate)
  input state action :=
    let (actions, answer) := dryRun state.actions action
    ({ state with actions }, answer)
  look state look :=
    match finder with
    | none => (state, .unavailable noScreen)
    | some finder =>
        let (images, found) := finder.look (pictureFiles files) state.images look
        ({ state with images }, Finder.answer found)

/-- A screenshot has to be readable before anything is done. -/
def finderFor (files : FileTree) (screenshot : Option Path) (root : Path) :
    Except String (Option Finder) :=
  match screenshot with
  | none => .ok none
  | some path =>
      match PictureFile.read files path with
      | .ok screen => .ok (some ⟨screen, .standard, none, some root⟩)
      | .error fault =>
          let unavailable : Unavailable :=
            ⟨"cannot read screenshot " ++ path.text ++ ": " ++ fault.message⟩
          .error unavailable.message

/-- Shells know a run that was aborted by this exit code. -/
def exitCodeOf : RunOutcome → Nat
  | .completed => 0
  | .aborted .. => 130
  | .failed .. => 1

/-- News are shown up to the end of the run. -/
def progress : List RunEvent → String
  | [] => ""
  | event :: rest => Listing.event event ++ if event.endsRun then "" else progress rest

/-- After a run its report is shown, and it may be written to a file. -/
def finishRun (world : World) (request : RunRequest) (shown : String) (report : RunReport) :
    World × Ending :=
  let duration := report.duration.toNat
  let shown := shown ++ Listing.report report
  let ending : Ending := ⟨exitCodeOf report.outcome, shown, "", duration⟩
  match request.traceFile with
  | none => (world, ending)
  | some path =>
      match world.files.write path report.toJson.pretty.toUTF8 with
      | .ok files =>
          ({ world with files }, { ending with
            written := shown ++ Listing.line ("Report written to " ++ path.text) })
      | .error fault =>
          (world, { Ending.failed shown (withCauses [writing path, fault.message]) with duration })

def runScript (world : World) (request : RunRequest) (settings : Settings) (finder : Option Finder)
    (script : Script) : World × Ending :=
  let place : Workplace DryRunState :=
    ⟨dryRunDevices finder world.files, request.config settings.engine, world.now⟩
  let (runId, ids) := world.ids.fresh
  let world := { world with ids }
  match (Engine.new place ⟨#[], .empty⟩).run script runId (Table.ofList request.overrides) with
  | (_, .error fault) => (world, .failed "" fault.message)
  | (engine, .ok report) =>
      let shown := if request.quiet then ""
        else Listing.line ("▶ " ++ request.file.text) ++ progress engine.feed.sent.toList
      finishRun world request shown report

def run (world : World) (request : RunRequest) (settings : Settings) : World × Ending :=
  match ScriptFile.read world.files world.ids world.now request.file with
  | .error fault => (world, .failed "" (withCauses (loading request.file :: libraryMessages fault)))
  | .ok (script, ids) =>
      let world := { world with ids }
      match finderFor world.files request.screenshot (request.imageRoot settings) with
      | .error message => (world, .failed "" message)
      | .ok finder =>
          if request.dryRun then runScript world request settings finder script
          else (world, .failed "" noInput)

/-! ### Checking and showing -/

def unboundWarning (name : String) : String :=
  Listing.line ("  ⚠ variable \x60" ++ name ++ "\x60 has no default; pass --var " ++ name ++ "=...")

def verdict (script : Script) : String :=
  let warnings := script.unboundNames.map unboundWarning
  (if warnings.isEmpty then Listing.line "✅ VALID"
    else Listing.line "⚠️  VALID WITH WARNINGS" ++ Listing.line "\nWarnings:" ++
      String.join warnings) ++
    Listing.line ("\n" ++ toString script.stepCount ++ " steps, nesting depth " ++
      toString script.maxDepth)

def validate (world : World) (file : Path) : Ending :=
  let title := Listing.line ("Validating " ++ file.text)
  match ScriptFile.read world.files world.ids world.now file with
  | .ok (script, _) => .done (title ++ verdict script)
  | .error fault =>
      { Ending.done (title ++ Listing.line "❌ INVALID" ++
        Listing.line ("  ✗ " ++ fault.message)) with exitCode := 1 }

def show_ (world : World) (file : Path) : Ending :=
  match ScriptFile.read world.files world.ids world.now file with
  | .ok (script, _) => .done (Listing.script script)
  | .error fault => .failed "" (withCauses (libraryMessages fault))

/-! ### Converting -/

/-- A format that was asked for counts more than the extension, but then nothing else is made. -/
def writeConverted (files : FileTree) (script : Script) (target : Path) :
    Option DocumentFormat → FileTree × Except String Unit
  | none =>
      let (files, outcome) := ScriptFile.write files script target
      (files, outcome.mapError fun fault => withCauses (libraryMessages fault))
  | some format =>
      match Document.save script format with
      | .error fault => (files, .error (withCauses (documentMessages fault)))
      | .ok text =>
          match files.write target text.toUTF8 with
          | .ok files => (files, .ok ())
          | .error fault => (files, .error (withCauses [writing target, fault.message]))

def convert (world : World) (origin target : Path) (format : Option DocumentFormat) :
    World × Ending :=
  match ScriptFile.read world.files world.ids world.now origin with
  | .error fault => (world, .failed "" (withCauses (loading origin :: libraryMessages fault)))
  | .ok (script, ids) =>
      let (files, outcome) := writeConverted world.files script target format
      let world := { world with files, ids }
      match outcome with
      | .ok () => (world, .done (Listing.line ("✓ " ++ origin.text ++ " -> " ++ target.text)))
      | .error message => (world, .failed "" message)

/-! ### Listing -/

/-- The library of a user is in the home directory. -/
def usualLibrary (home : Path) : Path := (home.join ".macroflow").join "macros"

def list (world : World) (root : Path) (asJson : Bool) : World × Ending :=
  let (files, outcome) := Library.open_ world.files root
  let world := { world with files }
  match outcome.bind fun library => library.list files world.ids world.now with
  | .error fault => (world, .failed "" (withCauses (libraryMessages fault)))
  | .ok found =>
      (world, .done (if asJson then
          Listing.line (Json.array (found.map Library.Summary.toJson)).pretty
        else Listing.library found))

/-! ### The program -/

def loadSettings (files : FileTree) (home given : Option Path) : Except SettingsFault Settings :=
  match given.or (home.map Settings.usualPath) with
  | some path => Settings.load files path
  | none => .ok .standard

def perform (world : World) (settings : Settings) (home : Option Path) :
    Command → World × Ending
  | .run request => run world request settings
  | .validate file => (world, validate world file)
  | .show_ file => (world, show_ world file)
  | .convert origin target format => convert world origin target format
  | .list directory asJson =>
      match (directory.or settings.libraryDirectory).or (home.map usualLibrary) with
      | some root => list world root asJson
      | none => (world, .failed "" "no library directory: pass --dir")
  | .readTexts .. => (world, .failed "" "text recognition needs the \x60screen\x60 feature")

def usage : String :=
  "Desktop macros gated by what is on screen\n\n" ++
  "Usage: macroflow [OPTIONS] <COMMAND>\n\n" ++
  "Commands:\n" ++
  "  run       Run a macro file\n" ++
  "  validate  Check a macro file for structural problems\n" ++
  "  show      Print a macro's step tree\n" ++
  "  convert   Re-encode a macro (also upgrades legacy files)\n" ++
  "  list      List macros stored in the library\n" ++
  "  ocr       Print recognized text from the screen or an image file\n" ++
  "  help      Print this message or the help of the given subcommand(s)\n\n" ++
  "Options:\n" ++
  "      --settings <SETTINGS>  Settings file (defaults to ~/.macroflow/settings.json) " ++
  "[env: MACROFLOW_SETTINGS=]\n" ++
  "  -h, --help                 Print help\n" ++
  "  -V, --version              Print version\n"

/-- Words that are refused end the program before anything is done. -/
def stopped : Stop → Ending
  | .help => .done usage
  | .version => .done (Listing.line "macroflow 0.3.0")
  | .refused => ⟨2, "", "error: the arguments are not valid\n\n" ++ usage, 0⟩

/-- This is the program: it reads its words, then the settings, and then does what was asked for. -/
def program (world : World) (environment : Table String) (words : List String) :
    World × Ending :=
  let home := (environment.find? "HOME").bind path?
  match Request.read environment words with
  | .error stop => (world, stopped stop)
  | .ok request =>
      match loadSettings world.files home request.settings with
      | .error fault => (world, .failed "" (withCauses (settingsMessages fault)))
      | .ok settings => perform world settings home request.command

end DeskScript.CommandLine
