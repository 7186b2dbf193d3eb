/-
This file holds the settings of a user, which are kept in a file.
-/

import DeskScript.File.Tree
import DeskScript.Json.Part
import DeskScript.Run.Config

namespace DeskScript

/-- Settings give the rules of runs and the places of scripts and images. -/
structure Settings where
  engine : EngineConfig
  libraryDirectory : Option Path
  assetRoot : Option Path
  deriving DecidableEq

/-- A settings file cannot be read, understood or written. -/
inductive SettingsFault where
  | read (path : Path) (fault : FileFault)
  | syntax_ (path : Path)
  | shape (path : Path) (fault : ShapeFault)
  | write (path : Path) (fault : FileFault)

namespace SettingsFault

def message : SettingsFault → String
  | .read path fault => "Failed to read settings " ++ path.text ++ ": " ++ fault.message
  | .syntax_ path => "Malformed settings " ++ path.text ++ ": not well-formed JSON"
  | .shape path fault => "Malformed settings " ++ path.text ++ ": " ++ fault.message
  | .write path fault => "Failed to write settings " ++ path.text ++ ": " ++ fault.message

end SettingsFault

namespace Settings

def standard : Settings := ⟨.standard, none, none⟩

/-- The settings of a user are in the home directory. -/
def usualPath (home : Path) : Path := (home.join ".macroflow").join "settings.json"

/-! ### As text -/

def toJson (settings : Settings) : Json :=
  .object (("engine", settings.engine.toJson) ::
    ((settings.libraryDirectory.map fun path => ("library_dir", Json.string path.text)).toList ++
      (settings.assetRoot.map fun path => ("asset_root", Json.string path.text)).toList))

def pathOfJson : Json → Shape.Result Path
  | .string text => .ok ⟨text⟩
  | found => .error (.wrongType found "path string")

/-- Settings that are left out are the standard ones. -/
def ofJson (found : Json) : Shape.Result Settings := do
  let fields ← Shape.Fields.of "struct Settings" ["engine", "library_dir", "asset_root"] .text found
  let engine := fields.optional "engine" (EngineConfig.ofJson .text) .standard
  let libraryDirectory := fields.optional "library_dir" (Shape.optional pathOfJson) none
  let assetRoot := fields.optional "asset_root" (Shape.optional pathOfJson) none
  fields.settle [engine.state, libraryDirectory.state, assetRoot.state]
  return ⟨← engine.value, ← libraryDirectory.value, ← assetRoot.value⟩

/-- This is the part of a settings text that means something. -/
def meaningfulPart : Json.Part :=
  .members [("engine", .members (EngineConfig.fieldNames.map fun name => (name, .whole))),
    ("library_dir", .whole), ("asset_root", .whole)]

/--
Settings are read as their text comes, so what means nothing need not have a value. Where the
settings cannot be read, a text that is no JSON counts as the cause before anything else.
-/
def ofText (path : Path) (text : String) : Except SettingsFault Settings :=
  match (Json.parsePart? meaningfulPart text).map ofJson with
  | none => .error (.syntax_ path)
  | some (.ok settings) => .ok settings
  | some (.error fault) =>
      .error (if (Json.read? text).isSome then .shape path fault else .syntax_ path)

/-! ### In a file -/

/-- Without a file the settings are the standard ones. -/
def load (tree : FileTree) (path : Path) : Except SettingsFault Settings :=
  match tree.readText path with
  | .error .missing => .ok standard
  | .error fault => .error (.read path fault)
  | .ok text => ofText path text

/-- This function makes the directories around a file that are missing. -/
def makeRoom (tree : FileTree) (path : Path) : FileTree × Except FileFault Unit :=
  match path.parent? with
  | none => (tree, .ok ())
  | some parent => tree.makeDirectories parent

def save (tree : FileTree) (settings : Settings) (path : Path) :
    FileTree × Except SettingsFault Unit :=
  match makeRoom tree path with
  | (tree, .error fault) => (tree, .error (.write path fault))
  | (tree, .ok ()) =>
      match tree.write path settings.toJson.pretty.toUTF8 with
      | .error fault => (tree, .error (.write path fault))
      | .ok tree => (tree, .ok ())

end Settings

end DeskScript
