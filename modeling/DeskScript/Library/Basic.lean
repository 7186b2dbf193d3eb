/-
This file reads scripts from files and writes them to files, and holds a library of scripts, which
is a directory with their files and with backups.
-/

import DeskScript.Document.Codec
import DeskScript.File.Tree
import DeskScript.Text.Case
import DeskScript.Text.Letter

namespace DeskScript

/-! ### Script files -/

/-- An operation on script files fails because of the files or because of a document in them. -/
inductive LibraryFault where
  | files (path : Path) (fault : FileFault)
  | notFound (path : Path)
  | document (path : Path) (fault : DocumentFault)

namespace LibraryFault

def message : LibraryFault → String
  | .files path fault => "I/O error on " ++ path.text ++ ": " ++ fault.message
  | .notFound path => "Macro file not found: " ++ path.text
  | .document path fault => path.text ++ ": " ++ fault.message

end LibraryFault

namespace FileTree

/-- A fault of the file system is told with the path at which it was met. -/
def at_ {result : Type} (path : Path) (outcome : Except FileFault result) :
    Except LibraryFault result :=
  outcome.mapError (.files path)

end FileTree

namespace ScriptFile

def formatOf (path : Path) : DocumentFormat := .ofExtension path.extension?

/-- This function reads a script from a file. -/
def read (tree : FileTree) (ids : IdSource) (now : Time.Timestamp) (path : Path) :
    Except LibraryFault (Script × IdSource) :=
  match tree.read path with
  | .error .missing => .error (.notFound path)
  | .error fault => .error (.files path fault)
  | .ok content => (Document.load ids now content).mapError (.document path)

/-- The new content is written to this file first, which then takes the script file's name. -/
def temporary (path : Path) : Path := path.withExtension "tmp"

/-- Missing directories around the file are made. -/
def makeRoom (tree : FileTree) (path : Path) : FileTree × Except LibraryFault Unit :=
  match path.parent?.filter fun parent => !parent.text.isEmpty with
  | none => (tree, .ok ())
  | some parent =>
      let (tree, outcome) := tree.makeDirectories parent
      (tree, FileTree.at_ parent outcome)

/-- A script that cannot be written as a document leaves all files as they are. -/
def write (tree : FileTree) (script : Script) (path : Path) :
    FileTree × Except LibraryFault Unit :=
  match Document.save script (formatOf path) with
  | .error fault => (tree, .error (.document path fault))
  | .ok text =>
      match makeRoom tree path with
      | (tree, .error fault) => (tree, .error fault)
      | (tree, .ok ()) =>
          match tree.write (temporary path) text.toUTF8 with
          | .error fault => (tree, .error (.files (temporary path) fault))
          | .ok written =>
              match written.rename (temporary path) path with
              | .error fault => (written, .error (.files path fault))
              | .ok renamed => (renamed, .ok ())

end ScriptFile

/-! ### Libraries -/

/-- A library keeps a number of backups of every file. -/
structure Library where
  root : Path
  backupLimit : Nat

namespace Library

/-- A library keeps this many backups unless it is told otherwise. -/
def usualBackupLimit : Nat := 10

/-- This function makes the directory of a library if it is missing. -/
def open_ (tree : FileTree) (root : Path) : FileTree × Except LibraryFault Library :=
  match tree.makeDirectories root with
  | (tree, .ok ()) => (tree, .ok ⟨root, usualBackupLimit⟩)
  | (tree, .error fault) => (tree, .error (.files root fault))

/-! ### Names of files -/

/-- Characters that could mean something else in a file name are replaced. -/
def nameCharacter (character : Char) : Char :=
  if Text.isLetterOrDigit character || character = '-' || character = '_' then character else '_'

/-- The start of an identity is enough in a file name. -/
def shortId (id : String) : List Char :=
  (id.toList.filter (· ≠ '-')).take 8

/-- A file is named for the name of its script and the start of its identity. -/
def fileName (script : Script) (format : DocumentFormat) : String :=
  String.ofList (script.name.toList.map nameCharacter ++ '_' :: shortId script.id) ++ "." ++
    format.extension

def pathFor (library : Library) (script : Script) (format : DocumentFormat) : Path :=
  library.root.join (fileName script format)

/-! ### Backups -/

def backupDirectory (library : Library) : Path := library.root.join "backups"

/-- Names of backups start with the stem of the file. -/
def backupPrefix (path : Path) : String := path.stem?.getD "macro" ++ "_backup_"

def startsWith (start text : String) : Bool := start.toList.isPrefixOf text.toList

/-- These are the backups of a file from the oldest to the newest. -/
def backupsOf (library : Library) (tree : FileTree) (path : Path) :
    Except LibraryFault (List Path) :=
  let directory := library.backupDirectory
  if !tree.exists_ directory then .ok []
  else do
    let names ← FileTree.at_ directory (tree.children directory)
    return (names.filter (startsWith (backupPrefix path))).map directory.join

/-- A backup is named after its file and the time at which it is made. -/
def backupName (path : Path) (now : Time.Timestamp) : String :=
  backupPrefix path ++ now.stamp ++ "." ++ path.extension?.getD "json"

def backupPath (library : Library) (path : Path) (now : Time.Timestamp) : Path :=
  library.backupDirectory.join (backupName path now)

/-- A backup that cannot be removed stays. -/
def removeIfPossible (tree : FileTree) (path : Path) : FileTree :=
  match tree.remove path with
  | .ok tree => tree
  | .error _ => tree

/-- The oldest backups beyond the limit are removed. -/
def prune (library : Library) (tree : FileTree) (backups : List Path) : FileTree :=
  (backups.take (backups.length - library.backupLimit)).foldl removeIfPossible tree

/-- This function copies a file to a new backup. -/
def backup (library : Library) (tree : FileTree) (now : Time.Timestamp) (path : Path) :
    FileTree × Except LibraryFault Unit :=
  match tree.makeDirectories library.backupDirectory with
  | (tree, .error fault) => (tree, .error (.files library.backupDirectory fault))
  | (tree, .ok ()) =>
      let target := library.backupPath path now
      match tree.copy path target with
      | .error fault => (tree, .error (.files target fault))
      | .ok tree =>
          match library.backupsOf tree path with
          | .error fault => (tree, .error fault)
          | .ok backups => (library.prune tree backups, .ok ())

/-- A file that is there already is backed up. -/
def backupIfPresent (library : Library) (tree : FileTree) (now : Time.Timestamp) (path : Path) :
    FileTree × Except LibraryFault Unit :=
  if tree.exists_ path then library.backup tree now path else (tree, .ok ())

/-! ### Scripts -/

/-- A file that is replaced is backed up first. -/
def saveTo (library : Library) (tree : FileTree) (now : Time.Timestamp) (script : Script)
    (path : Path) : FileTree × Except LibraryFault Unit :=
  match library.backupIfPresent tree now path with
  | (tree, .error fault) => (tree, .error fault)
  | (tree, .ok ()) => ScriptFile.write tree script path

/-- This function saves a script to the file that is named for it. -/
def save (library : Library) (tree : FileTree) (now : Time.Timestamp) (script : Script) :
    FileTree × Except LibraryFault Path :=
  let path := library.pathFor script .json
  let (tree, outcome) := library.saveTo tree now script path
  (tree, outcome.map fun () => path)

/-- The answer is false if there was no such file. -/
def delete (library : Library) (tree : FileTree) (now : Time.Timestamp) (path : Path)
    (keepBackup : Bool) : FileTree × Except LibraryFault Bool :=
  if !tree.exists_ path then (tree, .ok false)
  else
    match if keepBackup then library.backup tree now path else (tree, .ok ()) with
    | (tree, .error fault) => (tree, .error fault)
    | (tree, .ok ()) =>
        match tree.remove path with
        | .ok tree => (tree, .ok true)
        | .error fault => (tree, .error (.files path fault))

/-- A script from elsewhere is saved with a fresh identity. -/
def import_ (library : Library) (tree : FileTree) (ids : IdSource) (now : Time.Timestamp)
    (path : Path) : FileTree × Except LibraryFault (Script × Path × IdSource) :=
  match ScriptFile.read tree ids now path with
  | .error fault => (tree, .error fault)
  | .ok (script, ids) =>
      let (id, ids) := ids.fresh
      let script := { script with id := id }.touch now
      let (tree, outcome) := library.save tree now script
      (tree, outcome.map fun target => (script, target, ids))

/-! ### Listing -/

/-- A summary tells what a list of scripts shows of one of them. -/
structure Summary where
  path : Path
  id : String
  name : String
  description : String
  stepCount : Nat
  createdAt : Time.Timestamp
  updatedAt : Time.Timestamp
  deriving DecidableEq

namespace Summary

def ofScript (path : Path) (script : Script) : Summary :=
  ⟨path, script.id, script.name, script.description, script.stepCount, script.createdAt,
    script.updatedAt⟩

def toJson (summary : Summary) : Json :=
  .object ([("path", .string summary.path.text), ("id", .string summary.id),
      ("name", .string summary.name)] ++
    (if summary.description.isEmpty then []
      else [("description", .string summary.description)]) ++
    [("step_count", .nat summary.stepCount), ("created_at", .string summary.createdAt.text),
      ("updated_at", .string summary.updatedAt.text)])

/-- These are the fields of a summary in their declared order. -/
def fieldNames : List String :=
  ["path", "id", "name", "description", "step_count", "created_at", "updated_at"]

def ofJson (found : Json) : Shape.Result Summary := do
  let fields ← Shape.Fields.of "struct MacroSummary" fieldNames .document found
  let path := fields.required "path" Shape.text
  let id := fields.required "id" Shape.text
  let name := fields.required "name" Shape.text
  let description := fields.optional "description" Shape.text ""
  let stepCount := fields.required "step_count" Shape.size
  let createdAt := fields.required "created_at" Shape.timestamp
  let updatedAt := fields.required "updated_at" Shape.timestamp
  fields.settle [path.state, id.state, name.state, description.state, stepCount.state,
    createdAt.state, updatedAt.state]
  return ⟨⟨← path.value⟩, ← id.value, ← name.value, ← description.value,
    (← stepCount.value).toNat, ← createdAt.value, ← updatedAt.value⟩

/-- Summaries come from the script that was updated last to the one that was updated first. -/
def comesFirst (first second : Summary) : Bool := !first.updatedAt.isBefore second.updatedAt

end Summary

def isScriptName (path : Path) : Bool :=
  match path.extension?.map Text.asciiLower with
  | some extension => extension = "json" || extension = "yaml" || extension = "yml"
  | none => false

/-- Files that hold no readable script are left out. -/
def summary? (tree : FileTree) (ids : IdSource) (now : Time.Timestamp) (path : Path) :
    Option Summary :=
  if tree.isFile path && isScriptName path then
    match ScriptFile.read tree ids now path with
    | .ok (script, _) => some (.ofScript path script)
    | .error _ => none
  else none

/-- These are the scripts of a library, and of those updated at one time in the order of paths. -/
def list (library : Library) (tree : FileTree) (ids : IdSource) (now : Time.Timestamp) :
    Except LibraryFault (List Summary) := do
  let names ← FileTree.at_ library.root (tree.children library.root)
  let found := names.filterMap fun name => summary? tree ids now (library.root.join name)
  return found.mergeSort Summary.comesFirst

end Library

end DeskScript
