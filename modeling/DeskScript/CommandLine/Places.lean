/-
This file says which files the program may look at, so that they can be read beforehand.
-/

import DeskScript.CommandLine.Program

namespace DeskScript.CommandLine

/-- A place is a single file, a directory with scripts, or a directory with images at any depth. -/
inductive Place where
  | file (path : Path)
  | scripts (directory : Path)
  | images (directory : Path)
  deriving DecidableEq

/-- These are the places that a command may look at. -/
def places (settings : Settings) (home : Option Path) : Command → List Place
  | .run request =>
      [.file request.file, .images (request.imageRoot settings)] ++
        (request.screenshot.map Place.file).toList ++ (request.traceFile.map Place.file).toList
  | .validate file => [.file file]
  | .show_ file => [.file file]
  | .convert origin target _ => [.file origin, .file target]
  | .list directory _ =>
      (((directory.or settings.libraryDirectory).or (home.map usualLibrary)).map
        Place.scripts).toList
  | .readTexts .. => []

/-- This test asks whether a file in a place is of the kind that is read from there. -/
def Place.wants : Place → Path → Bool
  | .file _, _ => true
  | .scripts _, path => Library.isScriptName path
  | .images _, path => PictureFile.isPictureName path

def Place.path : Place → Path
  | .file path => path
  | .scripts directory => directory
  | .images directory => directory

/-- This test asks whether directories in a place are looked into. -/
def Place.isDeep : Place → Bool
  | .images _ => true
  | _ => false

/-- A change makes the files outside the program like the tree that it left. -/
inductive Change where
  | write (location : Location) (content : ByteArray)
  | makeDirectory (location : Location)
  | remove (location : Location)

def FileEntry.same : FileEntry → FileEntry → Bool
  | .directory, .directory => true
  | .file first, .file second => first.data = second.data
  | _, _ => false

def locationOf (entryKey : String) : Location := Path.segments entryKey

/-- An entry that is as it was needs no change. -/
def changeFor (before : FileTree) (entryKey : String) (entry : FileEntry) : Option Change :=
  if (before.entries.find? entryKey).any (FileEntry.same entry) then none
  else
    match entry with
    | .file content => some (.write (locationOf entryKey) content)
    | .directory => some (.makeDirectory (locationOf entryKey))

/-- Directories are made before what is in them, and files are removed last. -/
def changes (before after : FileTree) : List Change :=
  (after.entries.entries.filterMap fun (entryKey, entry) => changeFor before entryKey entry) ++
    (before.entries.keys.filter fun entryKey => !(after.entries.find? entryKey).isSome).map
      fun entryKey => .remove (locationOf entryKey)

end DeskScript.CommandLine
