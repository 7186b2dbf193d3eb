/-
This file holds the program that is run from a shell. It reads the files that a command may look
at, and afterwards it changes them as the command has changed its tree of files.
-/

import DeskScript.CommandLine.Places
import DeskScript.Script.RandomId
import Std.Time.DateTime.Timestamp

namespace DeskScript.CommandLine

def outsidePath (location : Location) : String := "/" ++ "/".intercalate location

def isOutsideDirectory (location : Location) : IO Bool := do
  ((← IO.currentDir) / outsidePath location).isDir

/-- What is not there, or cannot be read, stays out of the tree. -/
def readEntry (tree : FileTree) (location : Location) : IO FileTree := do
  if location.isEmpty then return tree
  else if ← isOutsideDirectory location then return tree.put location .directory
  else
    try
      return tree.put location (.file (← IO.FS.readBinFile (outsidePath location)))
    catch _ => return tree

/-- The directories around an entry are read as well. -/
def readAround (tree : FileTree) (location : Location) : IO FileTree :=
  (List.range location.length).foldlM
    (fun tree count => readEntry tree (location.take (count + 1))) tree

partial def readBelow (place : Place) (tree : FileTree) (location : Location) : IO FileTree := do
  if ← isOutsideDirectory location then
    let entries ← ((← IO.currentDir) / outsidePath location).readDir
    entries.foldlM (fun tree entry => do
      let inner := location ++ [entry.fileName]
      if ← isOutsideDirectory inner then
        let tree ← readEntry tree inner
        if place.isDeep then readBelow place tree inner else return tree
      else if place.wants ⟨entry.fileName⟩ then readEntry tree inner
      else return tree) tree
  else return tree

def readPlace (tree : FileTree) (place : Place) : IO FileTree := do
  let location := tree.location place.path
  let tree ← readAround tree location
  match place with
  | .file _ => return tree
  | _ => readBelow place tree location

def perform_ : Change → IO Unit
  | .write location content => IO.FS.writeBinFile (outsidePath location) content
  | .makeDirectory location => IO.FS.createDirAll (outsidePath location)
  | .remove location => IO.FS.removeFile (outsidePath location)

/-- These are the variables of the environment that the program knows. -/
def variableNames : List String :=
  ["HOME", "MACROFLOW_SETTINGS", "MACROFLOW_POLICY", "MACROFLOW_TIMEOUT",
    "MACROFLOW_POLL_INTERVAL", "MACROFLOW_STEP_DELAY"]

def readEnvironment : IO (Table String) :=
  variableNames.foldlM (fun table name => do
    match ← IO.getEnv name with
    | some value => return table.put name value
    | none => return table) .empty

def currentTime : IO Time.Timestamp := do
  let now ← Std.Time.Timestamp.now
  let nanoseconds := now.toNanosecondsSinceUnixEpoch.val
  return ⟨nanoseconds / 1000000000, (nanoseconds % 1000000000).toNat⟩

def randomNumber : IO Nat := do
  return (← IO.getRandomBytes 16).foldl (fun number byte => 256 * number + byte.toNat) 0

/-- The files that the request may look at are read into a tree. -/
def readFiles (tree : FileTree) (home : Option Path) (request : Request) : IO FileTree := do
  let settingsPath := request.settings.or (home.map Settings.usualPath)
  let tree ← (settingsPath.map Place.file).toList.foldlM readPlace tree
  match loadSettings tree home request.settings with
  | .error _ => return tree
  | .ok settings => (places settings home request.command).foldlM readPlace tree

def start (given : List String) : IO UInt32 := do
  let environment ← readEnvironment
  let here := (← IO.currentDir).toString
  let location := FileTree.resolved [] (Path.segments here)
  let tree ← readAround ⟨.empty, location⟩ location
  let tree ← match Request.read environment given with
    | .error _ => pure tree
    | .ok request => readFiles tree ((environment.find? "HOME").bind path?) request
  let number ← randomNumber
  let world : World := ⟨tree, ⟨fun count => RandomId.text (number + count), 0⟩, ← currentTime⟩
  let (after, ending) := program world environment given
  (changes tree after.files).forM perform_
  IO.sleep (UInt32.ofNat ending.duration)
  IO.print ending.written
  IO.eprint ending.complaint
  return UInt32.ofNat ending.exitCode

end DeskScript.CommandLine

def main (given : List String) : IO UInt32 := DeskScript.CommandLine.start given
