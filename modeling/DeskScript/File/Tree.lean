/-
This file holds a tree of files as a value, and the operations that read and change it.
-/

import DeskScript.File.Path
import DeskScript.Table

namespace DeskScript

/-- An operation on files fails for a reason that the operating system gives. -/
inductive FileFault where
  | missing
  | present
  | notDirectory
  | isDirectory
  | nameTooLong
  | notEmpty
  | zeroInName
  | notText
  | notFile
  deriving DecidableEq

def FileFault.message : FileFault → String
  | .missing => "No such file or directory (os error 2)"
  | .present => "File exists (os error 17)"
  | .notDirectory => "Not a directory (os error 20)"
  | .isDirectory => "Is a directory (os error 21)"
  | .nameTooLong => "File name too long (os error 36)"
  | .notEmpty => "Directory not empty (os error 39)"
  | .zeroInName => "file name contained an unexpected NUL byte"
  | .notText => "stream did not contain valid UTF-8"
  | .notFile => "the source path is neither a regular file nor a symlink to a regular file"

inductive FileEntry where
  | file (content : ByteArray)
  | directory

/-- A location lists the names from the top of the tree. -/
abbrev Location := List String

/-- Entries are found by their location. Relative paths start at the working directory. -/
structure FileTree where
  entries : Table FileEntry
  workingDirectory : Location

namespace FileTree

/-! ### Locations -/

/-- Names hold no slash, so different locations have different keys. -/
def key (location : Location) : String := "/".intercalate location

def empty : FileTree := ⟨.empty, []⟩

/-- The top of the tree is always a directory. -/
def entry? (tree : FileTree) (location : Location) : Option FileEntry :=
  if location.isEmpty then some .directory else tree.entries.find? (key location)

def put (tree : FileTree) (location : Location) (entry : FileEntry) : FileTree :=
  { tree with entries := tree.entries.put (key location) entry }

def erase (tree : FileTree) (location : Location) : FileTree :=
  { tree with entries := tree.entries.erase (key location) }

/-- What is not a directory has nothing in it. -/
def enter (tree : FileTree) (location : Location) : Except FileFault Unit :=
  match tree.entry? location with
  | none => .error .missing
  | some (.file _) => .error .notDirectory
  | some .directory => .ok ()

/-- The greatest length of a name in octets. -/
def nameLimit : Nat := 255

/-- A path is shorter than this, in octets. -/
def pathLimit : Nat := 4096

/-- Every name is looked up in the directory before it. The last name may name nothing. -/
def walk (tree : FileTree) (location : Location) : List String → Except FileFault Location
  | [] => .ok location
  | name :: rest => do
      tree.enter location
      if name = "" ∨ name = "." then tree.walk location rest
      else if name = ".." then tree.walk location.dropLast rest
      else if nameLimit < name.utf8ByteSize then throw .nameTooLong
      else tree.walk (location ++ [name]) rest

/-- Names lead from a location to another one, whatever is there. -/
def resolved (location : Location) : List String → Location
  | [] => location
  | name :: rest =>
      if name = "" ∨ name = "." then resolved location rest
      else if name = ".." then resolved location.dropLast rest
      else resolved (location ++ [name]) rest

/-- A path starts at the top of the tree or at the working directory. -/
def start (tree : FileTree) (path : Path) : Location :=
  if path.isAbsolute then [] else tree.workingDirectory

/-- This is the location that a path stands for if all directories on the way are there. -/
def location (tree : FileTree) (path : Path) : Location :=
  resolved (tree.start path) (Path.segments path.text)

/-- This function looks up the location of a path. -/
def locate (tree : FileTree) (path : Path) : Except FileFault Location :=
  if path.text.toList.contains '\x00' then .error .zeroInName
  else if path.text.isEmpty then .error .missing
  else if pathLimit ≤ path.text.utf8ByteSize then .error .nameTooLong
  else tree.walk (tree.start path) (Path.segments path.text)

/-! ### Reading -/

def status (tree : FileTree) (path : Path) : Except FileFault FileEntry := do
  match tree.entry? (← tree.locate path) with
  | some entry => return entry
  | none => throw .missing

def exists_ (tree : FileTree) (path : Path) : Bool := (tree.status path).toBool

def isDirectory (tree : FileTree) (path : Path) : Bool :=
  match tree.status path with
  | .ok .directory => true
  | _ => false

def isFile (tree : FileTree) (path : Path) : Bool :=
  match tree.status path with
  | .ok (.file _) => true
  | _ => false

def read (tree : FileTree) (path : Path) : Except FileFault ByteArray := do
  match ← tree.status path with
  | .file content => return content
  | .directory => throw .isDirectory

def readText (tree : FileTree) (path : Path) : Except FileFault String := do
  match String.fromUTF8? (← tree.read path) with
  | some text => return text
  | none => throw .notText

/-- This function tells what a key names inside a directory. -/
def childName? (directory : Location) (entryKey : String) : Option String :=
  let parts := Path.segments entryKey
  if parts.dropLast = directory then parts.getLast? else none

/-- These are the names in a directory in alphabetical order. -/
def children (tree : FileTree) (path : Path) : Except FileFault (List String) := do
  match ← tree.status path with
  | .file _ => throw .notDirectory
  | .directory =>
      let location ← tree.locate path
      return tree.entries.keys.filterMap (childName? location)

/-! ### Changing -/

/-- This function writes a file, which may be there already. -/
def write (tree : FileTree) (path : Path) (content : ByteArray) : Except FileFault FileTree := do
  let location ← tree.locate path.withoutLastSlashes
  match tree.entry? location with
  | some .directory => throw .isDirectory
  | _ =>
      if path.meansDirectory then throw .isDirectory
      else return tree.put location (.file content)

/-- The directory around a new directory has to be there, and the new one must not. -/
def makeDirectory (tree : FileTree) (path : Path) : Except FileFault FileTree := do
  let location ← tree.locate path.withoutLastSlashes
  match tree.entry? location with
  | some _ => throw .present
  | none => return tree.put location .directory

/-- The parents of a directory are made first, as far as the depth allows. -/
def makeParents : Nat → FileTree → Path → FileTree × Except FileFault Unit
  | 0, tree, _ => (tree, .error .missing)
  | depth + 1, tree, path =>
      if path.text.isEmpty then (tree, .ok ())
      else
        match tree.makeDirectory path with
        | .ok tree => (tree, .ok ())
        | .error .missing =>
            match path.parent? with
            | none => (tree, .error .missing)
            | some parent =>
                match makeParents depth tree parent with
                | (tree, .error fault) => (tree, .error fault)
                | (tree, .ok ()) =>
                    match tree.makeDirectory path with
                    | .ok tree => (tree, .ok ())
                    | .error fault =>
                        (tree, if tree.isDirectory path then .ok () else .error fault)
        | .error fault => (tree, if tree.isDirectory path then .ok () else .error fault)

/-- This function makes a directory and its parents, as far as they are missing. -/
def makeDirectories (tree : FileTree) (path : Path) : FileTree × Except FileFault Unit :=
  makeParents (path.text.length + 1) tree path

def remove (tree : FileTree) (path : Path) : Except FileFault FileTree := do
  let location ← tree.locate path
  match tree.entry? location with
  | none => throw .missing
  | some .directory => throw .isDirectory
  | some (.file _) => return tree.erase location

/-- This test asks whether a key names a location or something below it. -/
def isWithin (location : Location) (entryKey : String) : Bool :=
  location.isPrefixOf (Path.segments entryKey)

/-- This function removes a directory with everything in it. -/
def removeAll (tree : FileTree) (path : Path) : Except FileFault FileTree := do
  let location ← tree.locate path
  match tree.entry? location with
  | none => throw .missing
  | some _ =>
      return { tree with
        entries := (tree.entries.keys.filter (isWithin location)).foldl Table.erase tree.entries }

/-- This function gives a file a new name. A file that had that name is replaced. -/
def rename (tree : FileTree) (origin target : Path) : Except FileFault FileTree := do
  let start ← tree.locate origin
  let goal ← tree.locate target.withoutLastSlashes
  match tree.entry? start, tree.entry? goal with
  | none, _ => throw .missing
  | some .directory, _ => throw .isDirectory
  | some (.file content), occupant =>
      if target.meansDirectory then throw .notDirectory
      else
        match occupant with
        | some .directory => throw .isDirectory
        | _ => return (tree.erase start).put goal (.file content)

/-- Only files are copied. -/
def copy (tree : FileTree) (origin target : Path) : Except FileFault FileTree := do
  match ← tree.status origin with
  | .directory => throw .notFile
  | .file content => tree.write target content

end FileTree

end DeskScript
