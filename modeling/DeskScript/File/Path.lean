/-
This file holds the paths of files.
-/

namespace DeskScript

/-- A path is kept as it was written. Its parts are separated by slashes. -/
structure Path where
  text : String
  deriving DecidableEq, Inhabited

namespace Path

/--
Slashes at the end of a path, and single points after a slash, do not count. The characters come
in reverse, and the slash of the root stays.
-/
def trimBack : List Char → List Char
  | ['/'] => ['/']
  | '/' :: rest => trimBack rest
  | '.' :: '/' :: rest => trimBack ('/' :: rest)
  | other => other

/-- These are the characters of a path in reverse, without what does not count. -/
def back (path : Path) : List Char :=
  trimBack path.text.toList.reverse

/-- This is the last part of a path. -/
def lastPart (path : Path) : List Char :=
  (path.back.takeWhile (· ≠ '/')).reverse

/-- A path that ends in points has no file name. -/
def fileName? (path : Path) : Option String :=
  let part := path.lastPart
  if part = [] ∨ part = ['.'] ∨ part = ['.', '.'] then none else some (String.ofList part)

/--
A file name has a stem and, if there is a point in it that is not the first character, an
extension after the last point.
-/
def splitName (name : List Char) : List Char × Option (List Char) :=
  let extension := name.reverse.takeWhile (· ≠ '.')
  match name.reverse.dropWhile (· ≠ '.') with
  | [] => (name, none)
  | [_] => (name, none)
  | _ :: stem => (stem.reverse, some extension.reverse)

def extension? (path : Path) : Option String :=
  path.fileName?.bind fun name => (splitName name.toList).2.map String.ofList

def stem? (path : Path) : Option String :=
  path.fileName?.map fun name => String.ofList (splitName name.toList).1

/-- The root and the empty path have no parent. -/
def parent? (path : Path) : Option Path :=
  match path.back with
  | [] => none
  | ['/'] => none
  | back => some ⟨String.ofList (trimBack (back.dropWhile (· ≠ '/'))).reverse⟩

def isAbsolute (path : Path) : Bool := path.text.toList.head? = some '/'

/-- A path that ends in a slash can only mean a directory. -/
def meansDirectory (path : Path) : Bool := path.text.toList.getLast? = some '/'

/-- This is a path without the slashes at its end. The slash of the root stays. -/
def withoutLastSlashes (path : Path) : Path :=
  match path.text.toList.reverse.dropWhile (· = '/') with
  | [] => if path.isAbsolute then ⟨"/"⟩ else path
  | back => ⟨String.ofList back.reverse⟩

/-- An absolute path replaces the path that it is joined to. -/
def join (base : Path) (part : String) : Path :=
  if part.toList.head? = some '/' || base.text.isEmpty then ⟨part⟩
  else if base.text.toList.getLast? = some '/' then ⟨base.text ++ part⟩
  else ⟨base.text ++ "/" ++ part⟩

/-- This function replaces the extension of the file name, if there is one. -/
def withExtension (path : Path) (extension : String) : Path :=
  match path.fileName? with
  | none => path
  | some name =>
      let directory := (path.back.drop name.length).reverse
      ⟨String.ofList (directory ++ (splitName name.toList).1) ++ "." ++ extension⟩

/-- A text is cut at every slash. -/
def segments (text : String) : List String := (text.toList.splitOn '/').map String.ofList

/-- These are the parts of a path that name something below the one before. -/
def parts (path : Path) : List String :=
  (segments path.text).filter fun part => part ≠ "" && part ≠ "."

/--
Paths that differ only in slashes and points that do not count have one normal form. A point at the
start of a path counts.
-/
def normal (path : Path) : String :=
  let joined := "/".intercalate path.parts
  if path.isAbsolute then "/" ++ joined
  else if (segments path.text).head? = some "." then "./" ++ joined
  else joined

end Path

end DeskScript
