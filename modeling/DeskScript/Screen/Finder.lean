/-
This file reads pictures from files, and holds the finder that looks at a picture of the screen for
a run.
-/

import DeskScript.File.Path
import DeskScript.File.Tree
import DeskScript.Picture.Png
import DeskScript.Screen.Basic
import DeskScript.Text.Case

namespace DeskScript

namespace PictureFile

inductive PictureFault where
  | files (fault : FileFault)
  | unknownFormat
  | content (fault : Png.PngFault)
  deriving DecidableEq

def PictureFault.message : PictureFault → String
  | .files fault => fault.message
  | .unknownFormat => "the name of the file tells no known format"
  | .content fault => fault.message

def extensions : List String := ["png", "apng"]

/-- The format of a picture is told by the extension of its file. -/
def isPictureName (path : Path) : Bool :=
  (path.extension?.map Text.asciiLower).any extensions.contains

def read (tree : FileTree) (path : Path) : Except PictureFault Picture := do
  let content ← (tree.read path).mapError .files
  if isPictureName path then
    (Png.decode content).mapError .content
  else throw .unknownFormat

end PictureFile

/-! ### Finders -/

/-- A picture file that cannot be read has a reason. -/
abbrev PictureFiles := Path → Except String Picture

/--
A finder looks at one picture of the screen. The paths of images may be relative to a directory.
-/
structure Finder where
  screen : Picture
  search : Picture.Search Float
  recognizer : Option (Recognizer Float)
  root : Option Path

/-- Images that have been read once are kept. -/
abbrev ImageCache := Table Picture

namespace Finder

def imagePath (finder : Finder) (template : String) : Path :=
  let path : Path := ⟨template⟩
  match finder.root with
  | some root => if path.isAbsolute then path else root.join template
  | none => path

/-- An image is read from its file only if it is not among those that are kept. -/
def image (finder : Finder) (files : PictureFiles) (cache : ImageCache) (template : String) :
    ImageCache × Except Unavailable Picture :=
  let path := finder.imagePath template
  match cache.find? path.normal with
  | some picture => (cache, .ok picture)
  | none =>
      match files path with
      | .error reason =>
          (cache, .error ⟨"cannot read template " ++ path.text ++ ": " ++ reason⟩)
      | .ok picture => (cache.put path.normal picture, .ok picture)

/-- This function looks once for an image or a text. -/
def look (finder : Finder) (files : PictureFiles) (cache : ImageCache) (look : Look) :
    ImageCache × Except Unavailable (Option (Match Float)) :=
  match look.target with
  | .image template =>
      match finder.image files cache template with
      | (cache, .error unavailable) => (cache, .error unavailable)
      | (cache, .ok picture) =>
          (cache, .ok (Screen.findImage Float32 finder.search finder.screen picture template
            look.region look.threshold))
  | .text query exact =>
      (cache, Screen.findText finder.recognizer finder.screen query exact look.region
        look.threshold)

/-- The answer of a look tells what was found. -/
def answer : Except Unavailable (Option (Match Float)) → LookAnswer
  | .ok (some found) => .found found
  | .ok none => .nothing
  | .error unavailable => .unavailable unavailable

end Finder

end DeskScript
