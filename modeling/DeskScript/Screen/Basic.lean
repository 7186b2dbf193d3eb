/-
This file finds images and texts in a picture of the screen.
-/

import DeskScript.Match.Basic
import DeskScript.Picture.Search
import DeskScript.Run.Device

namespace DeskScript

/-- A fragment is a text that was read in a picture. Its rectangle is relative to the picture. -/
structure Fragment (scalar : Type) where
  text : String
  confidence : scalar
  bounds : Rect

/-- Reading the texts in a picture may not be possible. -/
abbrev Recognizer (scalar : Type) := Picture → Except Unavailable (List (Fragment scalar))

/-- A view is a part of the screen and the position of its upper left corner. -/
structure View where
  picture : Picture
  origin : Point

def View.bounds (view : View) : Rect :=
  ⟨view.origin.x, view.origin.y, UInt32.ofNat view.picture.width, UInt32.ofNat view.picture.height⟩

namespace Screen

/-- A region shows the part of it that lies on the screen, if any part does. -/
def view (screen : Picture) : Option Rect → Option View
  | none => some ⟨screen, ⟨0, 0⟩⟩
  | some region =>
      let whole : Rect := ⟨0, 0, UInt32.ofNat screen.width, UInt32.ofNat screen.height⟩
      (whole.intersection region).map fun visible =>
        ⟨screen.crop visible.x.toInt.toNat visible.y.toInt.toNat visible.width.toNat
          visible.height.toNat, ⟨visible.x, visible.y⟩⟩

section

variable {scalar : Type} [Scalar scalar]

/-- A hit in a view is a match on the screen. -/
def matchOfHit (view : View) (image : Picture) (label : String) (hit : Picture.Hit scalar) :
    Match scalar :=
  ⟨label, hit.score, (hit.box image.width image.height).translate view.origin⟩

/-- This is the best match of an image, and of equally good ones the nearest to the center. -/
@[specialize] def findImage (filter : Type) [Scalar filter] (search : Picture.Search scalar)
    (screen : Picture) (image : Picture) (label : String) (region : Option Rect)
    (threshold : scalar) : Option (Match scalar) :=
  match view screen region with
  | none => none
  | some view =>
      let hits := search.hits filter view.picture image threshold
      Match.best? threshold view.bounds.center (hits.map (matchOfHit view image label))

/-- The texts in a view are trimmed, and blank ones are dropped. -/
def matchesOfFragments (view : View) (fragments : List (Fragment scalar)) : List (Match scalar) :=
  (fragments.filter fun fragment => !Text.isBlankText fragment.text).map fun fragment =>
    ⟨Text.trim fragment.text, fragment.confidence, fragment.bounds.translate view.origin⟩

/-- These are the texts in a region and its view. A region off the screen has none. -/
def readTexts (recognizer : Option (Recognizer scalar)) (screen : Picture) (region : Option Rect) :
    Except Unavailable (Option (List (Match scalar) × View)) :=
  match recognizer with
  | none => .error ⟨"no OCR backend configured"⟩
  | some recognize =>
      match view screen region with
      | none => .ok none
      | some view =>
          (recognize view.picture).map fun fragments =>
            some (matchesOfFragments view fragments, view)

/-- This is the best match of a text, and of equally good ones the nearest to the center. -/
def findText (recognizer : Option (Recognizer scalar)) (screen : Picture) (query : String)
    (exact : Bool) (region : Option Rect) (threshold : scalar) :
    Except Unavailable (Option (Match scalar)) :=
  (readTexts recognizer screen region).map fun
    | none => none
    | some (found, view) =>
        Match.best? threshold view.bounds.center
          (found.filter fun candidate => Match.wordingMatches query candidate.label exact)

/-- These are all texts in a region in the order in which they are read. -/
def allTexts (recognizer : Option (Recognizer scalar)) (screen : Picture) (region : Option Rect) :
    Except Unavailable (List (Match scalar)) :=
  (readTexts recognizer screen region).map fun
    | none => []
    | some (found, _) => Match.scanOrder found

end

end Screen

end DeskScript
