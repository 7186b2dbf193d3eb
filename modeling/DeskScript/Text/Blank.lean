/-
This file tests character codes against a table of ranges. It holds blank characters, and the
trimming and splitting of text at them.
-/

namespace DeskScript.Text

/-! ### Ranges -/

/-- The ranges of a table are in rising order, and both ends of a range belong to it. -/
def inRanges (ranges : List (Nat × Nat)) (code : Nat) : Bool :=
  ranges.any fun (first, last) => first ≤ code && code ≤ last

/-! ### Blanks -/

/-- A blank is a character with the Unicode White_Space property. -/
def isBlank (character : Char) : Bool :=
  let code := character.toNat
  (9 ≤ code && code ≤ 13) || code = 0x20 || code = 0x85 || code = 0xA0 || code = 0x1680 ||
    (0x2000 ≤ code && code ≤ 0x200A) || code = 0x2028 || code = 0x2029 || code = 0x202F ||
    code = 0x205F || code = 0x3000

/-- This function drops the blanks at both ends. -/
def trimChars (characters : List Char) : List Char :=
  ((characters.dropWhile isBlank).reverse.dropWhile isBlank).reverse

def trim (text : String) : String :=
  String.ofList (trimChars text.toList)

/-- A text is blank when it holds nothing but blanks. -/
def isBlankText (text : String) : Bool :=
  text.toList.all isBlank

/--
This function splits a text at its blanks. The part read so far, reversed, is `current`, and no
empty part is kept.
-/
def wordsAfter (current : List Char) : List Char → List (List Char)
  | [] => if current.isEmpty then [] else [current.reverse]
  | character :: rest =>
      if isBlank character then
        if current.isEmpty then wordsAfter [] rest else current.reverse :: wordsAfter [] rest
      else wordsAfter (character :: current) rest

/-- The words of a text are its longest parts without blanks. -/
def words (characters : List Char) : List (List Char) :=
  wordsAfter [] characters

end DeskScript.Text
