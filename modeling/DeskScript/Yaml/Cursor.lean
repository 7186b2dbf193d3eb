/-
This file moves through the characters of a YAML text and counts lines and columns.
-/

namespace DeskScript.Yaml

/-- A mark is a place in a text. All three counts start at zero. -/
structure Mark where
  index : Nat
  line : Nat
  column : Nat
  deriving DecidableEq, Inhabited

/-- A mark is known unless it is the start of the text. -/
def Mark.isKnown (mark : Mark) : Bool :=
  mark.line ≠ 0 || mark.column ≠ 0

/-- In messages lines and columns are counted from one. -/
def Mark.text (mark : Mark) : String :=
  "line " ++ toString (mark.line + 1) ++ " column " ++ toString (mark.column + 1)

/-- This function says where something is unless that is the start of the text. -/
def located (text : String) (mark : Mark) : String :=
  if mark.isKnown then text ++ " at " ++ mark.text else text

/-- A syntax fault tells what is wrong, where, and what was being read. -/
structure SyntaxFault where
  problem : String
  context : Option String
  mark : Mark
  deriving DecidableEq

def SyntaxFault.message (fault : SyntaxFault) : String :=
  located fault.problem fault.mark ++ match fault.context with
    | some context => ", " ++ context
    | none => ""

/--
A cursor holds the rest of a text and the mark of its first character. The size is that of the whole
text, so it bounds the number of steps of every reader.
-/
structure Cursor where
  rest : List Char
  mark : Mark
  size : Nat

def Cursor.ofText (text : List Char) : Cursor :=
  ⟨text, ⟨0, 0, 0⟩, text.length⟩

def isBlank (character : Char) : Bool :=
  character = ' ' || character = '\t'

def isBreak (character : Char) : Bool :=
  character = '\r' || character = '\n' || character = '\x85' || character = '\u2028' ||
    character = '\u2029'

/-- This test asks for a blank, a line break or the end of the text. -/
def startsBlank : List Char → Bool
  | [] => true
  | character :: _ => isBlank character || isBreak character

/-- Anchors and the names of directives consist of these. -/
def isWordCharacter (character : Char) : Bool :=
  character.isAlphanum || character = '_' || character = '-'

namespace Cursor

def first? (cursor : Cursor) : Option Char := cursor.rest.head?

/-- This function goes over some characters of a line. -/
def skip (cursor : Cursor) (count : Nat) : Cursor :=
  { cursor with
    rest := cursor.rest.drop count
    mark := ⟨cursor.mark.index + count, cursor.mark.line, cursor.mark.column + count⟩ }

/-- These are the characters of a line that pass a test, and the place after them. -/
def span (cursor : Cursor) (test : Char → Bool) : List Char × Cursor :=
  let taken := cursor.rest.takeWhile test
  (taken, cursor.skip taken.length)

def skipBlanks (cursor : Cursor) : Cursor := (cursor.span isBlank).2

/-- A comment lasts to the end of its line. -/
def skipComment (cursor : Cursor) : Cursor :=
  if cursor.first? = some '#' then (cursor.span fun character => !isBreak character).2 else cursor

/--
A line break is read as a line feed, unless it is one of the two separators that keep their own
character.
-/
def lineBreak? (cursor : Cursor) : Option (Char × Cursor) :=
  let next (count : Nat) : Cursor :=
    { cursor with
      rest := cursor.rest.drop count
      mark := ⟨cursor.mark.index + count, cursor.mark.line + 1, 0⟩ }
  match cursor.rest with
  | '\r' :: '\n' :: _ => some ('\n', next 2)
  | character :: _ =>
      if character = '\u2028' || character = '\u2029' then some (character, next 1)
      else if isBreak character then some ('\n', next 1)
      else none
  | [] => none

/-- Three dashes or points at the start of a line, with a blank after them, bound a document. -/
def isAtDocumentBound (cursor : Cursor) : Bool :=
  cursor.mark.column = 0 && match cursor.rest with
    | '-' :: '-' :: '-' :: after => startsBlank after
    | '.' :: '.' :: '.' :: after => startsBlank after
    | _ => false

end Cursor

/-- Line breaks within a text that runs over lines are folded: one becomes a space, and of more the
first is dropped. -/
def foldBreaks : List Char → List Char
  | [] => []
  | ['\n'] => [' ']
  | '\n' :: more => more
  | breaks => breaks

/-- A tab may not stand where the indentation of a line is still going on. -/
def hasTabBefore (limit : Nat) (cursor : Cursor) (blanks : List Char) : Bool :=
  let spaces := (blanks.takeWhile fun character => character = ' ').length
  spaces < blanks.length && cursor.mark.column + spaces < limit

/--
This function passes line breaks and the blanks that follow each of them. It stops at a tab before
the column `limit`, and the breaks passed so far, reversed, are `before`.
-/
def passBreaks (limit : Nat) (before : List Char) :
    Nat → Cursor → Except Cursor (List Char × Cursor)
  | 0, cursor => .ok (before.reverse, cursor)
  | fuel + 1, cursor =>
      let (blanks, after) := cursor.span isBlank
      if hasTabBefore limit cursor blanks then .error cursor
      else
        match after.lineBreak? with
        | some (mark, after) => passBreaks limit (mark :: before) fuel after
        | none => .ok (before.reverse, after)

end DeskScript.Yaml
