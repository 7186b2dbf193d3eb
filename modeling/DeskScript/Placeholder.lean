/-
This file replaces placeholders in text by the values of variables.
-/

import DeskScript.Table
import DeskScript.Text.Blank

namespace DeskScript

/-- A template is a row of literal characters and of placeholders, which hold a written name. -/
inductive TemplatePart where
  | literal (character : Char)
  | placeholder (written : List Char)
  deriving DecidableEq

namespace Template

/--
This is the name at the front of a text, and what comes after its closing brace. A name is not
empty and holds no closing brace.
-/
def readName (text : List Char) : Option (List Char × List Char) :=
  match text.takeWhile (· ≠ '\x7d'), text.dropWhile (· ≠ '\x7d') with
  | first :: name, _ :: rest => some (first :: name, rest)
  | _, _ => none

theorem readNameShorter (text name rest : List Char) (found : readName text = some (name, rest)) :
    rest.length < text.length := by
  unfold readName at found
  have bound : (text.dropWhile (· ≠ '\x7d')).length ≤ text.length :=
    (List.dropWhile_sublist _).length_le
  split at found
  · rename_i equal
    rw [equal] at bound
    cases found
    exact Nat.lt_of_succ_le bound
  · cases found

/--
A placeholder is a dollar sign followed by a name in braces. It starts as far to the left as it
can, and whatever is no placeholder stands for itself.
-/
def parts (text : List Char) : List TemplatePart :=
  match text with
  | [] => []
  | '$' :: '\x7b' :: rest =>
      match _found : readName rest with
      | some (name, after) => .placeholder name :: parts after
      | none => .literal '$' :: parts ('\x7b' :: rest)
  | character :: rest => .literal character :: parts rest
termination_by text.length
decreasing_by
  · have := readNameShorter rest name after _found
    simp only [List.length_cons]
    omega
  · simp
  · simp

/-- Blanks around a written name do not belong to the name. -/
def nameOf (written : List Char) : String :=
  String.ofList (Text.trimChars written)

/-- This function adds a name to a list unless it is there already. -/
def addName (names : List String) (name : String) : List String :=
  if names.contains name then names else names ++ [name]

def addNames (names added : List String) : List String :=
  added.foldl addName names

def TemplatePart.name? : TemplatePart → Option String
  | .literal _ => none
  | .placeholder written => some (nameOf written)

/-- These are the names in a template, each at its first appearance. -/
def placeholders (template : String) : List String :=
  addNames [] ((parts template.toList).filterMap TemplatePart.name?)

def hasPlaceholder (template : String) : Bool :=
  (parts template.toList).any fun part => (TemplatePart.name? part).isSome

end Template

/-- A binding table gives values to the variables of a run. -/
abbrev Bindings := Table String

namespace Bindings

/-- The declared values are overridden by those of a run. -/
def seeded (defaults overrides : Table String) : Bindings :=
  defaults.putAll overrides.entries

end Bindings

/-- A resolution is the text of a template and the names in it that had no value. -/
structure Resolution where
  value : String
  unresolved : List String
  deriving DecidableEq

namespace Template

/-- A placeholder becomes the value of its name, or nothing when there is none. -/
def partText (bindings : Bindings) : TemplatePart → List Char
  | .literal character => [character]
  | .placeholder written => ((bindings.find? (nameOf written)).getD "").toList

/-- Values are put in as they are, and are not searched for placeholders. -/
def resolve (template : String) (bindings : Bindings) : Resolution :=
  let parts := parts template.toList
  let names := parts.filterMap TemplatePart.name?
  ⟨String.ofList (parts.flatMap (partText bindings)),
    addNames [] (names.filter fun name => (bindings.find? name).isNone)⟩

/-! ### The older form of placeholders -/

/-- The names of the older form consist of these characters. -/
def isOldNameCharacter (character : Char) : Bool :=
  character.isAlphanum || character = '_' || character = '.' || character = '-'

/-- This is the name of a placeholder of the older form, after its opening braces, and the rest. -/
def readOldName (text : List Char) : Option (List Char × List Char) :=
  let inner := text.dropWhile Text.isBlank
  let name := inner.takeWhile isOldNameCharacter
  match (inner.dropWhile isOldNameCharacter).dropWhile Text.isBlank with
  | '\x7d' :: '\x7d' :: rest => if name.isEmpty then none else some (name, rest)
  | _ => none

theorem readOldNameShorter (text name rest : List Char)
    (found : readOldName text = some (name, rest)) : rest.length < text.length := by
  simp only [readOldName] at found
  have bound : (((text.dropWhile Text.isBlank).dropWhile isOldNameCharacter).dropWhile
      Text.isBlank).length ≤ text.length :=
    Nat.le_trans (List.dropWhile_sublist _).length_le
      (Nat.le_trans (List.dropWhile_sublist _).length_le (List.dropWhile_sublist _).length_le)
  split at found
  · rename_i tail equal
    rw [equal] at bound
    split at found
    · cases found
    · cases found
      simp only [List.length_cons] at bound
      omega
  · cases found

/-- The older form has two braces on either side of a name, and blanks may stand around it. -/
def upgradeChars (text : List Char) : List Char :=
  match text with
  | [] => []
  | '\x7b' :: '\x7b' :: rest =>
      match _found : readOldName rest with
      | some (name, after) => ['$', '\x7b'] ++ name ++ ['\x7d'] ++ upgradeChars after
      | none => '\x7b' :: upgradeChars ('\x7b' :: rest)
  | character :: rest => character :: upgradeChars rest
termination_by text.length
decreasing_by
  · have := readOldNameShorter rest name after _found
    simp only [List.length_cons]
    omega
  · simp
  · simp

/-- This function rewrites the placeholders of the older form. -/
def upgrade (text : String) : String :=
  String.ofList (upgradeChars text.toList)

end Template

end DeskScript
