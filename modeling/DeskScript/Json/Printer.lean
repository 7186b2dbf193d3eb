/-
This file writes JSON values as text, on one line or spread over lines.
-/

import DeskScript.Decimal.Layout
import DeskScript.Json.Basic
import DeskScript.Text.Printable

namespace DeskScript

def Number.digits (layout : Decimal.NumberLayout) : Number → List Char
  | .whole value => Decimal.intDigits value
  | .decimal value => layout.float value

namespace Json

/-- Quotes, backslashes and controls are escaped, and every other character stands for itself. -/
def escapeChar (character : Char) : List Char :=
  if character = '"' then ['\\', '"']
  else if character = '\\' then ['\\', '\\']
  else if character = '\n' then ['\\', 'n']
  else if character = '\r' then ['\\', 'r']
  else if character = '\t' then ['\\', 't']
  else if character = '\x08' then ['\\', 'b']
  else if character = '\x0c' then ['\\', 'f']
  else if character.toNat < 0x20 then
    ['\\', 'u', '0', '0', Text.hexDigit (character.toNat / 16),
      Text.hexDigit (character.toNat % 16)]
  else [character]

/-- This is a text between quotes. -/
def quote (text : String) : List Char :=
  '"' :: text.toList.flatMap escapeChar ++ ['"']

/-- A value without parts is written in the same way on one line and over lines. -/
def scalarCharacters : Json → List Char
  | .bool true => "true".toList
  | .bool false => "false".toList
  | .number value => value.digits .json
  | .string value => quote value
  | _ => "null".toList

/-- A comma stands before every part but the first. -/
def comma (first : Bool) : List Char := if first then [] else [',']

/-! ### On one line -/

mutual

/-- These are the characters of a value without any space. -/
def compactCharacters : Json → List Char
  | .array items => '[' :: compactItems true items ++ [']']
  | .object members => '\x7b' :: compactMembers true members ++ ['\x7d']
  | value => scalarCharacters value

def compactItems (first : Bool) : List Json → List Char
  | [] => []
  | item :: rest => comma first ++ (item.compactCharacters ++ compactItems false rest)

def compactMembers (first : Bool) : List (String × Json) → List Char
  | [] => []
  | (key, item) :: rest =>
      comma first ++ (quote key ++ ':' :: (item.compactCharacters ++ compactMembers false rest))

end

/-- This is the text of a value on one line. -/
def compact (value : Json) : String := String.ofList value.compactCharacters

/-! ### Over lines -/

/-- A new line is indented by two spaces a level. -/
def lineBreak (level : Nat) : List Char := '\n' :: List.replicate (2 * level) ' '

mutual

/-- Every item and every member stands on a line of its own. Empty brackets stay together. -/
def prettyCharacters (level : Nat) : Json → List Char
  | .array [] => ['[', ']']
  | .array items => '[' :: prettyItems (level + 1) true items ++ (lineBreak level ++ [']'])
  | .object [] => ['\x7b', '\x7d']
  | .object members =>
      '\x7b' :: prettyMembers (level + 1) true members ++ (lineBreak level ++ ['\x7d'])
  | value => scalarCharacters value

def prettyItems (level : Nat) (first : Bool) : List Json → List Char
  | [] => []
  | item :: rest =>
      comma first ++ lineBreak level ++
        (item.prettyCharacters level ++ prettyItems level false rest)

def prettyMembers (level : Nat) (first : Bool) : List (String × Json) → List Char
  | [] => []
  | (key, item) :: rest =>
      comma first ++ lineBreak level ++ quote key ++
        ':' :: ' ' :: (item.prettyCharacters level ++ prettyMembers level false rest)

end

/-- This is the text of a value spread over lines. -/
def pretty (value : Json) : String := String.ofList (value.prettyCharacters 0)

end Json

end DeskScript
