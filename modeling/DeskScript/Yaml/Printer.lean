/-
This file writes JSON values as YAML text in block style.
-/

import DeskScript.Json.Printer
import DeskScript.Yaml.Reader

namespace DeskScript.Yaml

/-! ### The form of a text -/

/-- These characters may stand in a text as they are, line feeds included. -/
def isPlainlyVisible (character : Char) : Bool :=
  let code := character.toNat
  code = 0x0A || (0x20 ≤ code && code ≤ 0x7E) || (0xA0 ≤ code && code ≤ 0xD7FF) ||
    (0xE000 ≤ code && code ≤ 0xFFFD && code ≠ 0xFEFF) || 0x10000 ≤ code

/-- This test asks whether a character that passes `first` stands right before one that passes
`second`. -/
def hasPair (first second : Char → Bool) : List Char → Bool
  | [] => false
  | [_] => false
  | one :: two :: rest => (first one && second two) || hasPair first second (two :: rest)

def isSpace (character : Char) : Bool := character = ' '

/-- These characters cannot start a plain scalar whatever follows them. -/
def isLoneIndicator (character : Char) : Bool :=
  "#,[]\x7b\x7d&*!|>\x27\"%@\x60".toList.contains character

/-- These characters cannot start a plain scalar when a blank follows them. -/
def isSpacedIndicator (character : Char) : Bool :=
  character = '?' || character = ':' || character = '-'

/-- After the first character a colon before a blank and a number sign after one end the scalar. -/
def hasInnerIndicator (afterBlank : Bool) : List Char → Bool
  | [] => false
  | character :: rest =>
      (character = ':' && startsBlank rest) || (character = '#' && afterBlank) ||
        hasInnerIndicator (isBlank character || isBreak character) rest

/-- A text with an indicator would not be read back as a plain scalar. -/
def hasIndicator : List Char → Bool
  | [] => false
  | '-' :: '-' :: '-' :: _ => true
  | '.' :: '.' :: '.' :: _ => true
  | first :: rest =>
      isLoneIndicator first || (isSpacedIndicator first && startsBlank rest) ||
        hasInnerIndicator (isBlank first || isBreak first) rest

/-- A space or a line break at either end has to be kept by other means than a plain scalar. -/
def hasLooseEnd (text : List Char) : Bool :=
  let isLoose := fun character => isSpace character || isBreak character
  (text.head?.map isLoose).getD false || (text.getLast?.map isLoose).getD false

def allowsPlain (text : List Char) : Bool :=
  text.all isPlainlyVisible && !text.any isBreak && !hasLooseEnd text && !hasIndicator text

def allowsSingleQuotes (text : List Char) : Bool :=
  text.all isPlainlyVisible && !hasPair isBreak isSpace text && !hasPair isSpace isBreak text

def allowsLiteral (text : List Char) : Bool :=
  text.all isPlainlyVisible && !hasPair isSpace isBreak text && text.getLast? ≠ some ' '

/-- A text is written in one of four forms. -/
inductive TextForm where
  | plain
  | singleQuoted
  | doubleQuoted
  | literal
  deriving DecidableEq

/-- This test asks whether a plain scalar would be read as something other than this text. -/
def readsOtherwise (text : String) : Bool :=
  isZeroPadded text.toList || match plainValue text with
    | .ok (.string _) => false
    | _ => true

/--
A text of several lines is written line by line. A text that would be read as something else is
quoted, and quotes that show every character are used where the simpler forms would not do.
-/
def formOf (text : String) : TextForm :=
  let characters := text.toList
  if characters.contains '\n' then
    if allowsLiteral characters then .literal else .doubleQuoted
  else if !readsOtherwise text && allowsPlain characters then .plain
  else if allowsSingleQuotes characters then .singleQuoted
  else .doubleQuoted

/-! ### Texts -/

def spaces (count : Nat) : List Char :=
  List.replicate count ' '

/-- Quotes are doubled, and a line that follows a line break is indented. -/
def singleQuotedAfter (indent : Nat) (afterBreak : Bool) : List Char → List Char
  | [] => if afterBreak then spaces indent else []
  | character :: rest =>
      if isBreak character then character :: singleQuotedAfter indent true rest
      else
        (if afterBreak then spaces indent else []) ++
          (if character = '\x27' then ['\x27', '\x27'] else [character]) ++
          singleQuotedAfter indent false rest

/-- This is the letter after the backslash for a character that has one. -/
def escapeLetter? (character : Char) : Option Char :=
  [('\x00', '0'), ('\x07', 'a'), ('\x08', 'b'), ('\t', 't'), ('\n', 'n'), ('\x0b', 'v'),
    ('\x0c', 'f'), ('\r', 'r'), ('\x1b', 'e'), ('"', '"'), ('\\', '\\'), ('\x85', 'N'),
    ('\xa0', '_'), ('\u2028', 'L'), ('\u2029', 'P')].lookup character

/-- A character without a letter is written by its code in two, four or eight digits. -/
def escapeCode (code : Nat) : List Char :=
  let digits := (Text.hexDigits code).map Char.toUpper
  if code ≤ 0xFF then 'x' :: Decimal.padZeros 2 digits
  else if code ≤ 0xFFFF then 'u' :: Decimal.padZeros 4 digits
  else 'U' :: Decimal.padZeros 8 digits

def escapeInQuotes (character : Char) : List Char :=
  if isPlainlyVisible character && !isBreak character && character ≠ '"' && character ≠ '\\' then
    [character]
  else
    match escapeLetter? character with
    | some letter => ['\\', letter]
    | none => '\\' :: escapeCode character.toNat

/-- The first line of a literal says how it is indented when its own text starts with a space. -/
def literalIndent (text : List Char) : List Char :=
  if (text.head?.map fun first => isSpace first || isBreak first).getD false then ['2'] else []

/-- The line break at the end is dropped when there is none, and kept with more than one. -/
def literalChomping (text : List Char) : List Char :=
  match text.reverse with
  | [] => ['-']
  | last :: before =>
      if !isBreak last then ['-']
      else
        match before with
        | [] => ['+']
        | next :: _ => if isBreak next then ['+'] else []

/-- Every line that is not empty is indented. -/
def literalLines (indent : Nat) (atStart : Bool) : List Char → List Char
  | [] => []
  | character :: rest =>
      if isBreak character then character :: literalLines indent true rest
      else
        (if atStart then spaces indent else []) ++ character :: literalLines indent false rest

/-- Further lines of a text are indented by `indent`. -/
def textDigits (indent : Nat) (text : String) : List Char :=
  let characters := text.toList
  match formOf text with
  | .plain => characters
  | .singleQuoted => '\x27' :: singleQuotedAfter indent false characters ++ ['\x27']
  | .doubleQuoted => '"' :: characters.flatMap escapeInQuotes ++ ['"']
  | .literal =>
      '|' :: literalIndent characters ++ literalChomping characters ++
        '\n' :: literalLines indent true characters

/-! ### Values -/

/-- A key stands before its colon on one line when it is short and has no line break. -/
def isSimpleKey (key : String) : Bool :=
  key.utf8ByteSize ≤ 128 && !key.toList.any isBreak

/-- This function ends a line unless it has ended already. -/
def closeLine (line : List Char) : List Char :=
  if (line.getLast?.map isBreak).getD false then line else line ++ ['\n']

/-- A scalar, and an empty collection, stands on the line of what it belongs to. -/
def inline? (indent : Nat) : Json → Option (List Char)
  | .null => some "null".toList
  | .bool true => some "true".toList
  | .bool false => some "false".toList
  | .number value => some (value.digits .yaml)
  | .string value => some (textDigits indent value)
  | .array [] => some "[]".toList
  | .object [] => some "\x7b\x7d".toList
  | .array _ => none
  | .object _ => none

mutual

/-- This function writes a value on the line that has been begun, with its block at `indent`. -/
def blockOf (indent : Nat) : Json → List Char
  | .array (first :: rest) => itemLines indent true (first :: rest)
  | .object (first :: rest) => entryLines indent true (first :: rest)
  | value => (inline? indent value).getD []

/-- An item stands after a dash. The first one may continue a line. -/
def itemLines (indent : Nat) (continues : Bool) : List Json → List Char
  | [] => []
  | item :: rest =>
      (if continues then [] else spaces indent) ++
        '-' :: ' ' :: closeLine (blockOf (indent + 2) item) ++ itemLines indent false rest

/-- A value stands after its key, on the same line or in a block of its own below. -/
def entryLines (indent : Nat) (continues : Bool) : List (String × Json) → List Char
  | [] => []
  | (key, value) :: rest =>
      let entry :=
        if isSimpleKey key then
          textDigits (indent + 2) key ++ ':' :: valueAfterKey indent value
        else
          '?' :: ' ' :: closeLine (textDigits (indent + 2) key) ++ spaces indent ++
            ':' :: ' ' :: blockOf (indent + 2) value
      (if continues then [] else spaces indent) ++ closeLine entry ++ entryLines indent false rest

/-- A sequence below its key is not indented. -/
def valueAfterKey (indent : Nat) : Json → List Char
  | .array (first :: rest) => '\n' :: itemLines indent false (first :: rest)
  | .object (first :: rest) => '\n' :: entryLines (indent + 2) false (first :: rest)
  | value => ' ' :: (inline? (indent + 2) value).getD []

end

/-- This is the text of a value, which ends with a line break. -/
def print (value : Json) : String :=
  String.ofList (closeLine ((inline? 2 value).getD (blockOf 0 value)))

end DeskScript.Yaml
