/-
This file reads JSON text.
-/

import DeskScript.Decimal.Reader
import DeskScript.Json.Basic

namespace DeskScript.Json

def isSpace (character : Char) : Bool :=
  character = ' ' || character = '\n' || character = '\t' || character = '\r'

def skipSpace (text : List Char) : List Char :=
  text.dropWhile isSpace

/-- This is the value of four hexadecimal digits, and the text after them. -/
def readHex (text : List Char) : Option (Nat × List Char) :=
  let digits := text.take 4
  if digits.length < 4 then none
  else (Decimal.digits? 16 digits).map fun value => (value, text.drop 4)

/--
A code beyond sixteen bits is written as two halves. A half that stands alone is refused.
-/
def readCode (text : List Char) : Option (Char × List Char) := do
  let (first, rest) ← readHex text
  if 0xD800 ≤ first ∧ first < 0xDC00 then
    match rest with
    | '\\' :: 'u' :: rest =>
        let (second, rest) ← readHex rest
        if 0xDC00 ≤ second ∧ second < 0xE000 then
          some (Char.ofNat (0x10000 + (first - 0xD800) * 0x400 + (second - 0xDC00)), rest)
        else none
    | _ => none
  else if 0xDC00 ≤ first ∧ first < 0xE000 then none
  else some (Char.ofNat first, rest)

/-- This function reads what follows a backslash. -/
def readEscape : List Char → Option (Char × List Char)
  | '"' :: rest => some ('"', rest)
  | '\\' :: rest => some ('\\', rest)
  | '/' :: rest => some ('/', rest)
  | 'b' :: rest => some ('\x08', rest)
  | 'f' :: rest => some ('\x0c', rest)
  | 'n' :: rest => some ('\n', rest)
  | 'r' :: rest => some ('\r', rest)
  | 't' :: rest => some ('\t', rest)
  | 'u' :: rest => readCode rest
  | _ => none

/--
This function reads the rest of a text up to its closing quote. The characters read so far,
reversed, are `before`, and a control has to be escaped.
-/
def readTextAfter (before : List Char) : Nat → List Char → Option (String × List Char)
  | 0, _ => none
  | fuel + 1, text =>
      match text with
      | [] => none
      | '"' :: rest => some (String.ofList before.reverse, rest)
      | '\\' :: rest =>
          match readEscape rest with
          | some (character, rest) => readTextAfter (character :: before) fuel rest
          | none => none
      | character :: rest =>
          if character.toNat < 0x20 then none else readTextAfter (character :: before) fuel rest

def readText (text : List Char) : Option (String × List Char) :=
  readTextAfter [] (text.length + 1) text

/-- The whole part is a zero alone or does not start with a zero. -/
def isWholePart : List Char → Bool
  | [] => false
  | ['0'] => true
  | first :: _ => first ≠ '0'

/-- A point has to be followed by a digit, and so has the mark of an exponent. -/
def isCompleteNumber (text : List Char) (parts : Decimal.DecimalParts) : Bool :=
  let afterWhole := text.drop parts.whole.length
  let hasPoint := afterWhole.head? = some '.'
  isWholePart parts.whole && (!hasPoint || !parts.fraction.isEmpty) &&
    parts.rest.head? ≠ some 'e' && parts.rest.head? ≠ some 'E'

/--
A number without point and exponent is whole when it fits 64 bits. Every other number is a double,
and one beyond the doubles is refused.
-/
def readNumber (negative : Bool) (text : List Char) : Option (Number × List Char) :=
  let parts := Decimal.DecimalParts.of text
  let used := text.length - parts.rest.length
  if !isCompleteNumber text parts then none
  else
    let value := Int.ofNat (Decimal.digitsValue parts.whole)
    let isWhole := used = parts.whole.length
    if isWhole ∧ !negative ∧ value < 2 ^ 64 then some (.whole value, parts.rest)
    else if isWhole ∧ negative ∧ 0 < value ∧ value ≤ 2 ^ 63 then some (.whole (-value), parts.rest)
    else
      let float := parts.float negative
      if float.isFinite then some (.decimal float, parts.rest) else none

/-- This function takes a given word from the front of a text. -/
def readWord (word : List Char) (value : Json) (text : List Char) : Option (Json × List Char) :=
  if word.isPrefixOf text then some (value, text.drop word.length) else none

mutual

/-- This function reads one value from the front of a text. -/
def readValue : Nat → List Char → Option (Json × List Char)
  | 0, _ => none
  | fuel + 1, text =>
      match skipSpace text with
      | '[' :: rest =>
          match skipSpace rest with
          | ']' :: rest => some (.array [], rest)
          | rest => (readItems fuel rest).map fun (items, rest) => (.array items, rest)
      | '\x7b' :: rest =>
          match skipSpace rest with
          | '\x7d' :: rest => some (.object [], rest)
          | rest => (readMembers fuel rest).map fun (members, rest) => (.object members, rest)
      | '"' :: rest => (readText rest).map fun (value, rest) => (.string value, rest)
      | '-' :: rest => (readNumber true rest).map fun (value, rest) => (.number value, rest)
      | 'n' :: rest => readWord ['u', 'l', 'l'] .null rest
      | 't' :: rest => readWord ['r', 'u', 'e'] (.bool true) rest
      | 'f' :: rest => readWord ['a', 'l', 's', 'e'] (.bool false) rest
      | rest => (readNumber false rest).map fun (value, rest) => (.number value, rest)

/-- This function reads items up to the closing bracket. -/
def readItems : Nat → List Char → Option (List Json × List Char)
  | 0, _ => none
  | fuel + 1, text =>
      match readValue fuel text with
      | none => none
      | some (item, rest) =>
          match skipSpace rest with
          | ',' :: rest => (readItems fuel rest).map fun (items, rest) => (item :: items, rest)
          | ']' :: rest => some ([item], rest)
          | _ => none

/-- This function reads members up to the closing brace. -/
def readMembers : Nat → List Char → Option (List (String × Json) × List Char)
  | 0, _ => none
  | fuel + 1, text =>
      match skipSpace text with
      | '"' :: rest =>
          match readText rest with
          | none => none
          | some (key, rest) =>
              match skipSpace rest with
              | ':' :: rest =>
                  match readValue fuel rest with
                  | none => none
                  | some (item, rest) =>
                      match skipSpace rest with
                      | ',' :: rest =>
                          (readMembers fuel rest).map fun (members, rest) =>
                            ((key, item) :: members, rest)
                      | '\x7d' :: rest => some ([(key, item)], rest)
                      | _ => none
              | _ => none
      | _ => none

end

/-- This is the value of a whole text. Members keep their order, and a key may come twice. -/
def parse? (text : String) : Option Json :=
  let characters := text.toList
  match readValue (2 * characters.length + 2) characters with
  | some (value, rest) => if (skipSpace rest).isEmpty then some value else none
  | none => none

/-- A text may nest at most this many arrays and objects. -/
def nestingLimit : Nat := 127

/-- This is the value of a text that does not nest too deeply. -/
def read? (text : String) : Option Json :=
  (parse? text).filter fun value => value.nesting ≤ nestingLimit

end DeskScript.Json
