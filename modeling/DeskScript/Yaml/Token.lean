/-
This file turns the octets of a YAML file into characters, and reads the tokens of a YAML text that
stand before its nodes: anchors, tags and directives.
-/

import DeskScript.Yaml.Scalar

namespace DeskScript.Yaml

/-! ### Octets -/

/-- An encoding fault names what is wrong with the octets of a file. -/
inductive EncodingProblem where
  | leadingOctet
  | incomplete
  | trailingOctet
  | length
  | character
  | control
  deriving DecidableEq

def EncodingProblem.text : EncodingProblem → String
  | .leadingOctet => "invalid leading UTF-8 octet"
  | .incomplete => "incomplete UTF-8 octet sequence"
  | .trailingOctet => "invalid trailing UTF-8 octet"
  | .length => "invalid length of a UTF-8 sequence"
  | .character => "invalid Unicode character"
  | .control => "control characters are not allowed"

/-- The offset of a fault counts the octets before it. -/
structure EncodingFault where
  problem : EncodingProblem
  offset : Nat
  deriving DecidableEq

/-- The start of a file is not worth a mention. -/
def EncodingFault.message (fault : EncodingFault) : String :=
  if fault.offset = 0 then fault.problem.text
  else fault.problem.text ++ " at position " ++ toString fault.offset

/-- The controls that may stand in a file are tabs and line breaks. -/
def isAllowed (code : Nat) : Bool :=
  code = 0x09 || code = 0x0A || code = 0x0D || (0x20 ≤ code && code ≤ 0x7E) || code = 0x85 ||
    (0xA0 ≤ code && code ≤ 0xD7FF) || (0xE000 ≤ code && code ≤ 0xFFFD) ||
    (0x10000 ≤ code && code ≤ 0x10FFFF)

/-- The first octet of a character tells how many octets it has and holds its highest bits. -/
def leadingOctet? (octet : Nat) : Option (Nat × Nat) :=
  if octet < 0x80 then some (1, octet)
  else if octet < 0xC0 then none
  else if octet < 0xE0 then some (2, octet - 0xC0)
  else if octet < 0xF0 then some (3, octet - 0xE0)
  else if octet < 0xF8 then some (4, octet - 0xF0)
  else none

/-- Every further octet holds six bits. An octet of another kind is reported by its place. -/
def trailingOctets (code place : Nat) : List Nat → Except Nat Nat
  | [] => .ok code
  | octet :: rest =>
      if octet < 0x80 ∨ 0xC0 ≤ octet then .error place
      else trailingOctets (code * 64 + (octet - 0x80)) (place + 1) rest

/-- A character has to be written with the fewest octets that can hold it. -/
def isShortest (width code : Nat) : Bool :=
  width = 1 || (width = 2 && 0x80 ≤ code) || (width = 3 && 0x800 ≤ code) ||
    (width = 4 && 0x10000 ≤ code)

/-- This function reads the character at the front of a file, and tells its width. -/
def readCharacter (offset : Nat) (octets : List Nat) : Except EncodingFault (Char × Nat) :=
  match octets with
  | [] => .error ⟨.incomplete, offset⟩
  | first :: rest =>
      match leadingOctet? first with
      | none => .error ⟨.leadingOctet, offset⟩
      | some (width, bits) =>
          let trailing := rest.take (width - 1)
          if trailing.length + 1 < width then .error ⟨.incomplete, offset⟩
          else
            match trailingOctets bits 1 trailing with
            | .error place => .error ⟨.trailingOctet, offset + place⟩
            | .ok code =>
                if !isShortest width code then .error ⟨.length, offset⟩
                else if (0xD800 ≤ code ∧ code ≤ 0xDFFF) ∨ 0x10FFFF < code then
                  .error ⟨.character, offset⟩
                else if !isAllowed code then .error ⟨.control, offset⟩
                else .ok (Char.ofNat code, width)

/-- The characters read so far, reversed, are `before`. -/
def readCharactersAfter (before : List Char) (offset : Nat) :
    Nat → List Nat → Except EncodingFault (List Char)
  | 0, _ => .ok before.reverse
  | fuel + 1, octets =>
      if octets.isEmpty then .ok before.reverse
      else
        match readCharacter offset octets with
        | .error fault => .error fault
        | .ok (character, width) =>
            readCharactersAfter (character :: before) (offset + width) fuel (octets.drop width)

/-- These are the characters of a file. -/
def charactersOf (content : ByteArray) : Except EncodingFault (List Char) :=
  let octets := content.toList.map UInt8.toNat
  readCharactersAfter [] 0 octets.length octets

/-! ### Tokens -/

/-- These are the characters of a tag. Escaped octets that are no character count as none. -/
abbrev TagText := List (Option Char)

namespace TagText

def ofText (text : String) : TagText := text.toList.map some

/--
A tag of one's own that cannot be read as a text is passed over. Any other tag that cannot be read
is a tag that nobody knows.
-/
def tag? (text : TagText) : Option String :=
  match text.mapM id with
  | some characters => some (String.ofList characters)
  | none =>
      if text.head? = some (some '!') then none
      else some (String.ofList (text.map fun character => character.getD '\ufffd'))

end TagText

/-- A tag is written with a handle, which a directive may stand for, and a suffix. -/
structure TagName where
  handle : String
  suffix : TagText
  deriving DecidableEq

inductive Token where
  | versionDirective (major minor : Nat)
  | tagDirective (handle : String) (start : TagText)
  | documentStart
  | documentEnd
  | blockSequenceStart
  | blockMappingStart
  | blockEnd
  | flowSequenceStart
  | flowSequenceEnd
  | flowMappingStart
  | flowMappingEnd
  | blockEntry
  | flowEntry
  | key
  | value
  | alias (name : String)
  | anchor (name : String)
  | tag (name : TagName)
  | scalar (text : String) (style : ScalarStyle)
  | streamEnd
  deriving DecidableEq

/-- This is a token read from the front of a cursor, and the place after it. -/
abbrev TokenRead := Except SyntaxFault (Token × Cursor)

/-! ### Anchors -/

/-- These may follow the name of an anchor without a blank. -/
def endsAnchor : List Char → Bool
  | [] => true
  | character :: _ =>
      isBlank character || isBreak character || "?:,]\x7d%@\x60".toList.contains character

/-- An anchor and the alias that refers to it are a mark and a name. -/
def readAnchor (isAlias : Bool) (cursor : Cursor) : TokenRead :=
  let (name, after) := (cursor.skip 1).span isWordCharacter
  if name.isEmpty || !endsAnchor after.rest then
    .error ⟨"did not find expected alphabetic or numeric character",
      some (if isAlias then "while scanning an alias" else "while scanning an anchor"),
      after.mark⟩
  else
    let name := String.ofList name
    .ok (if isAlias then .alias name else .anchor name, after)

/-! ### Tags -/

/-- This is the context of a fault in a tag, which may stand in a directive. -/
def tagContext (inDirective : Bool) : Option String :=
  some (if inDirective then "while parsing a %TAG directive" else "while parsing a tag")

/-- A handle is one exclamation mark, or a word between two. -/
def readHandle (inDirective : Bool) (cursor : Cursor) : TextRead :=
  let context :=
    some (if inDirective then "while scanning a tag directive" else "while scanning a tag")
  if cursor.first? ≠ some '!' then .error ⟨"did not find expected '!'", context, cursor.mark⟩
  else
    let (word, after) := (cursor.skip 1).span isWordCharacter
    if after.first? = some '!' then .ok ('!' :: word ++ ['!'], after.skip 1)
    else if inDirective && !word.isEmpty then
      .error ⟨"did not find expected '!'", some "while parsing a tag directive", after.mark⟩
    else .ok ('!' :: word, after)

/-- Some more characters are allowed in a tag that stands in angle brackets or in a directive. -/
def isTagCharacter (wide : Bool) (character : Char) : Bool :=
  isWordCharacter character || ";/?:@&=+$.%!~*\x27()".toList.contains character ||
    (wide && ",[]".toList.contains character)

/-- This function reads octets that are written as a percent sign and two digits each. -/
def readOctets (context : Option String) : Nat → Cursor → Except SyntaxFault (List Nat × Cursor)
  | 0, cursor => .ok ([], cursor)
  | count + 1, cursor =>
      match cursor.rest with
      | '%' :: high :: low :: _ =>
          match Decimal.digits? 16 [high, low] with
          | none => .error ⟨"did not find URI escaped octet", context, cursor.mark⟩
          | some octet => do
              let (octets, cursor) ← readOctets context count (cursor.skip 3)
              return (octet :: octets, cursor)
      | _ => .error ⟨"did not find URI escaped octet", context, cursor.mark⟩

/-- This function reads one character, or none, that is written as octets. -/
def readEscapedCharacter (context : Option String) (cursor : Cursor) :
    Except SyntaxFault (Option Char × Cursor) := do
  let (first, _) ← readOctets context 1 cursor
  match (leadingOctet? (first.headD 0)).map Prod.fst with
  | none => throw ⟨"found an incorrect leading UTF-8 octet", context, cursor.mark⟩
  | some count =>
      let (octets, after) ← readOctets context count cursor
      if (octets.drop 1).any fun octet => octet < 0x80 || 0xC0 ≤ octet then
        throw ⟨"found an incorrect trailing UTF-8 octet", context, cursor.mark⟩
      else
        let bytes := ByteArray.mk (octets.map UInt8.ofNat).toArray
        return ((String.fromUTF8? bytes).bind fun text => text.toList.head?, after)

/-- This is the text of a tag read from the front of a cursor, and the place after it. -/
abbrev TagRead := Except SyntaxFault (TagText × Cursor)

/-- The text read so far, reversed, is `before`. -/
def tagTextAfter (wide : Bool) (context : Option String) (before : TagText) :
    Nat → Cursor → TagRead
  | 0, cursor => .ok (before.reverse, cursor)
  | fuel + 1, cursor =>
      match cursor.first? with
      | none => .ok (before.reverse, cursor)
      | some character =>
          if !isTagCharacter wide character then .ok (before.reverse, cursor)
          else if character = '%' then
            match readEscapedCharacter context cursor with
            | .error fault => .error fault
            | .ok (character, cursor) =>
                tagTextAfter wide context (character :: before) fuel cursor
          else tagTextAfter wide context (some character :: before) fuel (cursor.skip 1)

/-- A tag may be empty only after a handle. It ends before a zero that is written in it. -/
def readTagText (wide inDirective mayBeEmpty : Bool) (cursor : Cursor) : TagRead := do
  let context := tagContext inDirective
  let (text, after) ← tagTextAfter wide context [] cursor.size cursor
  if text.isEmpty && !mayBeEmpty then
    throw ⟨"did not find expected tag URI", context, after.mark⟩
  else return (text.takeWhile fun character => character ≠ some '\x00', after)

/-- A tag in angle brackets has no handle. -/
def readVerbatimTag (cursor : Cursor) : Except SyntaxFault (TagName × Cursor) := do
  let (text, cursor) ← readTagText true false false (cursor.skip 2)
  if cursor.first? = some '>' then return (⟨"", text⟩, cursor.skip 1)
  else throw ⟨"did not find the expected '>'", some "while scanning a tag", cursor.mark⟩

/--
A word between two exclamation marks is a handle. Any other word belongs to the suffix, and an
exclamation mark that stands alone is the suffix itself.
-/
def readHandledTag (cursor : Cursor) : Except SyntaxFault (TagName × Cursor) := do
  let (handle, cursor) ← readHandle false cursor
  if 1 < handle.length ∧ handle.getLast? = some '!' then
    let (suffix, cursor) ← readTagText false false false cursor
    return (⟨String.ofList handle, suffix⟩, cursor)
  else
    let word := (handle.drop 1).map some
    let (rest, cursor) ← readTagText false false true cursor
    let suffix := word ++ rest
    if suffix.isEmpty then return (⟨"", .ofText "!"⟩, cursor)
    else return (⟨"!", suffix⟩, cursor)

/-- A blank has to follow a tag, or a comma within a flow collection. -/
def readTag (inFlow : Bool) (cursor : Cursor) : TokenRead := do
  let (name, after) ←
    if cursor.rest.drop 1 |>.head? |> (· = some '<') then readVerbatimTag cursor
    else readHandledTag cursor
  if (inFlow && after.first? = some ',') || startsBlank after.rest then return (.tag name, after)
  else
    throw ⟨"did not find expected whitespace or line break", some "while scanning a tag",
      after.mark⟩

/-! ### Directives -/

def versionContext : Option String := some "while scanning a %YAML directive"

/-- A version number has one to nine digits. -/
def readVersionNumber (cursor : Cursor) : Except SyntaxFault (Nat × Cursor) :=
  let (digits, after) := cursor.span Decimal.isDecimalDigit
  if 9 < digits.length then
    .error ⟨"found extremely long version number", versionContext, (cursor.skip 9).mark⟩
  else if digits.isEmpty then
    .error ⟨"did not find expected version number", versionContext, cursor.mark⟩
  else .ok (Decimal.digitsValue digits, after)

def readVersion (cursor : Cursor) : TokenRead := do
  let (major, cursor) ← readVersionNumber cursor.skipBlanks
  if cursor.first? ≠ some '.' then
    throw ⟨"did not find expected digit or '.' character", versionContext, cursor.mark⟩
  let (minor, cursor) ← readVersionNumber (cursor.skip 1)
  return (.versionDirective major minor, cursor)

def readTagDirective (cursor : Cursor) : TokenRead := do
  let context := some "while scanning a %TAG directive"
  let (handle, cursor) ← readHandle true cursor.skipBlanks
  if !(cursor.first?.map isBlank).getD false then
    throw ⟨"did not find expected whitespace", context, cursor.mark⟩
  let (start, cursor) ← readTagText true true false cursor.skipBlanks
  if !startsBlank cursor.rest then
    throw ⟨"did not find expected whitespace or line break", context, cursor.mark⟩
  return (.tagDirective (String.ofList handle) start, cursor)

/-- Nothing but a comment may follow a directive on its line. -/
def readDirective (cursor : Cursor) : TokenRead := do
  let context := some "while scanning a directive"
  let (name, cursor) := (cursor.skip 1).span isWordCharacter
  if name.isEmpty then
    throw ⟨"could not find expected directive name", context, cursor.mark⟩
  if !startsBlank cursor.rest then
    throw ⟨"found unexpected non-alphabetical character", context, cursor.mark⟩
  let (token, cursor) ←
    if name = "YAML".toList then readVersion cursor
    else if name = "TAG".toList then readTagDirective cursor
    else throw ⟨"found unknown directive name", context, cursor.mark⟩
  let cursor := cursor.skipBlanks.skipComment
  match cursor.lineBreak? with
  | some (_, nextLine) => return (token, nextLine)
  | none =>
      if cursor.rest.isEmpty then return (token, cursor)
      else throw ⟨"did not find expected comment or line break", context, cursor.mark⟩

end DeskScript.Yaml
