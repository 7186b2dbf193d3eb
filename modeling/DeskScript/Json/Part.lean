/-
This file reads the wanted parts of JSON text and passes over the others. What is passed over has to
be in the form of JSON, but it need not have a value.
-/

import DeskScript.Json.Reader

namespace DeskScript.Json

/-! ### Passing over values -/

def isSimpleEscape (character : Char) : Bool :=
  ['"', '\\', '/', 'b', 'f', 'n', 'r', 't'].contains character

/--
This function passes over the rest of a text up to its closing quote. The codes of escapes need not
be characters.
-/
def passText : List Char → Option (List Char)
  | [] => none
  | '"' :: rest => some rest
  | '\\' :: 'u' :: first :: second :: third :: fourth :: rest =>
      if (Decimal.digits? 16 [first, second, third, fourth]).isSome then passText rest else none
  | '\\' :: character :: rest => if isSimpleEscape character then passText rest else none
  | character :: rest => if character.toNat < 0x20 then none else passText rest

/-- This function passes over an unsigned number of any size. -/
def passNumber (text : List Char) : Option (List Char) :=
  let parts := Decimal.DecimalParts.of text
  if isCompleteNumber text parts then some parts.rest else none

def passWord (word text : List Char) : Option (List Char) :=
  if word.isPrefixOf text then some (text.drop word.length) else none

mutual

/-- This function passes over one value at the front of a text. -/
def passValue : Nat → List Char → Option (List Char)
  | 0, _ => none
  | fuel + 1, text =>
      match skipSpace text with
      | '[' :: rest =>
          match skipSpace rest with
          | ']' :: rest => some rest
          | rest => passItems fuel rest
      | '\x7b' :: rest =>
          match skipSpace rest with
          | '\x7d' :: rest => some rest
          | rest => passMembers fuel rest
      | '"' :: rest => passText rest
      | '-' :: rest => passNumber rest
      | 'n' :: rest => passWord ['u', 'l', 'l'] rest
      | 't' :: rest => passWord ['r', 'u', 'e'] rest
      | 'f' :: rest => passWord ['a', 'l', 's', 'e'] rest
      | rest => passNumber rest

/-- This function passes over items up to the closing bracket. -/
def passItems : Nat → List Char → Option (List Char)
  | 0, _ => none
  | fuel + 1, text =>
      match (passValue fuel text).map skipSpace with
      | some (',' :: rest) => passItems fuel rest
      | some (']' :: rest) => some rest
      | _ => none

/-- This function passes over members up to the closing brace. -/
def passMembers : Nat → List Char → Option (List Char)
  | 0, _ => none
  | fuel + 1, text =>
      match skipSpace text with
      | '"' :: rest =>
          match (passText rest).map skipSpace with
          | some (':' :: rest) =>
              match (passValue fuel rest).map skipSpace with
              | some (',' :: rest) => passMembers fuel rest
              | some ('\x7d' :: rest) => some rest
              | _ => none
          | _ => none
      | _ => none

end

/-! ### Parts -/

/--
A part tells what is wanted of a value: all of it, nothing of it, or some of its members with a part
of each. In an array the members stand in the order in which they are listed.
-/
inductive Part where
  | whole
  | nothing
  | members (wanted : List (String × Part))

namespace Part

/-- This is the wanted part of a member with a given key. -/
def ofMember (key : String) : Part → Part
  | .members wanted => (lookUp? key wanted).getD .nothing
  | part => part

/-- This is the wanted part of the first item. -/
def ofFirst : Part → Part
  | .members [] => .nothing
  | .members ((_, part) :: _) => part
  | part => part

/-- This is the wanted part of the items after the first. -/
def afterFirst : Part → Part
  | .members (_ :: wanted) => .members wanted
  | part => part

end Part

mutual

/-- This function reads the wanted part of one value. What is not wanted is null. -/
def readPart : Part → Nat → List Char → Option (Json × List Char)
  | _, 0, _ => none
  | .whole, fuel + 1, text => readValue (fuel + 1) text
  | .nothing, fuel + 1, text => (passValue (fuel + 1) text).map fun rest => (.null, rest)
  | .members wanted, fuel + 1, text =>
      match skipSpace text with
      | '[' :: rest =>
          match skipSpace rest with
          | ']' :: rest => some (.array [], rest)
          | rest =>
              (readItemParts (.members wanted) fuel rest).map fun (items, rest) =>
                (.array items, rest)
      | '\x7b' :: rest =>
          match skipSpace rest with
          | '\x7d' :: rest => some (.object [], rest)
          | rest =>
              (readMemberParts (.members wanted) fuel rest).map fun (members, rest) =>
                (.object members, rest)
      | rest => readValue (fuel + 1) rest

/-- This function reads the wanted parts of items up to the closing bracket. -/
def readItemParts : Part → Nat → List Char → Option (List Json × List Char)
  | _, 0, _ => none
  | part, fuel + 1, text =>
      match readPart part.ofFirst fuel text with
      | none => none
      | some (item, rest) =>
          match skipSpace rest with
          | ',' :: rest =>
              (readItemParts part.afterFirst fuel rest).map fun (items, rest) =>
                (item :: items, rest)
          | ']' :: rest => some ([item], rest)
          | _ => none

/-- This function reads the wanted parts of members up to the closing brace. -/
def readMemberParts : Part → Nat → List Char → Option (List (String × Json) × List Char)
  | _, 0, _ => none
  | part, fuel + 1, text =>
      match skipSpace text with
      | '"' :: rest =>
          match readText rest with
          | none => none
          | some (key, rest) =>
              match skipSpace rest with
              | ':' :: rest =>
                  match readPart (part.ofMember key) fuel rest with
                  | none => none
                  | some (item, rest) =>
                      match skipSpace rest with
                      | ',' :: rest =>
                          (readMemberParts part fuel rest).map fun (members, rest) =>
                            ((key, item) :: members, rest)
                      | '\x7d' :: rest => some ([(key, item)], rest)
                      | _ => none
              | _ => none
      | _ => none

end

/-- This is the wanted part of the value of a whole text. -/
def parsePart? (part : Part) (text : String) : Option Json :=
  let characters := text.toList
  match readPart part (2 * characters.length + 2) characters with
  | some (value, rest) => if (skipSpace rest).isEmpty then some value else none
  | none => none

end DeskScript.Json
