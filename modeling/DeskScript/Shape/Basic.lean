/-
This file reads typed values out of JSON values, and says what is wrong with a value that does not
have the shape of its type.
-/

import DeskScript.Json.Printer

namespace DeskScript

/-- A shape fault tells why a JSON value does not stand for a value of a type. -/
inductive ShapeFault where
  | wrongType (found : Json) (expected : String)
  | wrongValue (found : Json) (expected : String)
  | wrongLength (count : Nat) (expected : String)
  | missingField (name : String)
  | duplicateField (name : String)
  | unknownVariant (name : String) (known : List String)
  | noAlternative (name : String)
  | noValue
  | trailing
  | unreadableTime
  | impossibleTime
  | refused (reason : String)

namespace Shape

/-- This is how a message names a value that was found. -/
def describe : Json → String
  | .null => "null"
  | .bool value => "boolean \x60" ++ (if value then "true" else "false") ++ "\x60"
  | .number (.whole value) =>
      "integer \x60" ++ String.ofList (Decimal.intDigits value) ++ "\x60"
  | .number (.decimal value) =>
      "floating point \x60" ++ String.ofList (Decimal.NumberLayout.json.float value) ++ "\x60"
  | .string value => "string " ++ Text.quoted value
  | .array _ => "sequence"
  | .object _ => "map"

def ticked (name : String) : String := "\x60" ++ name ++ "\x60"

/-- This is how a message lists the names that would have been allowed. -/
def choices : List String → String
  | [] => "there are no variants"
  | [name] => "expected " ++ ticked name
  | [first, second] => "expected " ++ ticked first ++ " or " ++ ticked second
  | names => "expected one of " ++ ", ".intercalate (names.map ticked)

end Shape

def ShapeFault.message : ShapeFault → String
  | .wrongType found expected =>
      "invalid type: " ++ Shape.describe found ++ ", expected " ++ expected
  | .wrongValue found expected =>
      "invalid value: " ++ Shape.describe found ++ ", expected " ++ expected
  | .wrongLength count expected => "invalid length " ++ toString count ++ ", expected " ++ expected
  | .missingField name => "missing field " ++ Shape.ticked name
  | .duplicateField name => "duplicate field " ++ Shape.ticked name
  | .unknownVariant name known =>
      "unknown variant " ++ Shape.ticked name ++ ", " ++ Shape.choices known
  | .noAlternative name => "data did not match any variant of untagged enum " ++ name
  | .noValue => "expected value"
  | .trailing => "trailing characters"
  | .unreadableTime => "unreadable date and time"
  | .impossibleTime => "no possible date and time matching input"
  | .refused reason => reason

namespace Shape

abbrev Result (α : Type) := Except ShapeFault α

/--
A value comes from a document, from a part of one that was set aside until its type was known, or
from text that is read as it comes. The origin shows in the words for some faults.
-/
inductive Origin where
  | document
  | setAside
  | text
  deriving DecidableEq

def text : Json → Result String
  | .string value => .ok value
  | found => .error (.wrongType found "a string")

def flag : Json → Result Bool
  | .bool value => .ok value
  | found => .error (.wrongType found "a boolean")

/-- A whole number has to lie in a range, which a message knows by a name. -/
def within (least below : Int) (name : String) : Json → Result Int
  | .number (.whole value) =>
      if least ≤ value ∧ value < below then .ok value
      else .error (.wrongValue (.whole value) name)
  | found => .error (.wrongType found name)

def uint32 (found : Json) : Result UInt32 :=
  (within 0 (2 ^ 32) "u32" found).map fun value => UInt32.ofNat value.toNat

def uint64 (found : Json) : Result UInt64 :=
  (within 0 (2 ^ 64) "u64" found).map fun value => UInt64.ofNat value.toNat

/-- Sizes have 64 bits as well, but messages know them by another name. -/
def size (found : Json) : Result UInt64 :=
  (within 0 (2 ^ 64) "usize" found).map fun value => UInt64.ofNat value.toNat

def int32 (found : Json) : Result Int32 :=
  (within (-2 ^ 31) (2 ^ 31) "i32" found).map Int32.ofInt

/-- A whole number stands for the double nearest to it. -/
def float : Json → Result Float
  | .number value => .ok value.toFloat
  | found => .error (.wrongType found "f64")

/-- Null stands for an absent value. -/
def optional {α : Type} (read : Json → Result α) : Json → Result (Option α)
  | .null => .ok none
  | found => (read found).map some

def list {α : Type} (read : Json → Result α) : Json → Result (List α)
  | .array items => items.mapM read
  | found => .error (.wrongType found "a sequence")

/-- An object stands for a table. -/
def table {α : Type} (read : Json → Result α) : Json → Result (Table α)
  | .object members => do
      let entries ← members.mapM fun (key, found) => do return (key, ← read found)
      return Table.ofList entries
  | found => .error (.wrongType found "a map")

/-- A variant is known by one of several names. -/
def variantNamed {α : Type} (named : List (String × α)) (name : String) : Result α :=
  match named.lookup name with
  | some value => .ok value
  | none => .error (.unknownVariant name (named.map Prod.fst))

/--
A variant without content may have null for its content, and where it has been set aside also an
object without members.
-/
def emptyContent (origin : Origin) : Json → Result Unit
  | .null => .ok ()
  | found =>
      match origin, found with
      | .setAside, .object [] => .ok ()
      | _, _ => .error (.wrongType found "unit")

/--
A variant without content may also be written as an object with the variant as its only key. In
text that is read as it comes, further keys are noticed only after the first one.
-/
def variant {α : Type} (origin : Origin) (named : List (String × α)) (found : Json) : Result α :=
  match origin, found with
  | _, .string name => variantNamed named name
  | .text, .object ((name, content) :: rest) => do
      let value ← variantNamed named name
      emptyContent origin content
      if rest.isEmpty then return value else throw .noValue
  | .text, _ => .error .noValue
  | _, .object [(name, content)] => do
      let value ← variantNamed named name
      emptyContent origin content
      return value
  | _, .object members => .error (.wrongValue (.object members) "map with a single key")
  | _, found => .error (.wrongType found "string or map")

/-! ### Records -/

/-- A record may be written as an object, or as an array of its fields in their declared order. -/
inductive RecordForm where
  | object
  | array (count : Nat)

/-- These are the members of a record in the order in which they are read. -/
structure Fields where
  title : String
  declared : List String
  form : RecordForm
  members : List (String × Json)
  origin : Origin

def Fields.of (title : String) (declared : List String) (origin : Origin) : Json → Result Fields
  | .object members => .ok ⟨title, declared, .object, members, origin⟩
  | .array items => .ok ⟨title, declared, .array items.length, declared.zip items, origin⟩
  | found => .error (.wrongType found title)

/-- A slot is what has been found for one field. A field without a fallback must not be missing. -/
structure Slot (α : Type) where
  name : String
  found : Option (Result α)
  fallback : Option α

/-- This function reads a field that must be there. -/
def Fields.required {α : Type} (fields : Fields) (name : String) (read : Json → Result α) :
    Slot α :=
  ⟨name, (Json.member? fields.members name).map read, none⟩

/-- This function reads a field that may be left out. -/
def Fields.optional {α : Type} (fields : Fields) (name : String) (read : Json → Result α)
    (fallback : α) : Slot α :=
  ⟨name, (Json.member? fields.members name).map read, some fallback⟩

/-- This function reads a field that may be left out of an object, but not of an array. -/
def Fields.nullable {α : Type} (fields : Fields) (name : String) (read : Json → Result α) :
    Slot (Option α) :=
  let fallback := match fields.form with
    | .object => some none
    | .array _ => none
  ⟨name, (Json.member? fields.members name).map (Shape.optional read), fallback⟩

/-- A slot is settled when it holds a value or has a fallback. -/
structure SlotState where
  name : String
  fault : Option ShapeFault
  missing : Bool

def Slot.state {α : Type} (slot : Slot α) : SlotState :=
  match slot.found with
  | some (.ok _) => ⟨slot.name, none, false⟩
  | some (.error fault) => ⟨slot.name, some fault, false⟩
  | none => ⟨slot.name, none, slot.fallback.isNone⟩

/-- This is the value of a slot. -/
def Slot.value {α : Type} (slot : Slot α) : Result α :=
  match slot.found, slot.fallback with
  | some result, _ => result
  | none, some value => .ok value
  | none, none => .error (.missingField slot.name)

/-- The first faulty member in reading order is reported. No field may come twice. -/
def memberFault? (states : List SlotState) (seen : List String) :
    List (String × Json) → Option ShapeFault
  | [] => none
  | (name, _) :: rest =>
      match states.find? fun state => state.name = name with
      | none => memberFault? states seen rest
      | some state =>
          if seen.contains name then some (.duplicateField name)
          else state.fault.or (memberFault? states (name :: seen) rest)

/-- This is the title of a record with the number of its fields. -/
def Fields.titleWithCount (fields : Fields) : String :=
  let count := fields.declared.length
  fields.title ++ " with " ++ toString count ++ (if count = 1 then " element" else " elements")

/-- This is the fault of an array with more items than the record has fields. -/
def Fields.tooLong (fields : Fields) (count : Nat) : ShapeFault :=
  match fields.origin with
  | .document => .wrongLength count "fewer elements in array"
  | .setAside =>
      let declared := fields.declared.length
      .wrongLength count
        (toString declared ++ (if declared = 1 then " element" else " elements") ++ " in sequence")
  | .text => .trailing

/--
Faulty members are reported before missing ones, and missing ones in their declared order. An
array that is too long is reported last.
-/
def Fields.settle (fields : Fields) (states : List SlotState) : Result Unit :=
  match memberFault? states [] fields.members with
  | some fault => .error fault
  | none =>
      match states.find? SlotState.missing, fields.form with
      | some state, .object => .error (.missingField state.name)
      | some state, .array _ =>
          .error (.wrongLength (fields.declared.idxOf state.name) fields.titleWithCount)
      | none, .object => .ok ()
      | none, .array count =>
          if fields.declared.length < count then .error (fields.tooLong count) else .ok ()

/-! ### Tagged values -/

/--
A tagged value is an object in which one member, the tag, says what the other members stand for. It
may also be an array that starts with the tag. These are the tag and the rest.
-/
def tagged (title tag : String) : Json → Result (Json × Json)
  | .object members =>
      match members.filter fun (key, _) => key = tag with
      | [] => .error (.missingField tag)
      | [(_, found)] => .ok (found, .object (members.filter fun (key, _) => key ≠ tag))
      | _ => .error (.duplicateField tag)
  | .array [] => .error (.missingField tag)
  | .array (found :: rest) => .ok (found, .array rest)
  | found => .error (.wrongType found ("internally tagged enum " ++ title))

/-- The tag has to be one of the known names. -/
def tagName {α : Type} (named : List (String × α)) : Json → Result α
  | .string name =>
      match named.lookup name with
      | some value => .ok value
      | none => .error (.unknownVariant name (named.map Prod.fst))
  | found => .error (.wrongType found "variant identifier")

/-- A tag without content may stand beside members that mean nothing. -/
def noContent : Json → Result Unit
  | .array (first :: rest) =>
      .error (.wrongLength (first :: rest).length "0 elements in sequence")
  | _ => .ok ()

end Shape

end DeskScript
