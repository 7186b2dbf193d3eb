/-
This file holds JSON values.
-/

import DeskScript.Table

namespace DeskScript

/-- A number of a document is a whole number of at most 64 bits or a double. -/
inductive Number where
  | whole (value : Int)
  | decimal (value : Float)
  deriving DecidableEq

/-- Doubles are compared as numbers, and a whole number never equals a double. -/
def Number.same : Number → Number → Bool
  | .whole first, .whole second => first = second
  | .decimal first, .decimal second => first == second
  | _, _ => false

/-- This is the double nearest to a whole number of at most 64 bits. -/
def floatOfWhole (value : Int) : Float :=
  if value < 0 then -(UInt64.ofNat value.natAbs).toFloat else (UInt64.ofNat value.toNat).toFloat

def Number.toFloat : Number → Float
  | .whole value => floatOfWhole value
  | .decimal value => value

/-- The members of an object stand in the order in which they were written. -/
inductive Json where
  | null
  | bool (value : Bool)
  | number (value : Number)
  | string (value : String)
  | array (items : List Json)
  | object (members : List (String × Json))

namespace Json

instance : Inhabited Json := ⟨.null⟩

/-- This is a whole number. -/
def whole (value : Int) : Json := .number (.whole value)

def nat (value : Nat) : Json := .number (.whole (Int.ofNat value))

def decimal (value : Float) : Json := .number (.decimal value)

def texts (values : List String) : Json := .array (values.map .string)

/-- A table becomes an object whose members are in key order. -/
def ofTexts (table : Table String) : Json :=
  .object (table.entries.map fun (key, value) => (key, .string value))

/-- This is the member of an object with a given key. -/
def member? (members : List (String × Json)) (key : String) : Option Json :=
  lookUp? key members

def text? : Json → Option String
  | .string value => some value
  | _ => none

def bool? : Json → Option Bool
  | .bool value => some value
  | _ => none

/-- This is the double nearest to a number. -/
def float? : Json → Option Float
  | .number value => some value.toFloat
  | _ => none

def whole? : Json → Option Int
  | .number (.whole value) => some value
  | _ => none

mutual

/-- This is the number of arrays and objects around the innermost value. -/
def nesting : Json → Nat
  | .array items => nestingOfItems items + 1
  | .object members => nestingOfMembers members + 1
  | _ => 0

def nestingOfItems : List Json → Nat
  | [] => 0
  | item :: rest => max item.nesting (nestingOfItems rest)

def nestingOfMembers : List (String × Json) → Nat
  | [] => 0
  | (_, item) :: rest => max item.nesting (nestingOfMembers rest)

end

mutual

/--
In the canonical form of a value the members of every object are in key order, and of the members
with one key only the last is kept.
-/
def canonical : Json → Json
  | .array items => .array (canonicalItems items)
  | .object members => .object (canonicalMembers [] members)
  | value => value

def canonicalItems : List Json → List Json
  | [] => []
  | item :: rest => item.canonical :: canonicalItems rest

def canonicalMembers (sorted : List (String × Json)) :
    List (String × Json) → List (String × Json)
  | [] => sorted
  | (key, item) :: rest => canonicalMembers (putEntry key item.canonical sorted) rest

end

mutual

/-- Two values are the same when they hold the same members and items in the same order. -/
def same : Json → Json → Bool
  | .null, .null => true
  | .bool first, .bool second => first = second
  | .number first, .number second => first.same second
  | .string first, .string second => first = second
  | .array first, .array second => sameItems first second
  | .object first, .object second => sameMembers first second
  | _, _ => false

def sameItems : List Json → List Json → Bool
  | [], [] => true
  | first :: firstRest, second :: secondRest => first.same second && sameItems firstRest secondRest
  | _, _ => false

def sameMembers : List (String × Json) → List (String × Json) → Bool
  | [], [] => true
  | (firstKey, first) :: firstRest, (secondKey, second) :: secondRest =>
      firstKey = secondKey && first.same second && sameMembers firstRest secondRest
  | _, _ => false

end

end Json

end DeskScript
