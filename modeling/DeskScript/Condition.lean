/-
This file compares texts, which is how conditions of a script are decided.
-/

import DeskScript.Decimal.Reader
import DeskScript.Placeholder
import DeskScript.Shape.Basic

namespace DeskScript

inductive Operator where
  | equals
  | notEquals
  | contains
  | notContains
  | greaterThan
  | lessThan
  | exists_
  | notExists
  deriving DecidableEq

namespace Operator

/-- A unary operator looks at the left operand only. -/
def isUnary : Operator → Bool
  | .exists_ | .notExists => true
  | _ => false

def symbol : Operator → String
  | .equals => "=="
  | .notEquals => "!="
  | .contains => "contains"
  | .notContains => "!contains"
  | .greaterThan => ">"
  | .lessThan => "<"
  | .exists_ => "exists"
  | .notExists => "!exists"

def tag : Operator → String
  | .equals => "equals"
  | .notEquals => "not_equals"
  | .contains => "contains"
  | .notContains => "not_contains"
  | .greaterThan => "greater_than"
  | .lessThan => "less_than"
  | .exists_ => "exists"
  | .notExists => "not_exists"

/-- Two of the operators have a short name as well. -/
def named : List (String × Operator) :=
  [("equals", .equals), ("not_equals", .notEquals), ("contains", .contains),
    ("not_contains", .notContains), ("greater", .greaterThan), ("greater_than", .greaterThan),
    ("less", .lessThan), ("less_than", .lessThan), ("exists", .exists_), ("not_exists", .notExists)]

def ofJson (origin : Shape.Origin) : Json → Shape.Result Operator :=
  Shape.variant origin named

theorem namedTag (operator : Operator) : named.lookup operator.tag = some operator := by
  cases operator <;> rfl

end Operator

/-- This test asks whether a text occurs in another. -/
def occursIn (part : List Char) : List Char → Bool
  | [] => part.isEmpty
  | character :: rest => part.isPrefixOf (character :: rest) || occursIn part rest

/--
Texts that both read as numbers are compared as numbers, and other texts by the codes of their
characters. What is not a number is neither less nor greater.
-/
def compareSmart (left right : String) : Ordering :=
  match Decimal.float? (Text.trimChars left.toList),
      Decimal.float? (Text.trimChars right.toList) with
  | some first, some second =>
      if first < second then .lt else if second < first then .gt else .eq
  | _, _ => if left < right then .lt else if right < left then .gt else .eq

/-- This function decides a comparison of two operands without placeholders. -/
def Operator.holds (operator : Operator) (left right : String) : Bool :=
  match operator with
  | .equals => left = right
  | .notEquals => left ≠ right
  | .contains => occursIn right.toList left.toList
  | .notContains => !occursIn right.toList left.toList
  | .greaterThan => compareSmart left right = .gt
  | .lessThan => compareSmart left right = .lt
  | .exists_ => !left.isEmpty
  | .notExists => left.isEmpty

/-- A condition compares two operands, in which placeholders are replaced first. -/
structure Condition where
  left : String
  operator : Operator
  right : String
  deriving DecidableEq

/-- An evaluation tells the result and the operands that were compared. -/
structure Evaluation where
  result : Bool
  left : String
  right : String
  unresolved : List String
  deriving DecidableEq

namespace Condition

/-- The right operand of a unary operator is not looked at. -/
def rightResolution (condition : Condition) (bindings : Bindings) : Resolution :=
  if condition.operator.isUnary then ⟨"", []⟩ else Template.resolve condition.right bindings

def evaluate (condition : Condition) (bindings : Bindings) : Evaluation :=
  let left := Template.resolve condition.left bindings
  let right := condition.rightResolution bindings
  ⟨condition.operator.holds left.value right.value, left.value, right.value,
    Template.addNames left.unresolved right.unresolved⟩

/-- The right operand is written between quotes. -/
def text (condition : Condition) : String :=
  let start := condition.left ++ " " ++ condition.operator.symbol
  if condition.operator.isUnary then start else start ++ " " ++ Text.quoted condition.right

/-- An empty right operand is left out. -/
def toJson (condition : Condition) : Json :=
  .object ([("left", .string condition.left), ("operator", .string condition.operator.tag)] ++
    if condition.right.isEmpty then [] else [("right", .string condition.right)])

def ofJson (origin : Shape.Origin) (found : Json) : Shape.Result Condition := do
  let fields ← Shape.Fields.of "struct Condition" ["left", "operator", "right"] origin found
  let left := fields.required "left" Shape.text
  let operator := fields.required "operator" (Operator.ofJson origin)
  let right := fields.optional "right" Shape.text ""
  fields.settle [left.state, operator.state, right.state]
  return ⟨← left.value, ← operator.value, ← right.value⟩

end Condition

end DeskScript
