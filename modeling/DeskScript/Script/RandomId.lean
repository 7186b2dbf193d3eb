/-
This file writes numbers drawn by chance as identities.
-/

import DeskScript.Decimal.Layout
import DeskScript.Text.Printable

namespace DeskScript.RandomId

/-- An identity has this many digits to the base sixteen. -/
def digitCount : Nat := 32

def digits (number : Nat) : List Char :=
  Decimal.padZeros digitCount (Text.hexDigits (number % 16 ^ digitCount))

/-- One digit tells that the identity was drawn by chance, and another one has four values only. -/
def marked (given : List Char) : List Char :=
  let variant := match given.getD 16 '0' with
    | '0' | '4' | '8' | 'c' => '8'
    | '1' | '5' | '9' | 'd' => '9'
    | '2' | '6' | 'a' | 'e' => 'a'
    | _ => 'b'
  (given.set 12 '4').set 16 variant

/-- The digits stand in five groups with dashes between them. -/
def grouped : List Nat → List Char → List Char
  | [], given => given
  | size :: rest, given => given.take size ++ '-' :: grouped rest (given.drop size)

def text (number : Nat) : String :=
  String.ofList (grouped [8, 4, 4, 4] (marked (digits number)))

end DeskScript.RandomId
