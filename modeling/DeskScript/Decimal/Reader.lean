/-
This file reads whole numbers and doubles from decimal text.
-/

import DeskScript.Decimal.Dyadic

namespace DeskScript.Decimal

/-- This is the value of a digit in a radix of up to sixteen. -/
def digitValue? (radix : Nat) (character : Char) : Option Nat :=
  let value? :=
    if '0' ≤ character ∧ character ≤ '9' then some (character.toNat - 48)
    else if 'a' ≤ character ∧ character ≤ 'f' then some (character.toNat - 87)
    else if 'A' ≤ character ∧ character ≤ 'F' then some (character.toNat - 55)
    else none
  value?.filter fun value => value < radix

/-- This function continues a number with further digits, all of which have to be digits. -/
def digitsAfter? (radix : Nat) : Nat → List Char → Option Nat
  | value, [] => some value
  | value, character :: rest =>
      match digitValue? radix character with
      | some digit => digitsAfter? radix (value * radix + digit) rest
      | none => none

/-- This is the value of a nonempty row of digits. -/
def digits? (radix : Nat) (characters : List Char) : Option Nat :=
  if characters.isEmpty then none else digitsAfter? radix 0 characters

/-- A plus sign may stand before the digits, and the value has to lie below `bound`. -/
def natBelow? (radix bound : Nat) (characters : List Char) : Option Nat :=
  let digits := match characters with
    | '+' :: rest => rest
    | _ => characters
  (digits? radix digits).filter fun value => value < bound

/-- A sign may stand before the digits, and the value has to lie in `-bound ≤ value < bound`. -/
def intWithin? (radix bound : Nat) (characters : List Char) : Option Int :=
  match characters with
  | '-' :: rest => ((digits? radix rest).filter fun value => value ≤ bound).map fun value => -value
  | _ => (natBelow? radix bound characters).map Int.ofNat

/-- This is the value of a row of decimal digits. -/
def digitsValue (characters : List Char) : Nat :=
  characters.foldl (fun value character => value * 10 + (character.toNat - 48)) 0

/--
This is the double nearest to `significand * 10 ^ power`. Numbers far outside the range of
doubles are settled without computing the power.
-/
def floatOfDecimal (negative : Bool) (significand : Nat) (power : Int) : Float :=
  let size := Int.ofNat (significand.log2 / 3) + power
  if significand = 0 then nearestFloat negative 0 1
  else if 400 < Int.ofNat (significand.log2 / 4) + power then nearestFloat negative (2 ^ 1100) 1
  else if size < -400 then nearestFloat negative 0 1
  else nearestFloat negative (significand * 10 ^ power.toNat) (10 ^ (-power).toNat)

def isDecimalDigit (character : Char) : Bool :=
  '0' ≤ character && character ≤ '9'

/-- These are the parts of an unsigned decimal number, and the text after it. -/
structure DecimalParts where
  whole : List Char
  fraction : List Char
  exponent : Int
  rest : List Char

/--
An exponent is an `e`, an optional sign and at least one digit. It stays unread when it is
incomplete.
-/
def exponentOf (characters : List Char) : Int × List Char :=
  match characters with
  | mark :: rest =>
      if mark = 'e' || mark = 'E' then
        let signed := match rest with
          | '-' :: digits => (true, digits)
          | '+' :: digits => (false, digits)
          | digits => (false, digits)
        let digits := signed.2.takeWhile isDecimalDigit
        if digits.isEmpty then (0, characters)
        else
          let value := Int.ofNat (digitsValue digits)
          (if signed.1 then -value else value, signed.2.dropWhile isDecimalDigit)
      else (0, characters)
  | [] => (0, [])

/-- This function takes an unsigned decimal number apart. -/
def DecimalParts.of (characters : List Char) : DecimalParts :=
  let whole := characters.takeWhile isDecimalDigit
  let rest := characters.dropWhile isDecimalDigit
  let fractionAndRest := match rest with
    | '.' :: after => (after.takeWhile isDecimalDigit, after.dropWhile isDecimalDigit)
    | _ => ([], rest)
  let exponentAndRest := exponentOf fractionAndRest.2
  ⟨whole, fractionAndRest.1, exponentAndRest.1, exponentAndRest.2⟩

/-- This is the double that a signed decimal number stands for. -/
def DecimalParts.float (parts : DecimalParts) (negative : Bool) : Float :=
  floatOfDecimal negative (digitsValue (parts.whole ++ parts.fraction))
    (parts.exponent - parts.fraction.length)

/-- This test compares with a lower-case word of ASCII letters, in any case. -/
def sameWord (characters : List Char) (word : String) : Bool :=
  characters.map Char.toLower == word.toList

/--
A double is a decimal number with an optional sign, or one of the words for an infinity or for
what is not a number. Either side of the point may be empty, but not both.
-/
def float? (characters : List Char) : Option Float :=
  let signed := match characters with
    | '-' :: rest => (true, rest)
    | '+' :: rest => (false, rest)
    | _ => (false, characters)
  if sameWord signed.2 "inf" || sameWord signed.2 "infinity" then
    some (nearestFloat signed.1 (2 ^ 1100) 1)
  else if sameWord signed.2 "nan" then some (0 / 0)
  else
    let parts := DecimalParts.of signed.2
    if (parts.whole.isEmpty && parts.fraction.isEmpty) || !parts.rest.isEmpty then none
    else some (parts.float signed.1)

end DeskScript.Decimal
