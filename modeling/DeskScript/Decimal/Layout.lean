/-
This file lays out the digits of a number as text.
-/

import DeskScript.Decimal.Shortest

namespace DeskScript.Decimal

/-- This is a natural number in decimal digits. -/
def natDigits (value : Nat) : List Char :=
  Nat.toDigits 10 value

/-- This is a number in decimal digits, with a minus sign in front when it is negative. -/
def intDigits (value : Int) : List Char :=
  if value < 0 then '-' :: natDigits value.natAbs else natDigits value.natAbs

def zeros (count : Nat) : List Char :=
  List.replicate count '0'

/-- This function puts zeros in front until a text has a given width. -/
def padZeros (width : Nat) (digits : List Char) : List Char :=
  zeros (width - digits.length) ++ digits

/-- A number layout names the mark that opens an exponent of zero or more. -/
structure NumberLayout where
  exponentMark : List Char

/-- JSON text writes a plus sign before an exponent of zero or more. -/
def NumberLayout.json : NumberLayout := ⟨['e', '+']⟩

/-- YAML text writes no sign before an exponent of zero or more. -/
def NumberLayout.yaml : NumberLayout := ⟨['e']⟩

/--
Digits are written positionally when the first of them stands for a power of ten from -5 to 15,
and then there is always a point. Otherwise one digit stands before the point and an exponent
follows.
-/
def NumberLayout.positive (layout : NumberLayout) (value : Nat) (power : Int) : List Char :=
  let digits := natDigits value
  let lead := Int.ofNat digits.length - 1 + power
  if lead < -5 || 15 < lead then
    let mark := if lead < 0 then ['e', '-'] else layout.exponentMark
    let fraction := digits.drop 1
    digits.take 1 ++ (if fraction.isEmpty then [] else '.' :: fraction) ++ mark ++
      natDigits lead.natAbs
  else if 0 ≤ power then digits ++ zeros power.toNat ++ ['.', '0']
  else if 0 ≤ lead then
    digits.take (lead.toNat + 1) ++ '.' :: digits.drop (lead.toNat + 1)
  else ['0', '.'] ++ zeros (-lead - 1).toNat ++ digits

/-- This is the shortest text that reads back as the same double. -/
def NumberLayout.float (layout : NumberLayout) (value : Float) : List Char :=
  match Dyadic.ofFloat? value with
  | none => ['n', 'u', 'l', 'l']
  | some number =>
      let magnitude :=
        if number.significand = 0 then ['0', '.', '0']
        else
          let shortest := shortestDigits number
          layout.positive shortest.1 shortest.2
      if number.negative then '-' :: magnitude else magnitude

/--
This is a double with a fixed number of places. The exact value is rounded, and an exact half
goes to the even digit.
-/
def fixedPlaces (places : Nat) (value : Float) : String :=
  match Dyadic.ofFloat? value with
  | none =>
      if value.isNaN then "NaN" else if value < 0 then "-inf" else "inf"
  | some number =>
      let rounded :=
        roundDiv (number.significand * 2 ^ number.exponent.toNat * 10 ^ places)
          (2 ^ (-number.exponent).toNat)
      let digits := padZeros (places + 1) (natDigits rounded)
      let split := digits.length - places
      let magnitude :=
        digits.take split ++ (if places = 0 then [] else '.' :: digits.drop split)
      String.ofList (if number.negative then '-' :: magnitude else magnitude)

end DeskScript.Decimal
