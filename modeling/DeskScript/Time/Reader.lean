/-
This file reads points in time from text.
-/

import DeskScript.Decimal.Reader
import DeskScript.Text.Blank
import DeskScript.Time.Timestamp

namespace DeskScript.Time

/-- A clock reading is a date, a time of day, and the distance of its zone from UTC in seconds. -/
structure ClockReading where
  date : Date
  hour : Nat
  minute : Nat
  second : Nat
  nanoseconds : Nat
  zone : Int

/-- A text is no reading, or its point in time has no date in UTC. -/
inductive ReadingFault where
  | unreadable
  | impossible
  deriving DecidableEq

/-- The sixtieth second of a minute is a leap second, which belongs to the second before it. -/
def ClockReading.toTimestamp (reading : ClockReading) : Except ReadingFault Timestamp :=
  if reading.date.isValid && reading.hour ≤ 23 && reading.minute ≤ 59 && reading.second ≤ 60 &&
      reading.zone.natAbs < 86400 then
    let leap := reading.second = 60
    let second := if leap then 59 else reading.second
    let seconds := reading.date.toDays * 86400 + reading.hour * 3600 + reading.minute * 60 +
      second - reading.zone
    let time : Timestamp :=
      ⟨seconds, if leap then reading.nanoseconds + 1000000000 else reading.nanoseconds⟩
    if isKnownYear time.date.year then .ok time else .error .impossible
  else .error .unreadable

/-- A reading step takes something from the front of a text and leaves the rest. -/
abbrev Step (result : Type) := List Char → Option (result × List Char)

def skipBlanks (text : List Char) : List Char :=
  text.dropWhile Text.isBlank

/-- This step takes one given character. -/
def takeChar (character : Char) : Step Unit
  | first :: rest => if first = character then some ((), rest) else none
  | [] => none

/-- This step takes at least `least` and at most `most` digits. -/
def takeDigits (least most : Nat) : Step Nat := fun text =>
  let digits := (text.take most).takeWhile Decimal.isDecimalDigit
  if digits.length < least then none
  else some (Decimal.digitsValue digits, text.drop digits.length)

/-- This step takes digits that blanks may precede. -/
def takeLooseDigits (most : Nat) : Step Nat := fun text =>
  takeDigits 1 most (skipBlanks text)

/-- This step takes one character that blanks may precede. -/
def takeLooseChar (character : Char) : Step Unit := fun text =>
  takeChar character (skipBlanks text)

/-- A mark stands between two parts of a reading. It is taken by a step of one's choice. -/
abbrev TakeMark := Char → Step Unit

/-- A signed year has any number of digits, and a year without a sign has at most four. -/
def takeLooseYear : Step Int := fun text =>
  match skipBlanks text with
  | '-' :: rest => (takeDigits 1 rest.length rest).map fun (year, rest) => (-Int.ofNat year, rest)
  | '+' :: rest => (takeDigits 1 rest.length rest).map fun (year, rest) => (Int.ofNat year, rest)
  | rest => (takeDigits 1 4 rest).map fun (year, rest) => (Int.ofNat year, rest)

/-- A part of a second is optional. Digits after the ninth are read and dropped. -/
def takeFraction : Step Nat
  | '.' :: text =>
      let digits := (text.take 9).takeWhile Decimal.isDecimalDigit
      if digits.isEmpty then none
      else some (Decimal.digitsValue digits * 10 ^ (9 - digits.length),
        text.dropWhile Decimal.isDecimalDigit)
  | text => some (0, text)

/-- The two parts of a zone have two digits each, and the second part lies below sixty. -/
def takeZoneDigits (negative : Bool) (between : List Char → Option (List Char)) : Step Int :=
  fun text => do
    let (hours, text) ← takeDigits 2 2 text
    let text ← between text
    let (minutes, text) ← takeDigits 2 2 text
    if 60 ≤ minutes then none
    else
      let seconds := Int.ofNat (hours * 3600 + minutes * 60)
      some (if negative then -seconds else seconds, text)

/-- A zone is a `Z`, or a sign with hours and minutes. -/
def takeZone (between : List Char → Option (List Char)) : Step Int
  | 'Z' :: rest => some (0, rest)
  | 'z' :: rest => some (0, rest)
  | '+' :: rest => takeZoneDigits false between rest
  | '-' :: rest => takeZoneDigits true between rest
  | '\u2212' :: rest => takeZoneDigits true between rest
  | _ => none

/-- A `T` in any case or one space stands between the date and the time of day. -/
def takeSeparator : Step Unit
  | 'T' :: rest => some ((), rest)
  | 't' :: rest => some ((), rest)
  | ' ' :: rest => some ((), rest)
  | _ => none

/-- This step takes a date whose parts may be short and have blanks before them. -/
def takeLooseDate (takeMark : TakeMark) : Step Date := fun text => do
  let (year, text) ← takeLooseYear text
  let (_, text) ← takeMark '-' text
  let (month, text) ← takeLooseDigits 2 text
  let (_, text) ← takeMark '-' text
  let (day, text) ← takeLooseDigits 2 text
  some (⟨year, month, day⟩, text)

/-- This step takes a time of day whose parts may be short and have blanks before them. -/
def takeLooseTime (takeMark : TakeMark) (date : Date) : Step ClockReading := fun text => do
  let (hour, text) ← takeLooseDigits 2 text
  let (_, text) ← takeMark ':' text
  let (minute, text) ← takeLooseDigits 2 text
  let (_, text) ← takeMark ':' text
  let (second, text) ← takeLooseDigits 2 text
  let (nanoseconds, text) ← takeFraction text
  some (⟨date, hour, minute, second, nanoseconds, 0⟩, text)

/-- The zone of a relaxed reading may also be the three letters of UTC in any case. -/
def takeLooseZone : Step Int := fun text =>
  if Decimal.sameWord (text.take 3) "utc" then some (0, text.drop 3)
  else takeZone
    (fun rest => some (rest.dropWhile fun character => character = ':' || Text.isBlank character))
    text

/-- Blanks may stand before the marks of a relaxed reading and after it. -/
def takeRelaxed? (text : String) : Option ClockReading := do
  let (date, rest) ← takeLooseDate takeLooseChar text.toList
  let (_, rest) ← takeSeparator rest
  let (reading, rest) ← takeLooseTime takeLooseChar date rest
  let (zone, rest) ← takeLooseZone (skipBlanks rest)
  if (skipBlanks rest).isEmpty then some { reading with zone } else none

def readRelaxed (text : String) : Except ReadingFault Timestamp :=
  match takeRelaxed? text with
  | some reading => reading.toTimestamp
  | none => .error .unreadable

/-- A strict reading has the exact number of digits in every part. -/
def readStrict? (text : String) : Option Timestamp := do
  let (year, rest) ← takeDigits 4 4 text.toList
  let (_, rest) ← takeChar '-' rest
  let (month, rest) ← takeDigits 2 2 rest
  let (_, rest) ← takeChar '-' rest
  let (day, rest) ← takeDigits 2 2 rest
  let (_, rest) ← takeSeparator rest
  let (hour, rest) ← takeDigits 2 2 rest
  let (_, rest) ← takeChar ':' rest
  let (minute, rest) ← takeDigits 2 2 rest
  let (_, rest) ← takeChar ':' rest
  let (second, rest) ← takeDigits 2 2 rest
  let (nanoseconds, rest) ← takeFraction rest
  let (zone, rest) ← takeZone (fun rest => (takeChar ':' rest).map Prod.snd) rest
  if rest.isEmpty then
    (ClockReading.toTimestamp
      ⟨⟨year, month, day⟩, hour, minute, second, nanoseconds, zone⟩).toOption
  else none

/-- A reading without a zone is taken as UTC. -/
def readNaive? (text : String) : Option Timestamp := do
  let (date, rest) ← takeLooseDate takeChar text.toList
  let (_, rest) ← takeChar 'T' rest
  let (reading, rest) ← takeLooseTime takeChar date rest
  if rest.isEmpty then reading.toTimestamp.toOption else none

end DeskScript.Time
