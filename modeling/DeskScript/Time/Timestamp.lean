/-
This file counts days in the proleptic Gregorian calendar, holds points in time, and writes points
and lengths of time as text.
-/

import DeskScript.Decimal.Layout

namespace DeskScript.Time

/-! ### Dates -/

structure Date where
  year : Int
  month : Nat
  day : Nat
  deriving DecidableEq, Repr

def isLeapYear (year : Int) : Bool :=
  year % 4 = 0 && (year % 100 ≠ 0 || year % 400 = 0)

def daysInMonth (year : Int) (month : Nat) : Nat :=
  if month = 2 then (if isLeapYear year then 29 else 28)
  else if month = 4 || month = 6 || month = 9 || month = 11 then 30
  else 31

/-- These years can be written as a date. -/
def isKnownYear (year : Int) : Bool :=
  -262143 ≤ year && year ≤ 262142

/-- A date is valid when its month and its day exist in its year. -/
def Date.isValid (date : Date) : Bool :=
  isKnownYear date.year && 1 ≤ date.month && date.month ≤ 12 && 1 ≤ date.day &&
    date.day ≤ daysInMonth date.year date.month

/--
This is the number of days from the first of January 1970. Years are counted from March, so that
a leap day is the last day of its year.
-/
def Date.toDays (date : Date) : Int :=
  let year := if date.month ≤ 2 then date.year - 1 else date.year
  let era := year.fdiv 400
  let yearOfEra := year - era * 400
  let monthFromMarch : Int := (date.month + 9) % 12
  let dayOfYear := (153 * monthFromMarch + 2) / 5 + date.day - 1
  let dayOfEra := yearOfEra * 365 + yearOfEra / 4 - yearOfEra / 100 + dayOfYear
  era * 146097 + dayOfEra - 719468

/-- This is the date a number of days after the first of January 1970. -/
def Date.ofDays (days : Int) : Date :=
  let shifted := days + 719468
  let era := shifted.fdiv 146097
  let dayOfEra := (shifted - era * 146097).toNat
  let yearOfEra := (dayOfEra - dayOfEra / 1460 + dayOfEra / 36524 - dayOfEra / 146096) / 365
  let dayOfYear := dayOfEra - (365 * yearOfEra + yearOfEra / 4 - yearOfEra / 100)
  let monthFromMarch := (5 * dayOfYear + 2) / 153
  let day := dayOfYear - (153 * monthFromMarch + 2) / 5 + 1
  let month := if monthFromMarch < 10 then monthFromMarch + 3 else monthFromMarch - 9
  let year := Int.ofNat yearOfEra + era * 400
  ⟨if month ≤ 2 then year + 1 else year, month, day⟩

/-! ### Lengths of time -/

/-- Zeros at the end of a fraction are left out. -/
def fractionOfThousand (thousandths : Nat) : List Char :=
  let digits := (Decimal.padZeros 3 (Decimal.natDigits thousandths)).reverse.dropWhile (· = '0')
  if digits.isEmpty then [] else '.' :: digits.reverse

/-- Lengths of one second or more are written in seconds, and shorter ones in milliseconds. -/
def durationDigits (milliseconds : Nat) : List Char :=
  if milliseconds = 0 then ['0', 'n', 's']
  else if milliseconds < 1000 then Decimal.natDigits milliseconds ++ ['m', 's']
  else
    Decimal.natDigits (milliseconds / 1000) ++ fractionOfThousand (milliseconds % 1000) ++ ['s']

def durationText (milliseconds : Nat) : String := String.ofList (durationDigits milliseconds)

/-! ### Points in time -/

/--
A point in time counts whole seconds from the start of 1970 and nanoseconds in that second.
In a leap second the nanoseconds go on from one thousand million.
-/
structure Timestamp where
  seconds : Int
  nanoseconds : Nat
  deriving DecidableEq, Repr

/-- This is the start of 1970. -/
def Timestamp.epoch : Timestamp := ⟨0, 0⟩

/-- An earlier point in time is smaller. -/
def Timestamp.isBefore (first second : Timestamp) : Bool :=
  first.seconds < second.seconds ||
    (first.seconds = second.seconds && first.nanoseconds < second.nanoseconds)

def Timestamp.addMilliseconds (time : Timestamp) (milliseconds : Nat) : Timestamp :=
  let total := time.nanoseconds + milliseconds * 1000000
  ⟨time.seconds + total / 1000000000, total % 1000000000⟩

/-- This is the date of a point in time. -/
def Timestamp.date (time : Timestamp) : Date :=
  Date.ofDays (time.seconds.fdiv 86400)

/-- These are the seconds since midnight. -/
def Timestamp.secondOfDay (time : Timestamp) : Nat :=
  (time.seconds.fmod 86400).toNat

/--
This is the time between two points in milliseconds, without the part of a millisecond. A leap
second that lies between them counts.
-/
def Timestamp.millisecondsSince (later earlier : Timestamp) : Int :=
  let leap : Int :=
    if earlier.secondOfDay < later.secondOfDay then
      (if 1000000000 ≤ earlier.nanoseconds then 1 else 0)
    else if later.secondOfDay < earlier.secondOfDay then
      (if 1000000000 ≤ later.nanoseconds then -1 else 0)
    else 0
  let nanoseconds := (later.seconds - earlier.seconds + leap) * 1000000000 +
    (Int.ofNat later.nanoseconds - Int.ofNat earlier.nanoseconds)
  nanoseconds.tdiv 1000000

def twoDigits (value : Nat) : List Char :=
  Decimal.padZeros 2 (Decimal.natDigits value)

/-- A year has four digits, or a sign and at least four digits when it needs more than that. -/
def yearDigits (year : Int) : List Char :=
  if 0 ≤ year ∧ year ≤ 9999 then Decimal.padZeros 4 (Decimal.natDigits year.toNat)
  else (if year < 0 then '-' else '+') :: Decimal.padZeros 4 (Decimal.natDigits year.natAbs)

def Date.digits (date : Date) : List Char :=
  yearDigits date.year ++ '-' :: twoDigits date.month ++ '-' :: twoDigits date.day

/-- The part of a second has no digits, or the fewest of three, six and nine that are exact. -/
def fractionDigits (nanoseconds : Nat) : List Char :=
  if nanoseconds = 0 then []
  else if nanoseconds % 1000000 = 0 then
    '.' :: Decimal.padZeros 3 (Decimal.natDigits (nanoseconds / 1000000))
  else if nanoseconds % 1000 = 0 then
    '.' :: Decimal.padZeros 6 (Decimal.natDigits (nanoseconds / 1000))
  else '.' :: Decimal.padZeros 9 (Decimal.natDigits nanoseconds)

/-- This is the date, a `T`, and the time of day down to its part of a second. -/
def Timestamp.digits (time : Timestamp) : List Char :=
  let second := time.secondOfDay
  let leap := 1000000000 ≤ time.nanoseconds
  time.date.digits ++ 'T' :: twoDigits (second / 3600) ++ ':' :: twoDigits (second / 60 % 60) ++
    ':' :: twoDigits (second % 60 + if leap then 1 else 0) ++
    fractionDigits (time.nanoseconds % 1000000000)

/-- This is the RFC 3339 text of a point in time, with `Z` for the zone. -/
def Timestamp.text (time : Timestamp) : String :=
  String.ofList (time.digits ++ ['Z'])

/-- This is the RFC 3339 text of a point in time, with a numeric zone. -/
def Timestamp.offsetText (time : Timestamp) : String :=
  String.ofList (time.digits ++ ['+', '0', '0', ':', '0', '0'])

/-- This is the date and the time of day without seconds. -/
def Timestamp.minuteText (time : Timestamp) : String :=
  let second := time.secondOfDay
  String.ofList (time.date.digits ++ ' ' :: twoDigits (second / 3600) ++
    ':' :: twoDigits (second / 60 % 60))

/-- This is the stamp of a file name: date, time of day and microseconds. -/
def Timestamp.stamp (time : Timestamp) : String :=
  let second := time.secondOfDay
  let date := time.date
  let leap := 1000000000 ≤ time.nanoseconds
  String.ofList (yearDigits date.year ++ twoDigits date.month ++ twoDigits date.day ++
    '_' :: twoDigits (second / 3600) ++ twoDigits (second / 60 % 60) ++
    twoDigits (second % 60 + if leap then 1 else 0) ++
    '_' :: Decimal.padZeros 6 (Decimal.natDigits (time.nanoseconds % 1000000000 / 1000)))

end DeskScript.Time
