/-
This file shows that days and dates of the calendar stand for each other, and that the text of a
point in time is read as the same point in time.
-/

import DeskScript.Proofs.Decimal.Digits
import DeskScript.Time.Timestamp
import DeskScript.Time.Reader
import Mathlib.Tactic.IntervalCases

namespace DeskScript.Time

/-! ### Eras -/

/-- The first year of an era with more than so many days before it, counted from zero. -/
def yearOfEra (day : Nat) : Nat :=
  (day - day / 1460 + day / 36524 - day / 146096) / 365

/-- This is the number of days of an era before a year. -/
def daysBeforeYear (year : Nat) : Nat :=
  365 * year + year / 4 - year / 100

/--
A day of an era lies in a century, in four years of it, in one of these, and in that year. Only the
last of four years has another day, and only the last of four centuries has it in its last year.
-/
theorem partsOfEra (day : Nat) (inEra : day < 146097) :
    ∃ century four year rest, century ≤ 3 ∧ four ≤ 24 ∧ year ≤ 3 ∧ rest ≤ 365 ∧
      (rest = 365 → year = 3 ∧ (four = 24 → century = 3)) ∧
      day = 36524 * century + 1461 * four + 365 * year + rest := by
  obtain ⟨century, inCentury, isCentury, centuryBound, inCenturyBound, isLast⟩ :
      ∃ century inCentury, day = 36524 * century + inCentury ∧ century ≤ 3 ∧ inCentury ≤ 36524 ∧
        (inCentury = 36524 → century = 3) :=
    ⟨min (day / 36524) 3, day - 36524 * min (day / 36524) 3, by omega⟩
  obtain ⟨four, inFour, isFour, inFourBound⟩ :
      ∃ four inFour, inCentury = 1461 * four + inFour ∧ inFour < 1461 :=
    ⟨inCentury / 1461, inCentury % 1461, by omega⟩
  exact ⟨century, four, min (inFour / 365) 3, inFour - 365 * min (inFour / 365) 3, by omega⟩

/-- The parts of a day tell its year. -/
theorem yearOfParts (century four year rest : Nat) (centuryBound : century ≤ 3) (fourBound : four ≤ 24)
    (yearBound : year ≤ 3) (restBound : rest ≤ 365)
    (isLeapDay : rest = 365 → year = 3 ∧ (four = 24 → century = 3)) :
    yearOfEra (36524 * century + 1461 * four + 365 * year + rest) =
      100 * century + 4 * four + year := by
  generalize isDay : 36524 * century + 1461 * four + 365 * year + rest = day
  have byFours : day / 1460 = 25 * century + four + (24 * century + four + 365 * year + rest) / 1460 := by
    omega
  have byCenturies : day / 36524 = century + day / 146096 := by
    by_cases isLast : day = 146096
    · subst isLast
      omega
    · have inCentury : 1461 * four + 365 * year + rest ≤ 36523 := by omega
      omega
  rw [yearOfEra, byFours, byCenturies]
  omega

theorem daysBeforeParts (century four year : Nat) (fourBound : four ≤ 24) (yearBound : year ≤ 3) :
    daysBeforeYear (100 * century + 4 * four + year) = 36524 * century + 1461 * four + 365 * year := by
  rw [daysBeforeYear]
  omega

/-! ### Years from March -/

/-- This is the date of a day in a year that starts with March. -/
def dateFromMarch (year : Int) (day : Nat) : Date :=
  let monthFromMarch := (5 * day + 2) / 153
  let month := if monthFromMarch < 10 then monthFromMarch + 3 else monthFromMarch - 9
  ⟨if month ≤ 2 then year + 1 else year, month, day - (153 * monthFromMarch + 2) / 5 + 1⟩

/-- Every day is one of a year that starts with March, and the year has it. -/
theorem ofDaysFromMarch (days : Int) :
    ∃ (era : Int) (year day : Nat), year < 400 ∧ day ≤ 365 ∧
      (day = 365 → isLeapYear (year + era * 400 + 1) = true) ∧
      days + 719468 = era * 146097 + (daysBeforeYear year + day) ∧
      Date.ofDays days = dateFromMarch (year + era * 400) day := by
  generalize isEra : (days + 719468).fdiv 146097 = era
  generalize isDay : (days + 719468 - era * 146097).toNat = dayOfEra
  have isDate : Date.ofDays days =
      dateFromMarch (yearOfEra dayOfEra + era * 400)
        (dayOfEra - daysBeforeYear (yearOfEra dayOfEra)) := by
    rw [← isDay, ← isEra]
    rfl
  have isWhole : days + 719468 = era * 146097 + dayOfEra ∧ dayOfEra < 146097 := by
    rw [Int.fdiv_eq_ediv_of_nonneg _ (by decide)] at isEra
    omega
  obtain ⟨century, four, year, rest, centuryBound, fourBound, yearBound, restBound, isLeapDay,
    rfl⟩ := partsOfEra dayOfEra isWhole.2
  rw [yearOfParts century four year rest centuryBound fourBound yearBound restBound isLeapDay,
    daysBeforeParts century four year fourBound yearBound, Nat.add_sub_cancel_left] at isDate
  refine ⟨era, 100 * century + 4 * four + year, rest, by omega, restBound, ?_, ?_, isDate⟩
  · intro isLast
    obtain ⟨rfl, lastFour⟩ := isLeapDay isLast
    rw [isLeapYear]
    simp only [Bool.and_eq_true, Bool.or_eq_true, decide_eq_true_eq]
    push_cast
    omega
  · rw [daysBeforeParts century four year fourBound yearBound]
    exact_mod_cast isWhole.1

/-- A date of a year from March gives the days before the year and the day in it. -/
theorem toDaysFromMarch (era : Int) (year day : Nat) (inEra : year < 400) (inYear : day ≤ 365) :
    (dateFromMarch (year + era * 400) day).toDays =
      era * 146097 + (daysBeforeYear year + day) - 719468 := by
  have monthBound : (5 * day + 2) / 153 ≤ 11 := by omega
  unfold dateFromMarch Date.toDays daysBeforeYear
  simp only [Int.fdiv_eq_ediv_of_nonneg _ (by decide : (0 : Int) ≤ 400)]
  generalize isMonth : (5 * day + 2) / 153 = month at monthBound
  have isEra : ((year : Int) + era * 400) / 400 = era := by omega
  by_cases isEarly : month < 10
  · have later : ¬month + 3 ≤ 2 := by omega
    have fromMarch : (((month + 3 : Nat) : Int) + 9) % 12 = month := by omega
    simp only [if_pos isEarly, if_neg later, isEra, fromMarch, Int.add_sub_cancel]
    omega
  · have sooner : month - 9 ≤ 2 := by omega
    have fromMarch : (((month - 9 : Nat) : Int) + 9) % 12 = month := by omega
    simp only [if_neg isEarly, if_pos sooner, isEra, fromMarch, Int.add_sub_cancel]
    omega

/-- The days of the date of a day are that day. -/
theorem daysOfDate (days : Int) : (Date.ofDays days).toDays = days := by
  obtain ⟨era, year, day, inEra, inYear, -, isDay, isDate⟩ := ofDaysFromMarch days
  rw [isDate, toDaysFromMarch era year day inEra inYear]
  omega

/-- The months of a year from March are as long as those of the calendar. -/
theorem fromMarchValid (year : Int) (day : Nat) (inYear : day ≤ 365)
    (isLeapDay : day = 365 → isLeapYear (year + 1) = true)
    (isKnown : isKnownYear (dateFromMarch year day).year = true) :
    (dateFromMarch year day).isValid = true := by
  have monthBound : (5 * day + 2) / 153 ≤ 11 := by omega
  rw [Date.isValid, isKnown]
  simp only [Bool.true_and, Bool.and_eq_true, decide_eq_true_eq]
  unfold dateFromMarch
  generalize isMonth : (5 * day + 2) / 153 = month at monthBound
  by_cases isLast : month = 11
  · -- February is the last month, and only its length depends on the year.
    subst isLast
    by_cases isLeap : day = 365
    · subst isLeap
      simp [daysInMonth, isLeapDay rfl]
    · have short : day - 337 + 1 ≤ 28 := by omega
      have february : 28 ≤ daysInMonth (year + 1) 2 := by
        rw [daysInMonth, if_pos rfl]
        split <;> omega
      have named : 1 ≤ 2 ∧ 2 ≤ 12 ∧ 1 ≤ day - 337 + 1 := by omega
      exact ⟨⟨⟨named.1, named.2.1⟩, named.2.2⟩, Nat.le_trans short february⟩
  · interval_cases month <;> simp [daysInMonth] <;> omega

/-- The date of a day is valid when its year can be written. -/
theorem dateOfDays (days : Int) (isKnown : isKnownYear (Date.ofDays days).year = true) :
    (Date.ofDays days).isValid = true := by
  obtain ⟨era, year, day, -, inYear, isLeapDay, -, isDate⟩ := ofDaysFromMarch days
  rw [isDate] at isKnown ⊢
  exact fromMarchValid _ day inYear isLeapDay isKnown

/-! ### Digits -/

/-- A row of digits is whole in a text of limited length when it fits or is stopped before. -/
theorem limitedRow (most : Nat) (digits rest : List Char) (isRow : Decimal.IsDigits digits)
    (fits : digits.length ≤ most) (stops : digits.length = most ∨ Decimal.StopsDigits rest) :
    ((digits ++ rest).take most).takeWhile Decimal.isDecimalDigit = digits := by
  have stopped : Decimal.StopsDigits (rest.take (most - digits.length)) := by
    intro first isFirst
    obtain whole | stops := stops
    · rw [whole, Nat.sub_self, List.take_zero] at isFirst
      cases isFirst
    · apply stops first
      rw [List.head?_take] at isFirst
      split at isFirst
      · cases isFirst
      · exact isFirst
  rw [List.take_append, List.take_of_length_le fits]
  exact (Decimal.takeDigitRow digits _ isRow stopped).1

theorem takeDigitsRow (least most : Nat) (digits rest : List Char)
    (isRow : Decimal.IsDigits digits) (enough : least ≤ digits.length)
    (fits : digits.length ≤ most)
    (stops : digits.length = most ∨ Decimal.StopsDigits rest) :
    takeDigits least most (digits ++ rest) = some (Decimal.digitsValue digits, rest) := by
  simp only [takeDigits, limitedRow most digits rest isRow fits stops, List.drop_left]
  rw [if_neg (Nat.not_lt.mpr enough)]

theorem digitNotBlank (character : Char) (isDigit : Decimal.isDecimalDigit character = true) :
    Text.isBlank character = false := by
  have bounds := Decimal.digitBounds isDigit
  simp only [Text.isBlank, Bool.or_eq_false_iff, Bool.and_eq_false_iff, decide_eq_false_iff_not]
  omega

/-- A row of digits is not preceded by blanks. -/
theorem skipBlanksRow (digits rest : List Char) (isRow : Decimal.IsDigits digits)
    (nonempty : 0 < digits.length) : skipBlanks (digits ++ rest) = digits ++ rest := by
  cases digits with
  | nil => cases nonempty
  | cons first others =>
      have visible := digitNotBlank first (isRow first List.mem_cons_self)
      simp [skipBlanks, visible]

/-- The two digits of a small number are taken whatever follows. -/
theorem takeTwoDigits (value : Nat) (rest : List Char) (small : value < 100) :
    takeLooseDigits 2 (twoDigits value ++ rest) = some (value, rest) := by
  have isRow := Decimal.paddedAreDigits 2 value
  have width := Decimal.paddedLength 2 value (by decide) small
  rw [takeLooseDigits, twoDigits, skipBlanksRow _ rest isRow (by omega),
    takeDigitsRow 1 2 _ rest isRow (by omega) (by omega) (Or.inl width),
    Decimal.digitsValuePadded]

/-- A mark is taken where it stands. -/
theorem takeMark (mark : Char) (rest : List Char) (visible : Text.isBlank mark = false) :
    takeLooseChar mark (mark :: rest) = some ((), rest) := by
  rw [takeLooseChar, skipBlanks, List.dropWhile_cons_of_neg (by simp [visible]), takeChar,
    if_pos rfl]

/-! ### Dates -/

/-- A year without a sign has four digits. -/
theorem takeShortYear (digits rest : List Char) (isRow : Decimal.IsDigits digits)
    (width : digits.length = 4) :
    takeLooseYear (digits ++ rest) = some (Int.ofNat (Decimal.digitsValue digits), rest) := by
  have taken := takeDigitsRow 1 4 digits rest isRow (by omega) (by omega) (Or.inl width)
  have visible := skipBlanksRow digits rest isRow (by omega)
  cases digits with
  | nil => cases width
  | cons first others =>
      have isDigit := isRow first List.mem_cons_self
      rw [takeLooseYear, visible]
      split
      · rename_i isSign
        cases (List.cons.inj isSign).1
        cases isDigit
      · rename_i isSign
        cases (List.cons.inj isSign).1
        cases isDigit
      · rw [taken]
        rfl

/-- A year is read as it was written. -/
theorem takeYear (year : Int) (rest : List Char) (stops : Decimal.StopsDigits rest) :
    takeLooseYear (yearDigits year ++ rest) = some (year, rest) := by
  rw [yearDigits]
  by_cases isShort : 0 ≤ year ∧ year ≤ 9999
  · have width := Decimal.paddedLength 4 year.toNat (by decide) (by omega)
    rw [if_pos isShort, takeShortYear _ rest (Decimal.paddedAreDigits 4 year.toNat) width,
      Decimal.digitsValuePadded]
    have isYear : Int.ofNat year.toNat = year := Int.toNat_of_nonneg isShort.1
    rw [isYear]
  · have isRow := Decimal.paddedAreDigits 4 year.natAbs
    have nonempty : 1 ≤ (Decimal.padZeros 4 (Decimal.natDigits year.natAbs)).length := by
      have digits := List.length_pos_iff.mpr (Decimal.natDigitsNonempty year.natAbs)
      rw [Decimal.padZeros, List.length_append]
      omega
    have taken := takeDigitsRow 1 _ _ rest isRow nonempty
      (List.length_append ▸ Nat.le_add_right _ rest.length) (Or.inr stops)
    rw [if_neg isShort, List.cons_append]
    by_cases isNegative : year < 0
    · have isYear : -Int.ofNat year.natAbs = year := by
        rw [Int.ofNat_eq_natCast]
        omega
      rw [if_pos isNegative, takeLooseYear, skipBlanks, List.dropWhile_cons_of_neg (by decide)]
      simp only [taken, Decimal.digitsValuePadded, Option.map_some, isYear]
    · have isYear : Int.ofNat year.natAbs = year := by
        rw [Int.ofNat_eq_natCast]
        omega
      rw [if_neg isNegative, takeLooseYear, skipBlanks, List.dropWhile_cons_of_neg (by decide)]
      simp only [taken, Decimal.digitsValuePadded, Option.map_some, isYear]

/-- A date is read as it was written when its month and its day have at most two digits. -/
theorem takeDate (date : Date) (rest : List Char) (month : date.month < 100) (day : date.day < 100) :
    takeLooseDate takeLooseChar (date.digits ++ rest) = some (date, rest) := by
  have dash (text : List Char) : Decimal.StopsDigits ('-' :: text) :=
    Decimal.stopsDigitsCons '-' text (by decide)
  rw [Date.digits, takeLooseDate]
  simp only [List.append_assoc, List.cons_append, takeYear date.year _ (dash _),
    takeMark '-' _ (by decide), takeTwoDigits date.month _ month, takeTwoDigits date.day _ day,
    Option.bind_eq_bind, Option.bind_some]

/-! ### Times of day -/

theorem zoneStops : Decimal.StopsDigits ['Z'] :=
  Decimal.stopsDigitsCons 'Z' [] (by decide)

/-- A part of a second with a number of digits is read with nine of them. -/
theorem takePart (width value : Nat) (isWide : 0 < width) (isNarrow : width ≤ 9)
    (small : value < 10 ^ width) :
    takeFraction ('.' :: Decimal.padZeros width (Decimal.natDigits value) ++ ['Z']) =
      some (value * 10 ^ (9 - width), ['Z']) := by
  have isRow := Decimal.paddedAreDigits width value
  have length := Decimal.paddedLength width value isWide small
  have taken := limitedRow 9 _ ['Z'] isRow (by omega) (Or.inr zoneStops)
  have after := (Decimal.takeDigitRow _ ['Z'] isRow zoneStops).2
  have nonempty : (Decimal.padZeros width (Decimal.natDigits value)).isEmpty = false := by
    rw [List.isEmpty_eq_false_iff, ← List.length_pos_iff]
    omega
  rw [List.cons_append, takeFraction]
  simp only [taken, after, nonempty, Decimal.digitsValuePadded, length, Bool.false_eq_true, if_false]

theorem takeFractionDigits (nanoseconds : Nat) (small : nanoseconds < 1000000000) :
    takeFraction (fractionDigits nanoseconds ++ ['Z']) = some (nanoseconds, ['Z']) := by
  rw [fractionDigits]
  by_cases isNone : nanoseconds = 0
  · rw [if_pos isNone, isNone]
    rfl
  rw [if_neg isNone]
  by_cases isMillisecond : nanoseconds % 1000000 = 0
  · rw [if_pos isMillisecond, takePart 3 _ (by decide) (by decide) (by omega)]
    have isWhole : nanoseconds / 1000000 * 10 ^ (9 - 3) = nanoseconds := by omega
    rw [isWhole]
  rw [if_neg isMillisecond]
  by_cases isMicrosecond : nanoseconds % 1000 = 0
  · rw [if_pos isMicrosecond, takePart 6 _ (by decide) (by decide) (by omega)]
    have isWhole : nanoseconds / 1000 * 10 ^ (9 - 6) = nanoseconds := by omega
    rw [isWhole]
  · rw [if_neg isMicrosecond, takePart 9 _ (by decide) (by decide) small]
    rw [Nat.sub_self, Nat.pow_zero, Nat.mul_one]

/-- A time of day is read as it was written, with its leap second as the sixtieth. -/
theorem takeTime (date : Date) (hour minute second nanoseconds : Nat) (hours : hour < 100)
    (minutes : minute < 100) (seconds : second < 100) (small : nanoseconds < 1000000000) :
    takeLooseTime takeLooseChar date (twoDigits hour ++ ':' :: twoDigits minute ++
        ':' :: twoDigits second ++ fractionDigits nanoseconds ++ ['Z']) =
      some (⟨date, hour, minute, second, nanoseconds, 0⟩, ['Z']) := by
  rw [takeLooseTime]
  simp only [List.append_assoc, List.cons_append, takeTwoDigits hour _ hours,
    takeMark ':' _ (by decide : Text.isBlank ':' = false), takeTwoDigits minute _ minutes,
    takeTwoDigits second _ seconds, takeFractionDigits nanoseconds small, Option.bind_eq_bind,
    Option.bind_some]

/-! ### Points in time -/

/--
A point in time is known when its year can be written, and when its nanoseconds are those of one
second or of a last second of a minute together with the leap second after it.
-/
structure Timestamp.IsKnown (time : Timestamp) : Prop where
  year : isKnownYear time.date.year = true
  nanoseconds : time.nanoseconds < 2000000000
  leap : 1000000000 ≤ time.nanoseconds → time.secondOfDay % 60 = 59

theorem longestMonth (year : Int) (month : Nat) : daysInMonth year month ≤ 31 := by
  rw [daysInMonth]
  split
  · split <;> decide
  · split <;> decide

theorem monthAndDay (date : Date) (isValid : date.isValid = true) :
    date.month < 100 ∧ date.day < 100 := by
  have longest := longestMonth date.year date.month
  simp only [Date.isValid, Bool.and_eq_true, decide_eq_true_eq] at isValid
  omega

theorem secondBelow (time : Timestamp) : time.secondOfDay < 86400 := by
  rw [Timestamp.secondOfDay, Int.fmod_eq_emod_of_nonneg _ (by decide)]
  omega

theorem wholeSeconds (time : Timestamp) :
    time.seconds = time.seconds.fdiv 86400 * 86400 + time.secondOfDay := by
  rw [Timestamp.secondOfDay, Int.fmod_eq_emod_of_nonneg _ (by decide),
    Int.fdiv_eq_ediv_of_nonneg _ (by decide)]
  omega

/-- This is the clock reading of a point in time. -/
def Timestamp.reading (time : Timestamp) : ClockReading :=
  ⟨time.date, time.secondOfDay / 3600, time.secondOfDay / 60 % 60,
    time.secondOfDay % 60 + if 1000000000 ≤ time.nanoseconds then 1 else 0,
    time.nanoseconds % 1000000000, 0⟩

/-- The clock reading of a known point in time is read as it was written. -/
theorem takeText (time : Timestamp) (known : time.IsKnown) :
    takeRelaxed? time.text = some time.reading := by
  obtain ⟨month, day⟩ := monthAndDay time.date (dateOfDays _ known.year)
  have inDay := secondBelow time
  have second : time.secondOfDay % 60 + (if 1000000000 ≤ time.nanoseconds then 1 else 0) < 100 := by
    split <;> omega
  have ofDay := takeTime time.date (time.secondOfDay / 3600) (time.secondOfDay / 60 % 60) _
    (time.nanoseconds % 1000000000) (by omega) (by omega) second (by omega)
  have zone : takeLooseZone (skipBlanks ['Z']) = some (0, []) := by decide
  rw [takeRelaxed?, Timestamp.text, String.toList_ofList, Timestamp.digits]
  simp only [List.append_assoc, List.cons_append, takeDate time.date _ month day, takeSeparator,
    Option.bind_eq_bind, Option.bind_some] at ofDay ⊢
  simp only [ofDay, Option.bind_some, zone]
  rfl

/-- A clock reading in UTC stands for the point in time with its seconds and nanoseconds. -/
theorem toTimestampOf (reading : ClockReading) (time : Timestamp)
    (isValid : reading.date.isValid = true) (hour : reading.hour ≤ 23)
    (minute : reading.minute ≤ 59) (second : reading.second ≤ 60) (zone : reading.zone = 0)
    (seconds : time.seconds = reading.date.toDays * 86400 + reading.hour * 3600 +
      reading.minute * 60 + if reading.second = 60 then 59 else reading.second)
    (nanoseconds : time.nanoseconds =
      if reading.second = 60 then reading.nanoseconds + 1000000000 else reading.nanoseconds)
    (isKnown : isKnownYear time.date.year = true) : reading.toTimestamp = .ok time := by
  have inRange : (reading.date.isValid && reading.hour ≤ 23 && reading.minute ≤ 59 &&
      reading.second ≤ 60 && reading.zone.natAbs < 86400) = true := by
    simp [isValid, hour, minute, second, zone]
  rw [ClockReading.toTimestamp, if_pos inRange]
  obtain ⟨timeSeconds, timeNanoseconds⟩ := time
  simp only at seconds nanoseconds
  subst seconds nanoseconds
  simp only [zone, Int.sub_zero, Nat.cast_ite, Nat.cast_ofNat] at isKnown ⊢
  rw [if_pos isKnown]

/-- The clock reading of a known point in time stands for this point. -/
theorem readingOfTimestamp (time : Timestamp) (known : time.IsKnown) :
    time.reading.toTimestamp = .ok time := by
  have isDate : time.date.isValid = true := dateOfDays _ known.year
  have inDay := secondBelow time
  have days : time.date.toDays = time.seconds.fdiv 86400 := daysOfDate _
  have whole := wholeSeconds time
  have isSecond := known.nanoseconds
  by_cases leap : 1000000000 ≤ time.nanoseconds
  · have isLast := known.leap leap
    have reading : time.reading = ⟨time.date, time.secondOfDay / 3600, time.secondOfDay / 60 % 60,
        60, time.nanoseconds - 1000000000, 0⟩ := by
      have part : time.nanoseconds % 1000000000 = time.nanoseconds - 1000000000 := by omega
      rw [Timestamp.reading, if_pos leap, isLast, part]
    rw [reading]
    refine toTimestampOf _ time isDate ?_ ?_ ?_ rfl ?_ ?_ known.year
    · simp only
      omega
    · simp only
      omega
    · simp only
      omega
    · simp only [days, if_pos, Nat.cast_ofNat]
      omega
    · simp only [if_pos]
      omega
  · have reading : time.reading = ⟨time.date, time.secondOfDay / 3600, time.secondOfDay / 60 % 60,
        time.secondOfDay % 60, time.nanoseconds, 0⟩ := by
      rw [Timestamp.reading, if_neg leap, Nat.mod_eq_of_lt (Nat.not_le.mp leap), Nat.add_zero]
    have notLeap : time.secondOfDay % 60 ≠ 60 := by omega
    rw [reading]
    refine toTimestampOf _ time isDate ?_ ?_ ?_ rfl ?_ ?_ known.year
    · simp only
      omega
    · simp only
      omega
    · simp only
      omega
    · simp only [days, if_neg notLeap]
      omega
    · simp only [if_neg notLeap]

/-- A known point in time is read as it was written. -/
theorem readText (time : Timestamp) (known : time.IsKnown) : readRelaxed time.text = .ok time := by
  rw [readRelaxed, takeText time known]
  exact readingOfTimestamp time known

end DeskScript.Time
