/-
This file shows that the stamps of file names are in the order of the times at which they are made,
as far as these differ in their microseconds.
-/

import DeskScript.Proofs.Decimal.Digits
import DeskScript.Proofs.Time.Reading

namespace DeskScript.Time

/-! ### Dates -/

/-- Later dates have greater numbers. -/
def Date.number (date : Date) : Int := date.year * 10000 + date.month * 100 + date.day

/-- This is the number of a day in a year from March, counted from that of the first day. -/
def numberInYear (day : Nat) : Nat :=
  let month := (5 * day + 2) / 153
  100 * month + (if month < 10 then 0 else 8800) + (day - (153 * month + 2) / 5)

theorem numberFromMarch (year : Int) (day : Nat) (inYear : day ≤ 365) :
    (dateFromMarch year day).number = year * 10000 + 301 + numberInYear day := by
  have monthBound : (5 * day + 2) / 153 ≤ 11 := by omega
  unfold dateFromMarch Date.number numberInYear
  generalize (5 * day + 2) / 153 = month at monthBound
  dsimp only
  split <;> split <;> omega

theorem numberInYearBelow (day : Nat) (inYear : day ≤ 365) : numberInYear day < 10000 := by
  have monthBound : (5 * day + 2) / 153 ≤ 11 := by omega
  unfold numberInYear
  dsimp only
  split <;> omega

theorem numberInYearRises (first second : Nat) (rises : first < second) :
    numberInYear first < numberInYear second := by
  have months : (5 * first + 2) / 153 ≤ (5 * second + 2) / 153 := by omega
  unfold numberInYear
  dsimp only
  split <;> split <;> omega

theorem daysBeforeRises {year later : Nat} (rises : year ≤ later) :
    daysBeforeYear year ≤ daysBeforeYear later := by
  rcases Nat.eq_or_lt_of_le rises with rfl | less
  · exact Nat.le_refl _
  · rw [daysBeforeYear, daysBeforeYear]
    omega

/-- A day of a year comes before the next year. -/
theorem dayInYear {era : Int} {year day : Nat} (inYear : day ≤ 365)
    (isLeapDay : day = 365 → isLeapYear (year + era * 400 + 1) = true) (inEra : year < 399) :
    daysBeforeYear year + day < daysBeforeYear (year + 1) := by
  have leap : day = 365 → (year + 1) % 4 = 0 ∧ (year + 1) % 100 ≠ 0 := by
    intro isLast
    have isLeap := isLeapDay isLast
    rw [isLeapYear] at isLeap
    simp only [Bool.and_eq_true, Bool.or_eq_true, decide_eq_true_eq] at isLeap
    omega
  rw [daysBeforeYear, daysBeforeYear]
  omega

/-- Of two days in years from March, the earlier one is in an earlier year or earlier in its year. -/
theorem earlierInYears {era other : Int} {year day otherYear otherDay : Nat} (inEra : year < 400)
    (inOtherEra : otherYear < 400) (inYear : day ≤ 365) (inOtherYear : otherDay ≤ 365)
    (isLeapDay : otherDay = 365 → isLeapYear (otherYear + other * 400 + 1) = true)
    (before : era * 146097 + (daysBeforeYear year + day) <
      other * 146097 + (daysBeforeYear otherYear + otherDay)) :
    year + era * 400 < otherYear + other * 400 ∨
      year + era * 400 = otherYear + other * 400 ∧ day < otherDay := by
  have inWhole : daysBeforeYear year ≤ daysBeforeYear 399 := daysBeforeRises (by omega)
  have otherInWhole : daysBeforeYear otherYear ≤ daysBeforeYear 399 := daysBeforeRises (by omega)
  have whole : daysBeforeYear 399 = 145731 := by decide
  rcases lt_trichotomy era other with less | rfl | more
  · omega
  · by_cases later : otherYear < year
    · have inNext := dayInYear inOtherYear isLeapDay (by omega)
      have reached : daysBeforeYear (otherYear + 1) ≤ daysBeforeYear year := daysBeforeRises later
      omega
    · by_cases same : year = otherYear
      · subst same
        omega
      · omega
  · omega

/-- Later days have dates with greater numbers. -/
theorem numberRises (first second : Int) (rises : first < second) :
    (Date.ofDays first).number < (Date.ofDays second).number := by
  obtain ⟨era, year, day, inEra, inYear, -, isDay, isDate⟩ := ofDaysFromMarch first
  obtain ⟨other, otherYear, otherDay, inOtherEra, inOtherYear, isLeapDay, isOtherDay,
    isOtherDate⟩ := ofDaysFromMarch second
  have below := numberInYearBelow day inYear
  have before : era * 146097 + (daysBeforeYear year + day) <
      other * 146097 + (daysBeforeYear otherYear + otherDay) := by
    rw [← isDay, ← isOtherDay]
    omega
  rw [isDate, isOtherDate, numberFromMarch _ _ inYear, numberFromMarch _ _ inOtherYear]
  rcases earlierInYears inEra inOtherEra inYear inOtherYear isLeapDay before with
    earlierYear | ⟨sameYear, earlierDay⟩
  · omega
  · have inSameYear := numberInYearRises day otherDay earlierDay
    omega

/-! ### Stamps -/

/-- A point in time fits a stamp if its year has four digits. -/
structure Timestamp.FitsStamp (time : Timestamp) : Prop where
  known : time.IsKnown
  year : 0 ≤ time.date.year ∧ time.date.year ≤ 9999

/-- A point in time is before another one by at least a microsecond. -/
def Timestamp.MicrosecondsBefore (first second : Timestamp) : Prop :=
  first.seconds < second.seconds ∨
    first.seconds = second.seconds ∧ first.nanoseconds / 1000 < second.nanoseconds / 1000

instance (time : Timestamp) : Decidable time.FitsStamp :=
  decidable_of_iff
    ((isKnownYear time.date.year = true ∧ time.nanoseconds < 2000000000 ∧
        (1000000000 ≤ time.nanoseconds → time.secondOfDay % 60 = 59)) ∧
      0 ≤ time.date.year ∧ time.date.year ≤ 9999)
    ⟨fun ⟨⟨year, nanoseconds, leap⟩, short⟩ => ⟨⟨year, nanoseconds, leap⟩, short⟩,
      fun ⟨⟨year, nanoseconds, leap⟩, short⟩ => ⟨⟨year, nanoseconds, leap⟩, short⟩⟩

instance (first second : Timestamp) : Decidable (first.MicrosecondsBefore second) :=
  inferInstanceAs (Decidable (_ ∨ _ ∧ _))

/-- This is the second of a minute, and the leap second comes after the last one. -/
def Timestamp.secondOfMinute (time : Timestamp) : Nat :=
  time.secondOfDay % 60 + if 1000000000 ≤ time.nanoseconds then 1 else 0

def Timestamp.dateRow (time : Timestamp) : List Char :=
  yearDigits time.date.year ++ twoDigits time.date.month ++ twoDigits time.date.day

def Timestamp.timeRow (time : Timestamp) : List Char :=
  twoDigits (time.secondOfDay / 3600) ++ twoDigits (time.secondOfDay / 60 % 60) ++
    twoDigits time.secondOfMinute

def Timestamp.partRow (time : Timestamp) : List Char :=
  Decimal.padZeros 6 (Decimal.natDigits (time.nanoseconds % 1000000000 / 1000))

theorem stampRows (time : Timestamp) :
    time.stamp.toList = time.dateRow ++ ('_' :: time.timeRow ++ ('_' :: time.partRow)) := by
  rw [Timestamp.stamp, String.toList_ofList]
  simp [Timestamp.dateRow, Timestamp.timeRow, Timestamp.partRow, Timestamp.secondOfMinute]

theorem twoDigitsRow {value : Nat} (small : value < 100) :
    Decimal.IsRow 2 value (twoDigits value) :=
  .padded 2 value (by decide) small

theorem dateRowIsRow {time : Timestamp} (fits : time.FitsStamp) :
    Decimal.IsRow 8 time.date.number.toNat time.dateRow := by
  obtain ⟨month, day⟩ := monthAndDay time.date (dateOfDays _ fits.known.year)
  have year : Decimal.IsRow 4 time.date.year.toNat (yearDigits time.date.year) := by
    have small : time.date.year.toNat < 10 ^ 4 := by
      have bounds := fits.year
      omega
    rw [yearDigits, if_pos fits.year]
    exact .padded 4 _ (by decide) small
  have row := (year.append (twoDigitsRow month)).append (twoDigitsRow day)
  have number : (time.date.year.toNat * 10 ^ 2 + time.date.month) * 10 ^ 2 + time.date.day =
      time.date.number.toNat := by
    have bounds := fits.year
    rw [Date.number]
    omega
  rwa [number] at row

/-- Later times of a day have greater numbers. -/
def Timestamp.clockNumber (time : Timestamp) : Nat :=
  time.secondOfDay / 3600 * 10000 + time.secondOfDay / 60 % 60 * 100 + time.secondOfMinute

theorem timeRowIsRow (time : Timestamp) : Decimal.IsRow 6 time.clockNumber time.timeRow := by
  have inDay := secondBelow time
  have second : time.secondOfMinute < 100 := by
    rw [Timestamp.secondOfMinute]
    split <;> omega
  have row := ((twoDigitsRow (by omega : time.secondOfDay / 3600 < 100)).append
    (twoDigitsRow (by omega : time.secondOfDay / 60 % 60 < 100))).append (twoDigitsRow second)
  have number : (time.secondOfDay / 3600 * 10 ^ 2 + time.secondOfDay / 60 % 60) * 10 ^ 2 +
      time.secondOfMinute = time.clockNumber := by
    rw [Timestamp.clockNumber]
    omega
  rwa [number] at row

theorem partRowIsRow (time : Timestamp) :
    Decimal.IsRow 6 (time.nanoseconds % 1000000000 / 1000) time.partRow :=
  .padded 6 _ (by decide) (by omega)

theorem stampLength {time : Timestamp} (fits : time.FitsStamp) : time.stamp.toList.length = 22 := by
  rw [stampRows]
  simp [(dateRowIsRow fits).length, (timeRowIsRow time).length, (partRowIsRow time).length]

theorem minuteNumberRises {minute later : Nat} (rises : minute < later) :
    minute / 60 * 100 + minute % 60 < later / 60 * 100 + later % 60 := by
  omega

/-- Only the last second of a minute goes on as a leap second. -/
theorem clockNumberRises {first second : Timestamp} (known : first.IsKnown)
    (rises : first.secondOfDay < second.secondOfDay) :
    first.clockNumber < second.clockNumber := by
  have leap := known.leap
  have number (time : Timestamp) : time.clockNumber =
      (time.secondOfDay / 60 / 60 * 100 + time.secondOfDay / 60 % 60) * 100 +
        time.secondOfMinute := by
    rw [Timestamp.clockNumber]
    omega
  have atMost : first.secondOfMinute ≤ 60 := by
    rw [Timestamp.secondOfMinute]
    split <;> omega
  rw [number, number]
  rcases Nat.lt_or_ge (first.secondOfDay / 60) (second.secondOfDay / 60) with earlier | later
  · have minutes := minuteNumberRises earlier
    omega
  · have sameMinute : first.secondOfDay / 60 = second.secondOfDay / 60 := by omega
    have seconds : first.secondOfMinute < second.secondOfMinute := by
      rw [Timestamp.secondOfMinute, Timestamp.secondOfMinute]
      split <;> omega
    rw [sameMinute]
    omega

/-- In a second the leap second comes last, and otherwise the microseconds decide. -/
theorem partRises {first second : Timestamp} (known : second.IsKnown)
    (sameSecond : first.secondOfDay = second.secondOfDay)
    (rises : first.nanoseconds / 1000 < second.nanoseconds / 1000) :
    first.clockNumber < second.clockNumber ∨ first.timeRow = second.timeRow ∧
      first.nanoseconds % 1000000000 / 1000 < second.nanoseconds % 1000000000 / 1000 := by
  have bound := known.nanoseconds
  by_cases sameLeap : 1000000000 ≤ first.nanoseconds ↔ 1000000000 ≤ second.nanoseconds
  · right
    constructor
    · simp only [Timestamp.timeRow, Timestamp.secondOfMinute, sameSecond, sameLeap]
    · omega
  · left
    rw [Timestamp.clockNumber, Timestamp.clockNumber, Timestamp.secondOfMinute,
      Timestamp.secondOfMinute, sameSecond, if_neg (by omega), if_pos (by omega)]
    omega

/-- Of two points in time a microsecond apart, the earlier one has the stamp that comes first. -/
theorem stampRises {first second : Timestamp} (isFirst : first.FitsStamp)
    (isSecond : second.FitsStamp) (before : first.MicrosecondsBefore second) :
    first.stamp < second.stamp := by
  have firstWhole := wholeSeconds first
  have secondWhole := wholeSeconds second
  have inDay := secondBelow first
  have inOtherDay := secondBelow second
  have notAfter : first.seconds ≤ second.seconds := by
    rcases before with less | ⟨same, -⟩
    · exact less.le
    · exact same.le
  rw [String.lt_iff, stampRows, stampRows]
  by_cases earlierDay : first.seconds.fdiv 86400 < second.seconds.fdiv 86400
  · -- The dates decide.
    have numbers := numberRises _ _ earlierDay
    have positive : 0 ≤ first.date.number := by
      have bounds := isFirst.year
      rw [Date.number]
      omega
    have rows := (dateRowIsRow isFirst).before (dateRowIsRow isSecond)
      ((Int.toNat_lt_toNat (positive.trans_lt numbers)).mpr numbers)
    exact rowsBefore _ _ rows
      ((dateRowIsRow isFirst).length.trans (dateRowIsRow isSecond).length.symm)
  · have sameDay : first.seconds.fdiv 86400 = second.seconds.fdiv 86400 := by omega
    have sameDate : first.dateRow = second.dateRow := by
      have date : first.date = second.date := congrArg Date.ofDays sameDay
      rw [Timestamp.dateRow, Timestamp.dateRow, date]
    rw [sameDate, List.cons_append, List.cons_append]
    refine List.append_left_lt (List.cons_lt_cons_iff.mpr (.inr ⟨rfl, ?_⟩))
    have byClock (earlier : first.clockNumber < second.clockNumber) :
        first.timeRow ++ '_' :: first.partRow < second.timeRow ++ '_' :: second.partRow :=
      rowsBefore _ _ ((timeRowIsRow first).before (timeRowIsRow second) earlier)
        ((timeRowIsRow first).length.trans (timeRowIsRow second).length.symm)
    rcases before with less | ⟨same, rises⟩
    · exact byClock (clockNumberRises isFirst.known (by omega))
    · rcases partRises isSecond.known (by omega) rises with earlier | ⟨sameTime, part⟩
      · exact byClock earlier
      · rw [sameTime]
        refine List.append_left_lt (List.cons_lt_cons_iff.mpr (.inr ⟨rfl, ?_⟩))
        exact (partRowIsRow first).before (partRowIsRow second) part

end DeskScript.Time
