import Docket.Text.Integer

/-! Instants of local time in the Gregorian calendar, extended to all years. -/

namespace Docket

/-- A local date with a time of day. Months and days count from one. -/
structure Instant where
  year : Int
  month : Nat
  day : Nat
  hour : Nat := 0
  minute : Nat := 0
  second : Nat := 0
deriving DecidableEq, Repr, Inhabited

namespace Instant

/-- Leap years are the multiples of four, but of the centuries only the multiples of 400. -/
def isLeap (year : Int) : Bool :=
  year % 4 == 0 && (year % 100 != 0 || year % 400 == 0)

/-- The number of days of a month. -/
def daysInMonth (year : Int) (month : Nat) : Nat :=
  if month == 2 then (if isLeap year then 29 else 28)
  else if month == 4 || month == 6 || month == 9 || month == 11 then 30
  else 31

/-- Whether the parts of an instant name a day and a second of it. -/
def isValid (instant : Instant) : Bool :=
  1 ≤ instant.month && instant.month ≤ 12 && 1 ≤ instant.day &&
    instant.day ≤ daysInMonth instant.year instant.month &&
    instant.hour < 24 && instant.minute < 60 && instant.second < 60

/-- The number of days from the first day of year 1 to the first day of a year. -/
def daysBeforeYear (year : Int) : Int :=
  let past := year - 1
  365 * past + past.fdiv 4 - past.fdiv 100 + past.fdiv 400

/-- The number of days of a year before one of its months. -/
def daysBeforeMonth (year : Int) (month : Nat) : Nat :=
  ((List.range (month - 1)).map fun index => daysInMonth year (index + 1)).foldl (· + ·) 0

/-- The position of a day in its year, from one. -/
def dayOfYear (instant : Instant) : Nat :=
  daysBeforeMonth instant.year instant.month + instant.day

/-- The number of days from the first day of year 1. -/
def dayNumber (instant : Instant) : Int :=
  daysBeforeYear instant.year + Int.ofNat instant.dayOfYear - 1

/-- The position of a day in its week, where Monday is 0. -/
def weekday (instant : Instant) : Nat :=
  (instant.dayNumber % 7).toNat

/-- The weekday of the first day of a year, where Monday is 0. -/
def firstWeekday (year : Int) : Nat :=
  (daysBeforeYear year % 7).toNat

/-- A year has 53 ISO weeks if it begins on a Thursday, or on a Wednesday as a leap year. -/
def weeksInYear (year : Int) : Nat :=
  if firstWeekday year == 3 || (isLeap year && firstWeekday year == 2) then 53 else 52

/-- The ISO week of a day: weeks begin on Monday and belong to the year of their Thursday. -/
def isoWeek (instant : Instant) : Nat :=
  let week := (instant.dayOfYear + 9 - instant.weekday) / 7
  if week == 0 then weeksInYear (instant.year - 1)
  else if week > weeksInYear instant.year then 1
  else week

/-- The number of seconds since the first second of 1970, for a clock without offset. -/
def epochSeconds (instant : Instant) : Int :=
  let days := instant.dayNumber - daysBeforeYear 1970
  86400 * days + Int.ofNat (3600 * instant.hour + 60 * instant.minute + instant.second)

/-- Whether the time lies before noon. -/
def isMorning (instant : Instant) : Bool :=
  instant.hour < 12

/-- The English names of the months. -/
def monthNames : List String :=
  ["January", "February", "March", "April", "May", "June", "July", "August", "September",
    "October", "November", "December"]

/-- The English names of the days of a week, from Monday. -/
def weekdayNames : List String :=
  ["Monday", "Tuesday", "Wednesday", "Thursday", "Friday", "Saturday", "Sunday"]

/-- The name of the month. -/
def monthName (instant : Instant) : Text :=
  (monthNames.getD (instant.month - 1) "").toList

/-- The name of the weekday. -/
def weekdayName (instant : Instant) : Text :=
  (weekdayNames.getD instant.weekday "").toList

/-- The first three letters of a name. -/
def abbreviate (name : Text) : Text :=
  name.take 3

/-- A number with at least two digits. -/
def twoDigits (value : Nat) : Text :=
  Text.padZeros 2 (Text.ofNat value)

/-- A year with at least four digits, and with a sign unless it has exactly four. -/
def calendarYear (year : Int) : Text :=
  let digits := Text.padZeros 4 (Text.ofNat year.natAbs)
  if year < 0 then '-' :: digits else if year > 9999 then '+' :: digits else digits

/-- The date as year, month and day. -/
def isoDate (instant : Instant) : Text :=
  calendarYear instant.year ++ '-' :: twoDigits instant.month ++ '-' :: twoDigits instant.day

/-- The date as day, month and year with points. -/
def pointDate (instant : Instant) : Text :=
  twoDigits instant.day ++ '.' :: twoDigits instant.month ++ '.' :: calendarYear instant.year

/-- The time of day with a separator between its parts. -/
def clockTime (separator : Char) (instant : Instant) : Text :=
  twoDigits instant.hour ++ separator :: twoDigits instant.minute ++
    separator :: twoDigits instant.second

end Instant

end Docket
