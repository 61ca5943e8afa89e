/-
# Dates and times of day

Dates of the Gregorian calendar, extended to all years, and their numbering by days since the first
of January 1970. The year 0 precedes the year 1.
-/

import DynamicContent.Number.Integer

namespace DynamicContent.Calendar

/-- Whether a year has 366 days. -/
def isLeapYear (year : Int) : Bool := year % 4 == 0 && (year % 100 != 0 || year % 400 == 0)

/-- The number of days in a month. -/
def daysInMonth (year : Int) (month : Nat) : Nat :=
  match month with
  | 2 => if isLeapYear year then 29 else 28
  | 4 | 6 | 9 | 11 => 30
  | _ => 31

/-- The number of days of a year before a month. -/
def daysBeforeMonth (year : Int) (month : Nat) : Nat :=
  (List.range (month - 1)).foldl (fun days i => days + daysInMonth year (i + 1)) 0

/-- The number of days from the first of January 1970 to that of a year. -/
def daysBeforeYear (year : Int) : Int :=
  let past := year - 1
  365 * past + past / 4 - past / 100 + past / 400 - 719162

/-- A date. -/
structure Date where
  year : Int
  month : Nat
  day : Nat
deriving DecidableEq, Inhabited

namespace Date

/-- Whether the month and day exist. -/
def isValid (d : Date) : Bool :=
  1 ≤ d.month && d.month ≤ 12 && 1 ≤ d.day && d.day ≤ daysInMonth d.year d.month

/-- The number of days since the first of January of the year, from zero. -/
def dayOfYear (d : Date) : Nat := daysBeforeMonth d.year d.month + (d.day - 1)

/-- The number of days since the first of January 1970. -/
def toDays (d : Date) : Int := daysBeforeYear d.year + d.dayOfYear

/-- The month and day of a year, from the number of days before it in the year. -/
def monthAndDay (year : Int) : Nat → Nat → Nat → Nat × Nat
  | 0, month, day => (month, day + 1)
  | n + 1, month, day =>
    let size := daysInMonth year month
    if day < size then (month, day + 1) else monthAndDay year n (month + 1) (day - size)

/-- The date of a number of days since the first of January 1970. -/
def ofDays (days : Int) : Date :=
  let guess := (days + 719162) * 400 / 146097 + 1
  let year := if days < daysBeforeYear guess then guess - 1
    else if daysBeforeYear (guess + 1) ≤ days then guess + 1
    else guess
  let (month, day) := monthAndDay year 11 1 (days - daysBeforeYear year).toNat
  ⟨year, month, day⟩

/-- The day of the week, from zero for Sunday. -/
def weekday (d : Date) : Nat := ((d.toDays + 4) % 7).toNat

/-- The number of the week in the year, if weeks begin on a given weekday and those before the first
such day count as zero. -/
def weekFrom (first : Nat) (d : Date) : Nat := (d.dayOfYear + 7 - (d.weekday + 7 - first) % 7) / 7

/-- The year and number of the week that holds the Thursday of the same week. -/
def isoWeek (d : Date) : Int × Nat :=
  let thursday := ofDays (d.toDays + 3 - ((d.weekday + 6) % 7 : Nat))
  (thursday.year, thursday.dayOfYear / 7 + 1)

/-- The years that dates may have. -/
def inRange (d : Date) : Bool := -262143 ≤ d.year && d.year ≤ 262142

end Date

/-- A date and a time of that day. The nanosecond is at least a whole second only in the leap second
that follows the second. -/
structure DateTime where
  date : Date
  second : Nat
  nanosecond : Nat
deriving DecidableEq, Inhabited

namespace DateTime

/-- The seconds since the first of January 1970, as if the clock showed universal time. -/
def toSeconds (t : DateTime) : Int := 86400 * t.date.toDays + t.second

/-- The date and time of a number of seconds since the first of January 1970. -/
def ofSeconds (seconds : Int) (nanosecond : Nat) : DateTime :=
  ⟨Date.ofDays (seconds / 86400), (seconds % 86400).toNat, nanosecond⟩

/-- The hour of the day. -/
def hour (t : DateTime) : Nat := t.second / 3600

/-- The minute of the hour. -/
def minute (t : DateTime) : Nat := t.second / 60 % 60

/-- The second of the minute, 60 in a leap second. -/
def secondOfMinute (t : DateTime) : Nat := t.second % 60 + t.nanosecond / 1000000000

/-- The nanosecond of the second. -/
def fraction (t : DateTime) : Nat := t.nanosecond % 1000000000

/-- The date and time of a clock reading; `none` if there is no such date or time. The second may be
60, for a leap second. -/
def ofClock? (date : Date) (hour minute second nanosecond : Nat) : Option DateTime :=
  if date.isValid && hour < 24 && minute < 60 && second ≤ 60 then
    let leap := if second == 60 then 1 else 0
    some ⟨date, 3600 * hour + 60 * minute + (second - leap), nanosecond + leap * 1000000000⟩
  else none

end DateTime

/-- A number in decimal with at least so many digits. -/
def padded (width : Nat) (n : Nat) : String :=
  let digits := Number.natString n
  String.ofList (List.replicate (width - digits.length) '0') ++ digits

/-- A year with at least four digits, signed unless it has four. -/
def yearText (year : Int) : String :=
  if 0 ≤ year && year ≤ 9999 then padded 4 year.natAbs
  else (if year < 0 then "-" else "+") ++ padded 4 year.natAbs

/-- A date with dashes. -/
def dateText (d : Date) : String := yearText d.year ++ "-" ++ padded 2 d.month ++ "-" ++ padded 2 d.day

/-- A time of day with colons. -/
def clockText (t : DateTime) : String :=
  padded 2 t.hour ++ ":" ++ padded 2 t.minute ++ ":" ++ padded 2 t.secondOfMinute

end DynamicContent.Calendar
