/-
# Recorded instants

The instants of records are kept with the offset they were written with. They are read and written
as internet timestamps of the years 0 to 9999.
-/

import DynamicContent.Calendar.Reading

namespace DynamicContent.Calendar

/-- An instant as it was recorded: the clock reading and its offset in seconds. -/
structure Stamp where
  clock : DateTime
  offset : Int
deriving DecidableEq, Inhabited

namespace Stamp

/-- The seconds since the first of January 1970. -/
def toSeconds (t : Stamp) : Int := t.clock.toSeconds - t.offset

/-- The order of instants. -/
def compareInstant (s t : Stamp) : Ordering :=
  (compare s.toSeconds t.toSeconds).then (compare s.clock.nanosecond t.clock.nanosecond)

/-- Whether a leap second may follow: the last second of a month in universal time. -/
def endsMonth (seconds : Int) : Bool :=
  seconds % 86400 == 86399 && (Date.ofDays (seconds / 86400 + 1)).day == 1

/-- Reads a timestamp. Any character may stand between date and time. A leap second is read as the
last moment before it. -/
def ofText? (s : String) : Option Stamp := do
  let (date, cs) ← takeDate? s.toList
  let cs ← match cs with
    | c :: rest => if c.toNat < 0x80 then some rest else none
    | [] => none
  let (hour, minute, second, nanosecond, cs) ← takeClock? cs
  let offset ← offsetOfText? (· == '-') cs
  let clock ← DateTime.ofClock? date hour minute second nanosecond
  if second == 60 then
    if endsMonth (clock.toSeconds - offset) then some ⟨{ clock with nanosecond := 999999999 }, offset⟩
    else none
  else some ⟨clock, offset⟩

/-- The fraction of a second without zeros at its end. -/
def fractionText (nanosecond : Nat) : String :=
  if nanosecond == 0 then ""
  else
    let digits := (padded 9 nanosecond).toList
    "." ++ String.ofList (digits.reverse.dropWhile (· == '0')).reverse

/-- Writes a timestamp. -/
def text (t : Stamp) : String :=
  dateText t.clock.date ++ "T" ++ clockText t.clock ++ fractionText t.clock.nanosecond ++
    (if t.offset == 0 then "Z" else Zoned.offsetText t.offset ":")

/-- The clock reading as fields of records show it. -/
def fieldText (t : Stamp) : String := dateText t.clock.date ++ " " ++ clockText t.clock

/-- What the clock of a zone shows at the instant. -/
def inZone? (zone : Zone) (t : Stamp) : Option Zoned :=
  Zoned.ofSeconds? zone t.toSeconds t.clock.nanosecond

end Stamp

end DynamicContent.Calendar
