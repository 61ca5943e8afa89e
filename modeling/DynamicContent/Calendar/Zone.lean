/-
# Time zones

A zone is a list of periods, each with an offset from universal time and an abbreviation. A reading
of the clock may name no instant, one or two: none where the clock is put forward, two where it is
put back.

The table writes a zone as its name on a line of its own, its kinds of time as abbreviation and
offset, after `@` the instants at which a kind begins, a letter for the kind behind each, and after
`+` the first year and the two days of the changes that come every year.
-/

import DynamicContent.Calendar.Date
import DynamicContent.Calendar.ZoneTable.Africa
import DynamicContent.Calendar.ZoneTable.Alias
import DynamicContent.Calendar.ZoneTable.America
import DynamicContent.Calendar.ZoneTable.Asia
import DynamicContent.Calendar.ZoneTable.Europe
import DynamicContent.Calendar.ZoneTable.Oceans
import DynamicContent.Number.Integer
import DynamicContent.Text.Blank

namespace DynamicContent.Calendar

/-- A kind of time: how far the clock is ahead of universal time in seconds, and its name. -/
structure TimeKind where
  offset : Int
  abbreviation : String
deriving DecidableEq, Inhabited

/-- A zone: the kind of time at first and the kinds that begin later, in order. -/
structure Zone where
  name : String
  first : TimeKind
  changes : List (Int × TimeKind)
deriving Inhabited

namespace Zone

/-- Universal time. -/
def utc : Zone := ⟨"UTC", ⟨0, "UTC"⟩, []⟩

/-- The kind of time at an instant, after the given one. -/
def kindAfter (seconds : Int) : TimeKind → List (Int × TimeKind) → TimeKind
  | kind, [] => kind
  | kind, (start, next) :: rest => if seconds < start then kind else kindAfter seconds next rest

/-- The kind of time at an instant. -/
def kindAt (zone : Zone) (seconds : Int) : TimeKind := kindAfter seconds zone.first zone.changes

/-- The kind of time in the first period, from the given one on, in which the clock shows a reading.
The reading is in seconds, `start` is where the period of the given kind begins. -/
def kindShowing? (reading : Int) (start : Option Int) (kind : TimeKind) :
    List (Int × TimeKind) → Option TimeKind
  | [] =>
    if (start.map fun s => decide (s + kind.offset ≤ reading)).getD true then some kind else none
  | (stop, next) :: rest =>
    if (start.map fun s => decide (s + kind.offset ≤ reading)).getD true &&
        reading < stop + kind.offset then some kind
    else kindShowing? reading (some stop) next rest

/-- The kind of time at the earliest instant at which the clock shows a reading. -/
def kindShowingEarliest? (zone : Zone) (reading : Int) : Option TimeKind :=
  kindShowing? reading none zone.first zone.changes

/-! ## Reading the table -/

/-- The last year in which yearly changes take place. -/
def lastRuleYear : Nat := 2099

/-- A day that a yearly change takes place on: the week of the month, from five for the last, and the
weekday; and the seconds from the start of that day, in universal time. -/
structure YearlyChange where
  month : Nat
  week : Nat
  weekday : Nat
  seconds : Int
  kind : TimeKind

/-- The instant of a yearly change in a year. -/
def YearlyChange.instant (change : YearlyChange) (year : Int) : Int :=
  let first : Date := ⟨year, change.month, 1⟩
  let day := (change.weekday + 7 - first.weekday) % 7 + 7 * (change.week - 1)
  let day := if day < daysInMonth year change.month then day else day - 7
  86400 * (first.toDays + day) + change.seconds

/-- The kind of time that a letter names. -/
def kindOfLetter? (kinds : List TimeKind) (c : Char) : Option TimeKind := kinds[c.toNat - 97]?

/-- An instant, followed by the letter of the kind that begins then. -/
def change? (kinds : List TimeKind) (s : String) : Option (Int × TimeKind) := do
  let cs := s.toList
  let kind ← kindOfLetter? kinds (← cs.getLast?)
  some (← Number.intOfText? cs.dropLast, kind)

/-- Month, week and weekday, the seconds and the letter of a yearly change. -/
def yearlyChange? (kinds : List TimeKind) (s : String) : Option YearlyChange := do
  let (day, time) ← Text.cut ":" s
  let numbers ← (Text.splitString (· == '.') day).mapM fun part => Number.natOfDigits? part.toList
  let (seconds, kind) ← change? kinds time
  match numbers with
  | [month, week, weekday] => some ⟨month, week, weekday, seconds, kind⟩
  | _ => none

/-- The changes of the years from one on, in order. -/
def yearlyChanges (year : Nat) (changes : List YearlyChange) : List (Int × TimeKind) :=
  (List.range (lastRuleYear + 1 - year)).flatMap fun i =>
    let instants := changes.map fun change => (change.instant ((year + i : Nat) : Int), change.kind)
    instants.mergeSort fun a b => a.1 ≤ b.1

/-- The zone of an entry of the table. -/
def ofRow? (name entry : String) : Option Zone := do
  let (front, rules) := (Text.cut "+ " entry).getD (entry, "")
  let (kindPart, changePart) := (Text.cut "@" front).getD (front, "")
  let kinds ← (Text.words kindPart).mapM fun word => do
    let (abbreviation, offset) ← Text.cut "=" word
    some (⟨← Number.intOfText? offset.toList, abbreviation⟩ : TimeKind)
  let changes ← (Text.words changePart).mapM (change? kinds)
  let first ← kinds.head?
  match Text.words rules with
  | [] => some ⟨name, first, changes⟩
  | year :: days =>
    let year ← Number.natOfDigits? year.toList
    let days ← days.mapM (yearlyChange? kinds)
    some ⟨name, first, changes ++ yearlyChanges year days⟩

/-- All parts of the table. -/
def tables : List String :=
  [ZoneTable.africa, ZoneTable.america, ZoneTable.asia, ZoneTable.europe, ZoneTable.oceans]

/-- The lines that follow the line with the name of a zone, up to the next name. -/
def entryIn? (name : String) (table : String) : Option String :=
  (Text.cut ("\n" ++ name ++ "\n") table).map fun (_, rest) => takeEntry rest.toList
where
  /-- The lines of an entry: those that begin with a blank. -/
  takeEntry (cs : List Char) : String :=
    let lines := (Text.splitAtEach (· == '\n') cs).takeWhile fun line => line.head? == some ' '
    String.ofList (List.flatten lines)

/-- The name of the zone that a further name stands for. -/
def ofAlias (name : String) : String :=
  (((Text.words ZoneTable.names).filterMap (Text.cut "=")).find? (·.1 == name)).elim name (·.2)

/-- The zone with a name. Letter case counts. -/
def find? (name : String) : Option Zone :=
  if name == "UTC" then some utc
  else
    ((tables.findSome? (entryIn? (ofAlias name))).bind (ofRow? name))

end Zone

/-! ## Instants in a zone

An instant as the clock of a zone shows it, with the offset and the abbreviation in force. -/

/-- What the clock of a zone shows at an instant. -/
structure Zoned where
  clock : DateTime
  kind : TimeKind
deriving DecidableEq, Inhabited

namespace Zoned

/-- The seconds of the instant since the first of January 1970. -/
def toSeconds (t : Zoned) : Int := t.clock.toSeconds - t.kind.offset

/-- What the clock of a zone shows at an instant; `none` if the year is out of range. -/
def ofSeconds? (zone : Zone) (seconds : Int) (nanosecond : Nat) : Option Zoned :=
  if (Date.ofDays (seconds / 86400)).inRange then
    let kind := zone.kindAt seconds
    some ⟨DateTime.ofSeconds (seconds + kind.offset) nanosecond, kind⟩
  else none

/-- The earliest instant at which the clock of a zone shows a date and time. -/
def ofClock? (zone : Zone) (clock : DateTime) : Option Zoned :=
  (zone.kindShowingEarliest? clock.toSeconds).map fun kind => ⟨clock, kind⟩

/-- An offset in hours and minutes, to the nearest minute, with `colon` between them. -/
def offsetText (offset : Int) (colon : String) : String :=
  let minutes := (offset.natAbs + 30) / 60
  (if offset < 0 then "-" else "+") ++ padded 2 (minutes / 60) ++ colon ++ padded 2 (minutes % 60)

/-- The fraction of a second with its point: none, or as many groups of three digits as are needed. -/
def fractionText (nanosecond : Nat) : String :=
  if nanosecond == 0 then ""
  else if nanosecond % 1000000 == 0 then "." ++ padded 3 (nanosecond / 1000000)
  else if nanosecond % 1000 == 0 then "." ++ padded 6 (nanosecond / 1000)
  else "." ++ padded 9 nanosecond

/-- Date, time and offset in the form of internet timestamps. -/
def text (t : Zoned) : String :=
  dateText t.clock.date ++ "T" ++ clockText t.clock ++ fractionText t.clock.fraction ++
    offsetText t.kind.offset ":"

end Zoned

end DynamicContent.Calendar
