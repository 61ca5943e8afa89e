/-
# Reading dates

A stored date is a number of seconds, an internet timestamp, or the reading of a clock in the zone of
the site, with or without a time of day.
-/

import DynamicContent.Calendar.Zone

namespace DynamicContent.Calendar

/-- Exactly so many digits, as a number. -/
def takeDigits? (count : Nat) (cs : List Char) : Option (Nat × List Char) :=
  let digits := cs.take count
  if digits.length == count then (Number.natOfDigits? digits).map (·, cs.drop count) else none

/-- A character that must come next. -/
def takeChar? (c : Char) : List Char → Option (List Char)
  | [] => none
  | d :: rest => if d == c then some rest else none

/-- One or more digits after a point, as nanoseconds. Digits beyond nine are dropped. -/
def takeFraction? (cs : List Char) : Option (Nat × List Char) :=
  let digits := cs.takeWhile Char.isDigit
  if digits.isEmpty then none
  else
    let kept := digits.take 9
    some (Number.digitsValue 0 kept * Nat.pow 10 (9 - kept.length), cs.drop digits.length)

/-- A year of four digits, a month and a day, with dashes. -/
def takeDate? (cs : List Char) : Option (Date × List Char) := do
  let (year, cs) ← takeDigits? 4 cs
  let cs ← takeChar? '-' cs
  let (month, cs) ← takeDigits? 2 cs
  let cs ← takeChar? '-' cs
  let (day, cs) ← takeDigits? 2 cs
  some (⟨year, month, day⟩, cs)

/-- Hour, minute and second with colons, and a fraction that may follow. -/
def takeClock? (cs : List Char) : Option (Nat × Nat × Nat × Nat × List Char) := do
  let (hour, cs) ← takeDigits? 2 cs
  let cs ← takeChar? ':' cs
  let (minute, cs) ← takeDigits? 2 cs
  let cs ← takeChar? ':' cs
  let (second, cs) ← takeDigits? 2 cs
  match cs with
  | '.' :: rest =>
    let (nanosecond, cs) ← takeFraction? rest
    some (hour, minute, second, nanosecond, cs)
  | _ => some (hour, minute, second, 0, cs)

/-- An offset that extends to the end: `Z`, or a sign, hours and minutes. -/
def offsetOfText? (minus : Char → Bool) (cs : List Char) : Option Int :=
  match cs with
  | ['Z'] | ['z'] => some 0
  | sign :: rest => do
    let negative ← if sign == '+' then some false else if minus sign then some true else none
    let (hours, rest) ← takeDigits? 2 rest
    let (minutes, rest) ← takeDigits? 2 (← takeChar? ':' rest)
    if rest.isEmpty && hours < 24 && minutes < 60 then
      let seconds : Int := 3600 * hours + 60 * minutes
      some (if negative then -seconds else seconds)
    else none
  | [] => none

/-- An internet timestamp: the clock reading and its offset. -/
def timestampOfText? (cs : List Char) : Option (DateTime × Int) := do
  let (date, cs) ← takeDate? cs
  let cs ← match cs with
    | c :: rest => if c == 'T' || c == 't' || c == ' ' then some rest else none
    | [] => none
  let (hour, minute, second, nanosecond, cs) ← takeClock? cs
  let offset ← offsetOfText? (fun c => c == '-' || c == '−') cs
  let clock ← DateTime.ofClock? date hour minute second nanosecond
  some (clock, offset)

/-- One or two digits after blanks, as a number. -/
def takeShort? (cs : List Char) : Option (Nat × List Char) :=
  let cs := Text.trimStartChars cs
  let digits := (cs.take 2).takeWhile Char.isDigit
  (Number.natOfDigits? digits).map (·, cs.drop digits.length)

/-- A year: up to four digits, or a sign and any number of them. -/
def takeYear? (cs : List Char) : Option (Int × List Char) :=
  match Text.trimStartChars cs with
  | '-' :: rest => signed rest (-1)
  | '+' :: rest => signed rest 1
  | cs =>
    let digits := (cs.take 4).takeWhile Char.isDigit
    (Number.natOfDigits? digits).map fun n => ((n : Int), cs.drop digits.length)
where
  /-- The digits after a sign. -/
  signed (cs : List Char) (sign : Int) : Option (Int × List Char) :=
    (Number.natOfDigits? (cs.takeWhile Char.isDigit)).map fun n =>
      (sign * n, cs.dropWhile Char.isDigit)

/-- A date whose numbers may be short. -/
def takeLooseDate? (cs : List Char) : Option (Date × List Char) := do
  let (year, cs) ← takeYear? cs
  let (month, cs) ← takeShort? (← takeChar? '-' cs)
  let (day, cs) ← takeShort? (← takeChar? '-' cs)
  let date : Date := ⟨year, month, day⟩
  if date.inRange && date.isValid then some (date, cs) else none

/-- The reading of a clock: a date, alone for the start of the day or with a time. -/
def clockOfText? (cs : List Char) : Option DateTime := do
  let (date, rest) ← takeLooseDate? cs
  if rest.isEmpty then some ⟨date, 0, 0⟩
  else
    let (hour, rest) ← takeShort? rest
    let (minute, rest) ← takeShort? (← takeChar? ':' rest)
    let (second, rest) ← takeShort? (← takeChar? ':' rest)
    if rest.isEmpty then DateTime.ofClock? date hour minute second 0 else none

/-- The instant that a stored date names in the zone of the site. -/
def storedInstant? (zone : Zone) (s : String) : Option Zoned :=
  let cs := Text.trimChars s.toList
  match Number.int64OfText? cs with
  | some seconds => Zoned.ofSeconds? zone seconds 0
  | none =>
    match timestampOfText? cs with
    | some (clock, offset) => Zoned.ofSeconds? zone (clock.toSeconds - offset) clock.nanosecond
    | none => (clockOfText? cs).bind (Zoned.ofClock? zone)

end DynamicContent.Calendar
