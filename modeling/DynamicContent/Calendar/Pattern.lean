/-
# Date patterns

A pattern is text in which `%` and a letter stand for a part of a date. Before the letter of a number
a mark may change its padding. A pattern with an unknown letter, or with a mark where none is
allowed, is not a pattern at all.
-/

import DynamicContent.Calendar.Zone

namespace DynamicContent.Calendar

/-- How a number is filled up to its width. -/
inductive Padding where
  | none
  | zero
  | space

/-- The parts of a date that are numbers. -/
inductive NumberPart where
  | year
  | century
  | yearOfCentury
  | isoYear
  | isoYearOfCentury
  | quarter
  | month
  | day
  | weekFromSunday
  | weekFromMonday
  | isoWeek
  | weekdayFromSunday
  | weekdayFromMonday
  | dayOfYear
  | hour
  | hour12
  | minute
  | second
  | nanosecond
  | timestamp

/-- The parts of a date that are not padded. -/
inductive NamePart where
  | shortMonth
  | longMonth
  | shortWeekday
  | longWeekday
  | lowerHalf
  | upperHalf
  | fraction
  | fractionDigits (point : Bool) (digits : Nat)
  | abbreviation
  | offset
  | offsetColon
  | offsetSeconds
  | offsetHours
  | timestampText

/-- The parts of a pattern. -/
inductive PatternPart where
  | char (c : Char)
  | number (part : NumberPart) (padding : Padding)
  | name (part : NamePart)

/-- The full names of the months. -/
def monthNames : List String :=
  ["January", "February", "March", "April", "May", "June", "July", "August", "September", "October",
    "November", "December"]

/-- The full names of the days of the week, from Sunday on. -/
def weekdayNames : List String :=
  ["Sunday", "Monday", "Tuesday", "Wednesday", "Thursday", "Friday", "Saturday"]

namespace NumberPart

/-- The value of a part, its width, and whether it is written with a sign. -/
def value (part : NumberPart) (t : Zoned) : Int × Nat × Bool :=
  let date := t.clock.date
  let signed (year : Int) := !(0 ≤ year && year ≤ 9999)
  match part with
  | year => (date.year, 4, signed date.year)
  | century => (date.year / 100, 2, false)
  | yearOfCentury => (date.year % 100, 2, false)
  | isoYear => (date.isoWeek.1, 4, signed date.isoWeek.1)
  | isoYearOfCentury => (date.isoWeek.1 % 100, 2, false)
  | quarter => ((date.month - 1) / 3 + 1, 1, false)
  | month => (date.month, 2, false)
  | day => (date.day, 2, false)
  | weekFromSunday => (date.weekFrom 0, 2, false)
  | weekFromMonday => (date.weekFrom 1, 2, false)
  | isoWeek => (date.isoWeek.2, 2, false)
  | weekdayFromSunday => (date.weekday, 1, false)
  | weekdayFromMonday => ((date.weekday + 6) % 7 + 1, 1, false)
  | dayOfYear => (date.dayOfYear + 1, 3, false)
  | hour => (t.clock.hour, 2, false)
  | hour12 => ((t.clock.hour + 11) % 12 + 1, 2, false)
  | minute => (t.clock.minute, 2, false)
  | second => (t.clock.secondOfMinute, 2, false)
  | nanosecond => (t.clock.fraction, 9, false)
  | timestamp => (t.toSeconds, 9, false)

/-- The text of a part. A sign counts for the width; zeros follow it, spaces precede it. -/
def text (part : NumberPart) (padding : Padding) (t : Zoned) : String :=
  let (n, width, signed) := part.value t
  let sign := if n < 0 then "-" else if signed then "+" else ""
  let digits := Number.natString n.natAbs
  let width := if signed then width + 1 else width
  let fill (c : Char) := String.ofList (List.replicate (width - (sign.length + digits.length)) c)
  match padding with
  | .none => sign ++ digits
  | .zero => sign ++ fill '0' ++ digits
  | .space => fill ' ' ++ sign ++ digits

end NumberPart

/-- The text of a part that is not padded. -/
def NamePart.text (part : NamePart) (t : Zoned) : String :=
  let month := monthNames.getD (t.clock.date.month - 1) ""
  let weekday := weekdayNames.getD t.clock.date.weekday ""
  let afternoon := 12 ≤ t.clock.hour
  match part with
  | shortMonth => String.ofList (month.toList.take 3)
  | longMonth => month
  | shortWeekday => String.ofList (weekday.toList.take 3)
  | longWeekday => weekday
  | lowerHalf => if afternoon then "pm" else "am"
  | upperHalf => if afternoon then "PM" else "AM"
  | fraction => Zoned.fractionText t.clock.fraction
  | fractionDigits point digits =>
    (if point then "." else "") ++ padded digits (t.clock.fraction / Nat.pow 10 (9 - digits))
  | abbreviation => t.kind.abbreviation
  | offset => Zoned.offsetText t.kind.offset ""
  | offsetColon => Zoned.offsetText t.kind.offset ":"
  | offsetSeconds =>
    let n := t.kind.offset.natAbs
    (if t.kind.offset < 0 then "-" else "+") ++ padded 2 (n / 3600) ++ ":" ++
      padded 2 (n / 60 % 60) ++ ":" ++ padded 2 (n % 60)
  | offsetHours =>
    (if t.kind.offset < 0 then "-" else "+") ++ padded 2 (t.kind.offset.natAbs / 3600)
  | timestampText => t.text

/-- The text of a part. -/
def PatternPart.text (part : PatternPart) (t : Zoned) : String :=
  match part with
  | char c => String.singleton c
  | number part padding => part.text padding t
  | name part => part.text t

/-- The number that a letter stands for, with its usual padding. -/
def numberOfLetter? (c : Char) : Option (NumberPart × Padding) :=
  match c with
  | 'Y' => some (.year, .zero)
  | 'C' => some (.century, .zero)
  | 'y' => some (.yearOfCentury, .zero)
  | 'G' => some (.isoYear, .zero)
  | 'g' => some (.isoYearOfCentury, .zero)
  | 'q' => some (.quarter, .none)
  | 'm' => some (.month, .zero)
  | 'd' => some (.day, .zero)
  | 'e' => some (.day, .space)
  | 'U' => some (.weekFromSunday, .zero)
  | 'W' => some (.weekFromMonday, .zero)
  | 'V' => some (.isoWeek, .zero)
  | 'w' => some (.weekdayFromSunday, .none)
  | 'u' => some (.weekdayFromMonday, .none)
  | 'j' => some (.dayOfYear, .zero)
  | 'H' => some (.hour, .zero)
  | 'k' => some (.hour, .space)
  | 'I' => some (.hour12, .zero)
  | 'l' => some (.hour12, .space)
  | 'M' => some (.minute, .zero)
  | 'S' => some (.second, .zero)
  | 'f' => some (.nanosecond, .zero)
  | 's' => some (.timestamp, .none)
  | _ => none

/-- The names that letters stand for. -/
def nameOfLetter? (c : Char) : Option NamePart :=
  match c with
  | 'b' | 'h' => some .shortMonth
  | 'B' => some .longMonth
  | 'a' => some .shortWeekday
  | 'A' => some .longWeekday
  | 'P' => some .lowerHalf
  | 'p' => some .upperHalf
  | 'Z' => some .abbreviation
  | 'z' => some .offset
  | '+' => some .timestampText
  | _ => none

/-- The parts that a letter for several parts stands for. -/
def partsOfLetter? (c : Char) : Option (List PatternPart) :=
  let n (c : Char) : List PatternPart :=
    match numberOfLetter? c with
    | some (part, padding) => [.number part padding]
    | none => []
  let date := n 'm' ++ [.char '/'] ++ n 'd' ++ [.char '/'] ++ n 'y'
  let hourMinute := n 'H' ++ [.char ':'] ++ n 'M'
  let clock := hourMinute ++ [.char ':'] ++ n 'S'
  match c with
  | 'D' | 'x' => some date
  | 'F' => some (n 'Y' ++ [.char '-'] ++ n 'm' ++ [.char '-'] ++ n 'd')
  | 'v' => some (n 'e' ++ [.char '-', .name .shortMonth, .char '-'] ++ n 'Y')
  | 'R' => some hourMinute
  | 'T' | 'X' => some clock
  | 'r' =>
    some (n 'I' ++ [.char ':'] ++ n 'M' ++ [.char ':'] ++ n 'S' ++ [.char ' ', .name .upperHalf])
  | 'c' =>
    some ([.name .shortWeekday, .char ' ', .name .shortMonth, .char ' '] ++ n 'e' ++ [.char ' '] ++
      clock ++ [.char ' '] ++ n 'Y')
  | 'n' => some [.char '\n']
  | 't' => some [.char '\t']
  | '%' => some [.char '%']
  | _ => none

/-- The number of digits of a fraction. -/
def fractionDigits? (c : Char) : Option Nat :=
  if c == '3' then some 3 else if c == '6' then some 6 else if c == '9' then some 9 else none

/-- The parts after `%`, and how many characters they take. -/
def takeParts? (cs : List Char) : Option (List PatternPart × Nat) :=
  match cs with
  | '-' :: c :: _ => (numberOfLetter? c).map fun (part, _) => ([.number part .none], 2)
  | '0' :: c :: _ => (numberOfLetter? c).map fun (part, _) => ([.number part .zero], 2)
  | '_' :: c :: _ => (numberOfLetter? c).map fun (part, _) => ([.number part .space], 2)
  | ':' :: ':' :: ':' :: 'z' :: _ => some ([.name .offsetHours], 4)
  | ':' :: ':' :: 'z' :: _ => some ([.name .offsetSeconds], 3)
  | ':' :: 'z' :: _ => some ([.name .offsetColon], 2)
  | '.' :: 'f' :: _ => some ([.name .fraction], 2)
  | '.' :: d :: 'f' :: _ => (fractionDigits? d).map fun n => ([.name (.fractionDigits true n)], 3)
  | c :: rest =>
    match fractionDigits? c, rest with
    | some n, 'f' :: _ => some ([.name (.fractionDigits false n)], 2)
    | some _, _ => none
    | none, _ =>
      match numberOfLetter? c, nameOfLetter? c, partsOfLetter? c with
      | some (part, padding), _, _ => some ([.number part padding], 1)
      | none, some part, _ => some ([.name part], 1)
      | none, none, some parts => some (parts, 1)
      | none, none, none => none
  | [] => none

/-- Reads a pattern; the first argument counts the characters to skip. -/
def patternFrom? : Nat → List Char → Option (List PatternPart)
  | _, [] => some []
  | n + 1, _ :: cs => patternFrom? n cs
  | 0, c :: cs =>
    if c == '%' then
      match takeParts? cs with
      | some (parts, n) => (patternFrom? n cs).map (parts ++ ·)
      | none => none
    else (patternFrom? 0 cs).map (.char c :: ·)

/-- The text that a pattern gives for an instant; `none` if it is not a pattern. -/
def formatPattern? (pattern : String) (t : Zoned) : Option String :=
  (patternFrom? 0 pattern.toList).map fun parts => String.join (parts.map (·.text t))

end DynamicContent.Calendar
