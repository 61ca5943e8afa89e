/-
# The functions that every site has

Text and number helpers. Missing arguments count as empty texts. The two functions of the date depend
on the time of the call, in seconds since the first of January 1970.
-/

import DynamicContent.Calendar.Pattern
import DynamicContent.Function.Basic
import DynamicContent.Number.Decimal
import DynamicContent.Text.LetterCase
import DynamicContent.Text.Reading

namespace DynamicContent.Builtin

/-- The first argument. -/
def first (args : List String) : String := args.headD ""

/-- The most bytes that a repeated text may have. -/
def maxRepeatedBytes : Nat := 4096

/-- The date at an instant in universal time. -/
def date (now : Int) : HostFunction := fun args =>
  let custom := Text.trim (first args)
  let pattern := if custom.isEmpty then "%Y-%m-%d" else custom
  match (Calendar.Zoned.ofSeconds? .utc now 0).bind (Calendar.formatPattern? pattern) with
  | some text => .ok text
  | none => .error (.argument "date" ("invalid format `" ++ pattern ++ "`"))

/-- The year at an instant in universal time. -/
def currentYear (now : Int) : HostFunction := fun _ =>
  .ok (Number.intString (Calendar.Date.ofDays (now / 86400)).year)

/-- The arguments after the first, the first between them. -/
def implode : HostFunction
  | separator :: rest => .ok (Text.join separator rest)
  | [] => .error (.arity "implode" "a separator and values")

/-- A number with as many decimal places as the second argument says. -/
def numberFormat : HostFunction := fun args =>
  match Number.Extended64.ofText? (Text.trimChars (first args).toList) with
  | none => .error (.argument "number_format" "expected a number")
  | some x =>
    let places := ((args[1]?).map Text.leadingInt).getD 0
    .ok (String.ofList (x.groupedText (max 0 (min places 10)).toNat))

/-- One of the numbers that the arguments stand for. -/
def extreme (name : String) (pick : Int → Int → Int) : HostFunction := fun args =>
  match args.map Text.leadingInt with
  | n :: rest => .ok (Number.intString (rest.foldl pick n))
  | [] => .error (.arity name "at least one value")

/-- The first argument as often as the second says. -/
def strRepeat : HostFunction := fun args =>
  let text := first args
  let times := (max 0 (((args[1]?).map Text.leadingInt).getD 0)).toNat
  let size := min (Text.byteLength text.toList * times) Number.nat64Max
  if maxRepeatedBytes < size then
    .error (.argument "str_repeat" ("output would exceed " ++ Number.natString maxRepeatedBytes ++
      " bytes"))
  else if size == 0 then .ok ""
  else .ok (Text.replicate times text)

/-- A function of the first argument that never refuses. -/
def ofText (f : String → String) : HostFunction := fun args => .ok (f (first args))

/-- The built-in functions. -/
def functions (now : Int) : Functions :=
  [("date", date now), ("current_year", currentYear now), ("strtoupper", ofText Text.upper),
    ("strtolower", ofText Text.lower), ("ucfirst", ofText Text.capitalize),
    ("ucwords", ofText Text.capitalizeWords), ("trim", ofText Text.trim),
    ("strlen", ofText fun s => Number.natString s.length),
    ("word_count", ofText fun s => Number.natString (Text.words s).length), ("implode", implode),
    ("number_format", numberFormat), ("max", extreme "max" max), ("min", extreme "min" min),
    ("abs", ofText fun s => Number.intString (Number.saturatingAbs (Text.leadingInt s))),
    ("str_repeat", strRepeat)].foldl (fun functions (name, f) => functions.register name f) .empty

end DynamicContent.Builtin
