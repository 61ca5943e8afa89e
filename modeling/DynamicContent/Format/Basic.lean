/-
# Formats

The attribute `format` says how the value of an element becomes text. Kinds that are not known here
are looked up among the registered ones; one that is registered nowhere, or that declines, leaves
the value as flat text.
-/

import DynamicContent.Attribute.Basic
import DynamicContent.Calendar.Pattern
import DynamicContent.Calendar.Reading
import DynamicContent.Format.Dump
import DynamicContent.Format.Serialized
import DynamicContent.Html.Strip
import DynamicContent.Json.Printer
import DynamicContent.Text.LetterCase

namespace DynamicContent

/-- A registered format: the text of a value, or `none` to decline. -/
abbrev FormatFilter := Json → Attributes → Option String

/-- The registered formats by kind. -/
abbrev FormatFilters := SortedMap FormatFilter

namespace Format

/-- Registers a format; letter case and blanks around its kind do not matter. -/
def register (kind : String) (filter : FormatFilter) (filters : FormatFilters) : FormatFilters :=
  filters.insert (Text.asciiLower (Text.trim kind)) filter

/-- How a date is written unless `date_format` says otherwise. -/
def plainDate : String := "%Y-%m-%d"

/-- How a date with its time is written unless `date_format` says otherwise. -/
def plainDateTime : String := "%Y-%m-%d %H:%M"

/-- The most decimal places of a formatted number. -/
def maxPlaces : Int := 10

/-- A number of decimal places within the bounds. -/
def clampPlaces (places : Int) : Nat := (max 0 (min places maxPlaces)).toNat

/-- A date in the zone of the site; text that is no date, or a pattern that is none, leaves the text
as it is. -/
def dateOrText (zone : Calendar.Zone) (attrs : Attributes) (plain : String) (v : Json) : String :=
  let custom := attrs.trimmed "date_format"
  let pattern := if custom.isEmpty then plain else custom
  let text := v.toText
  match Calendar.storedInstant? zone text with
  | none => text
  | some t => (Calendar.formatPattern? pattern t).getD text

/-- A number with grouped thousands; text that is no number stays. -/
def numberOrText (attrs : Attributes) (v : Json) : String :=
  let text := v.toText
  match Number.Extended64.ofText? (Text.trimChars text.toList) with
  | some x => String.ofList (x.groupedText (clampPlaces (attrs.int "decimals")))
  | none => text

/-- The text of a value in the format that the attributes ask for. -/
def apply (filters : FormatFilters) (zone : Calendar.Zone) (attrs : Attributes) (v : Json) : String :=
  let kind := Text.asciiLower (attrs.trimmed "format")
  let delimiter := ((attrs.get? "delimiter").map AttributeValue.toText).getD Json.plainDelimiter
  match kind with
  | "" | "raw" => v.toText
  | "date" => dateOrText zone attrs plainDate v
  | "datetime" => dateOrText zone attrs plainDateTime v
  | "number" => numberOrText attrs v
  | "json" => v.print
  | "serialize" => v.serialize
  | "unserialize" | "implode" | "values" => v.unpacked.joinItems delimiter
  | "print" => v.unpacked.listing 0
  | "export" => v.unpacked.literal 0
  | "keys" => Text.join delimiter (v.unpacked.entries.map (·.1))
  | "keys-values" | "keys_values" =>
    Text.join delimiter (v.unpacked.entries.map fun (key, item) => key ++ ": " ++ item.toText)
  | "capitalize" => Text.capitalizeWords v.toText
  | "uppercase" | "upper" => Text.upper v.toText
  | "lowercase" | "lower" => Text.lower v.toText
  | "strip-tags" | "strip_tags" => Html.strip v.toText
  | _ => ((filters.find? kind).bind fun filter => filter v attrs).getD v.toText

end Format

end DynamicContent
