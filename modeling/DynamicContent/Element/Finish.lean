/-
# What all elements have in common

Every element takes the attributes for the text around its value and for the format of the value, and the
markup it gives is made safe last.
-/

import DynamicContent.Engine.World
import DynamicContent.Html.Link
import DynamicContent.Html.Sanitize

namespace DynamicContent.Element

/-- Whether a text has nothing but blanks. -/
def isBlankText (s : String) : Bool := (Text.trimChars s.toList).isEmpty

/-- A value with what the attributes put around it; nothing at all if the value is blank and so is what
stands in for it. -/
def wrap (value : String) (attrs : Attributes) : String :=
  let fallback := attrs.text "fallback"
  let shown := if isBlankText value && !fallback.isEmpty then fallback else value
  if isBlankText shown then "" else attrs.text "before" ++ shown ++ attrs.text "after"

/-- The defaults of every element. -/
def commonDefaults : Attributes :=
  .ofTexts [("before", ""), ("after", ""), ("fallback", ""), ("format", "")]

/-- The defaults of every element with further ones that are empty. -/
def defaultsWith (names : List String) : Attributes :=
  names.foldl (fun attrs name => attrs.insertText name "") commonDefaults

/-- Markup with the text around it, made safe for a kind of element. -/
def finishMarkup (profile : Html.Profile) (html : String) (attrs : Attributes) : String :=
  Html.sanitize profile (wrap html attrs)

/-- A value in its format with the text around it, made safe. -/
def finishValue (host : Host) (v : Json) (attrs : Attributes) : String :=
  finishMarkup .post (Format.apply host.formats host.zone attrs v) attrs

/-- The positive number in an attribute. -/
def positiveId? (attrs : Attributes) (name : String) : Option Nat :=
  let n := attrs.int name
  if 0 < n then some n.toNat else none

/-- An attribute of a tag; none if the value is blank. -/
def tagAttribute? (name value : String) : Option String :=
  let value := Text.trim value
  if value.isEmpty then none else some (name ++ "=\"" ++ Html.escape value ++ "\"")

/-- The attributes of a tag that have a value. -/
def tagAttributes (entries : List (String × String)) : List String :=
  entries.filterMap fun entry => tagAttribute? entry.1 entry.2

end DynamicContent.Element
