/-
# Cleaning markup

Markup is read into a tree, what the policy does not allow is taken out, and the rest is written
again. Links are marked so that the page they open learns nothing about this one.
-/

import DynamicContent.Html.Construct
import DynamicContent.Html.Policy

namespace DynamicContent.Html

/-- A character of written text or of an attribute in quotes. -/
def writeChar (inAttribute : Bool) (c : Char) : List Char :=
  if c == '&' then "&amp;".toList
  else if c.toNat == 0xA0 then "&nbsp;".toList
  else if c == '<' then "&lt;".toList
  else if c == '>' then "&gt;".toList
  else if inAttribute && c == '"' then "&quot;".toList
  else [c]

/-- An attribute with a blank before it. -/
def writeAttribute (entry : String × String) : List Char :=
  ' ' :: entry.1.toList ++ '=' :: '"' :: entry.2.toList.flatMap (writeChar true) ++ ['"']

/-- Takes out an item; the last one takes its place. -/
def swapRemove {α : Type} (i : Nat) (items : List α) : List α :=
  match items.getLast? with
  | none => []
  | some last => if i + 1 == items.length then items.dropLast else items.dropLast.set i last

/-- Reduces the style of a custom element to its harmless part; a style of which nothing is left is
taken out. -/
def filterStyle (element : String) (attributes : List (String × String)) :
    List (String × String) :=
  match element, attributes.findIdx? (·.1 == "style") with
  | "qr-code", some i =>
    match attributes[i]?.bind fun a => safeStyle? a.2.toList with
    | some style => attributes.set i ("style", String.ofList style)
    | none => swapRemove i attributes
  | _, _ => attributes

/-- The attributes of an element that are written. -/
def writtenAttributes (element : String) (attributes : List (String × String)) :
    List (String × String) :=
  let kept := attributes.filter fun a => allowsAttribute element a.1 a.2
  let kept := if element == "a" then kept ++ [("rel", "noopener noreferrer")] else kept
  filterStyle element kept

mutual

/-- The markup of a tree that the profile allows. -/
def writeTree (profile : Profile) : Tree → List Char
  | .text content => content.flatMap (writeChar false)
  | .element ns name attributes children =>
    if name == "script" || name == "style" || !isInOwnNamespace ns name then []
    else
      let content := writeTrees profile children
      if profile.allowsElement name then
        let start := '<' :: name.toList ++ (writtenAttributes name attributes).flatMap writeAttribute ++
          ['>']
        if isVoid name then start else start ++ content ++ '<' :: '/' :: name.toList ++ ['>']
      else content

/-- The markup of trees that the profile allows. -/
def writeTrees (profile : Profile) : List Tree → List Char
  | [] => []
  | tree :: trees => writeTree profile tree ++ writeTrees profile trees

end

/-- The markup of a text that a profile allows. -/
def sanitize (profile : Profile) (source : String) : String :=
  if source.isEmpty then "" else String.ofList (writeTrees profile (parseFragment source))

end DynamicContent.Html
