/-
# Text and addresses inside markup

Five characters have a meaning of their own in markup. Writing an entity for each of them makes any
text safe as an attribute value in quotes and as content. The addresses that may stand in an attribute
of generated markup are relative ones, and those of a few schemes that do not run code.
-/

import DynamicContent.Url.Basic

namespace DynamicContent.Html

/-- The text of one character inside markup. -/
def escapeChar (c : Char) : List Char :=
  if c == '&' then "&amp;".toList
  else if c == '<' then "&lt;".toList
  else if c == '>' then "&gt;".toList
  else if c == '"' then "&quot;".toList
  else if c == '\'' then "&#039;".toList
  else [c]

/-- The text inside markup. -/
def escapeChars (cs : List Char) : List Char := cs.flatMap escapeChar

/-- The text inside markup. -/
def escape (s : String) : String := String.ofList (escapeChars s.toList)

/-- The schemes that a link may have. -/
def linkSchemes : List String := ["http", "https", "mailto", "tel", "ftp", "ftps"]

/-- The address as it may be written into an attribute; empty if it may not. -/
def cleanUrl (raw : String) : String :=
  let trimmed := Text.trim raw
  if trimmed.isEmpty || trimmed.toList.any Text.isControl then ""
  else
    match Url.parse trimmed with
    | .ok url => if linkSchemes.contains url.scheme then escape trimmed else ""
    | .error .withoutBase => escape trimmed
    | .error _ => ""

/-- A link that shows its own address. -/
def plainAnchor (url : String) : String :=
  "<a href=\"" ++ cleanUrl url ++ "\" target=\"_blank\" rel=\"noopener noreferrer\">" ++
    escape url ++ "</a>"

end DynamicContent.Html
