/-
# Removing markup from text

The tags of elements are removed and their content kept; a script or a style goes with its content,
and a comment inside an element goes too. Removal follows the elements that are open: an end tag that
closes none of them stays, and so does a comment outside of every element, a document type and a tag
that is cut off.

No document tree is built, only what decides how text is read is followed: the namespaces, and the
places inside `select` and `frameset` where a tree would drop a tag that this reading obeys. Such a
tag makes the reading ambiguous, and an ambiguous text is dropped as a whole.
-/

import DynamicContent.Html.Token
import DynamicContent.Text.Reading

namespace DynamicContent.Html

/-- Where a tree would treat tags that change the reading of text in another way. -/
inductive Enclosure where
  | none
  | select
  | templateInSelect (depth : Nat)
  | frameset

namespace Enclosure

/-- The enclosure after a start tag; `none` if the tag is ambiguous there. -/
def afterStart? (enclosure : Enclosure) (name : String) : Option Enclosure :=
  let ambiguous := textModeOf name != .data
  match enclosure with
  | none =>
    if name == "select" then some select else if name == "frameset" then some frameset else some none
  | select =>
    if ["select", "textarea", "input", "keygen"].contains name then some none
    else if name == "template" then some (templateInSelect 1)
    else if name != "script" && ambiguous then Option.none
    else some select
  | templateInSelect depth =>
    if name == "template" then some (templateInSelect (depth + 1))
    else if ambiguous then Option.none
    else some (templateInSelect depth)
  | frameset => if name != "noframes" && ambiguous then Option.none else some frameset

/-- The enclosure after an end tag. -/
def afterEnd (enclosure : Enclosure) (name : String) : Enclosure :=
  match enclosure with
  | select => if name == "select" then none else select
  | templateInSelect depth =>
    if name == "template" then (if depth == 1 then select else templateInSelect (depth - 1))
    else templateInSelect depth
  | other => other

end Enclosure

/-- The state of a reading. The innermost open element and namespace come first. -/
structure Reading where
  opened : List String
  namespaces : List Namespace
  enclosure : Enclosure
  mode : TextMode
  lastStart : String

namespace Reading

/-- The state at the start of a text. -/
def start : Reading := ⟨[], [.html], .none, .data, ""⟩

/-- The namespace that a tag is read in. -/
def current (r : Reading) : Namespace := r.namespaces.headD .html

/-- Leaves the innermost namespace. -/
def leave (r : Reading) : Reading := { r with namespaces := r.namespaces.drop 1 }

/-- Enters a namespace. -/
def enter (ns : Namespace) (r : Reading) : Reading := { r with namespaces := ns :: r.namespaces }

/-- Whether an element is dropped together with its content. -/
def dropsContent (name : String) : Bool := name == "script" || name == "style"

/-- Whether text is kept, that is, no open element is dropped. -/
def keepsText (r : Reading) : Bool := !r.opened.any dropsContent

/-- What a start tag in foreign content does to the namespaces, and the namespace of its element. -/
def enterForeign (r : Reading) (tag : Tag) : Reading × Namespace :=
  let ns := r.current
  if leavesForeign tag.name then (r.leave, r.leave.current)
  else if isIntegrationPoint ns tag.name then
    (if tag.selfClosing then r else r.enter .html, ns)
  else if tag.name == "font" && tag.attributes.any (["color", "size", "face"].contains ·.1) then
    (r.leave, r.leave.current)
  else if tag.name == "annotation-xml" && !tag.selfClosing && tag.attributes.any (fun a =>
      a.1 == "encoding" &&
        ["text/html", "application/xhtml+xml"].contains (Text.asciiLower a.2)) then
    (r.enter .html, ns)
  else (r, ns)

/-- The state after a start tag; `none` if it is ambiguous. -/
def startTag? (r : Reading) (tag : Tag) : Option Reading := do
  let enclosure ← r.enclosure.afterStart? tag.name
  let r := { r with enclosure, lastStart := tag.name }
  let (r, ns) :=
    if tag.name == "svg" then (r.enter .svg, .svg)
    else if tag.name == "math" then (r.enter .mathMl, .mathMl)
    else if r.current == .html then ({ r with mode := textModeOf tag.name }, .html)
    else r.enterForeign tag
  let hasContent := if ns == .html then !isVoid tag.name else !tag.selfClosing
  some (if hasContent then { r with opened := tag.name :: r.opened } else r)

/-- The namespaces after an end tag. -/
def exitNamespace (r : Reading) (name : String) : Reading :=
  match r.namespaces with
  | .html :: outer :: _ =>
    if isIntegrationPoint outer name || (outer == .mathMl && name == "annotation-xml") then r.leave
    else r
  | .svg :: _ => if name == "svg" then r.leave else r
  | .mathMl :: _ => if name == "math" then r.leave else r
  | _ => r

/-- The state after an end tag, and whether it closed an element. -/
def endTag (r : Reading) (name : String) : Reading × Bool :=
  let r := { r with enclosure := r.enclosure.afterEnd name, mode := .data }
  let r := r.exitNamespace name
  if r.opened.contains name then
    ({ r with opened := (r.opened.dropWhile (· != name)).drop 1 }, true)
  else (r, false)

end Reading

/-- Removes the markup of a text from a state on; `none` if the reading is ambiguous. The first
argument bounds the number of parts. -/
def stripFrom : Nat → Reading → List Char → Option (List Char)
  | 0, _, _ => some []
  | _, _, [] => some []
  | n + 1, r, cs =>
    let (text, rest) := takeText r.mode r.lastStart cs
    let kept (keep : Bool) (part : List Char) := if keep then part else []
    match rest with
    | [] => some (kept r.keepsText text)
    | _ :: inside =>
      let (markup, rest') := takeMarkup (r.current != .html) inside
      let source := rest.take (rest.length - rest'.length)
      let before := kept r.keepsText text
      let continueWith (r : Reading) (part : List Char) :=
        (stripFrom n r rest').map (before ++ part ++ ·)
      match markup with
      | .startTag tag => do
        let r' ← r.startTag? tag
        continueWith r' []
      | .endTag tag =>
        let (r', closed) := r.endTag tag.name
        continueWith r' (kept (!closed && r'.keepsText) source)
      | .comment _ => continueWith r (kept (r.opened.isEmpty && r.keepsText) source)
      | _ => continueWith r (kept r.keepsText source)

/-- The text without its markup; empty if the markup cannot be read in one way only. -/
def stripChars (cs : List Char) : List Char :=
  if cs.contains '<' then (stripFrom (cs.length + 1) .start cs).getD [] else cs

/-- The text without its markup; empty if the markup cannot be read in one way only. -/
def strip (s : String) : String := String.ofList (stripChars s.toList)

/-! ## Plain text

The one-line plain text that a directive may put into a page: markup removed, runs of blanks made single
spaces, no blank at either end. -/

/-- Makes a space of each run of blanks between other characters and drops those at the ends. The
flags say whether a character was written and whether a blank is pending. -/
def collapseFrom (written pending : Bool) : List Char → List Char
  | [] => []
  | c :: cs =>
    if Text.isBlank c then collapseFrom written written cs
    else if pending then ' ' :: c :: collapseFrom true false cs
    else c :: collapseFrom true false cs

/-- The text with each run of blanks as one space and none at the ends. -/
def collapseBlanks (cs : List Char) : List Char := collapseFrom false false cs

/-- The plain text of a text with markup. -/
def plainText (s : String) : String := String.ofList (collapseBlanks (stripChars s.toList))

end DynamicContent.Html
