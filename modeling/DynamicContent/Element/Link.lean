/-
# Links

The attribute `name` says which address is meant. In the format `anchor` the element is an anchor with a
label, else the address alone. The link `auth` logs in or out, whichever the viewer can do.
-/

import DynamicContent.Element.Finish
import DynamicContent.Html.Link
import DynamicContent.Text.LetterCase

namespace DynamicContent.Element

/-- The address where the viewer logs in or out. -/
def authUrl (attrs : Attributes) (host : Host) (request : Request) : String :=
  if request.isLoggedIn then host.urls.logout (attrs.text "logout_redirect")
  else host.urls.login (attrs.text "login_redirect")

/-- The address of the record with the number in the attributes, empty if there is none. -/
def recordUrl (url? : Nat → Except ContentError (Option String)) (attrs : Attributes) : String :=
  ((positiveId? attrs "id").bind fun id => Site.found (url? id)).getD ""

/-- The addresses that can be asked for in every engine. -/
def builtinAddresses : List (String × (Attributes → Host → Request → String)) := [
  ("logout", fun attrs host _ => host.urls.logout (attrs.text "logout_redirect")),
  ("login", fun attrs host _ => host.urls.login (attrs.text "login_redirect")),
  ("register", fun _ host _ => host.urls.register),
  ("home", fun _ host _ => host.urls.home ""),
  ("admin", fun _ host _ => host.urls.admin ""),
  ("profile", fun _ host _ => host.urls.profile),
  ("siteurl", fun _ host _ => host.urls.site ""),
  ("current", fun _ host request => host.urls.current request),
  ("post", fun attrs host _ => recordUrl host.site.permalink? attrs),
  ("term", fun attrs host _ => recordUrl host.site.termLink? attrs),
  ("auth", authUrl)]

/-- The links of every engine. -/
def builtinLinks : List (String × Link) :=
  builtinAddresses.map fun entry => (entry.1, .reading entry.2)

/-- The label of a link. -/
def linkLabel (name : String) (attrs : Attributes) (request : Request) : String :=
  let orElse (label other : String) := if label.isEmpty then other else label
  if name = "auth" then
    if request.isLoggedIn then orElse (attrs.text "label_logged_in") "Logout"
    else orElse (attrs.text "label_logged_out") "Login"
  else orElse (attrs.text "label") (Text.capitalize name)

/-- An anchor for a link. -/
def anchor (href label target : String) : String :=
  let target := if target.isEmpty then "" else " target=\"" ++ Html.escape target ++ "\""
  "<a href=\"" ++ href ++ "\"" ++ target ++ " class=\"weft-link\">" ++ Html.escape label ++ "</a>"

/-- Renders a link. -/
def link : Renderer where
  typeTag := "link"
  defaults _ := pure <|
    ((defaultsWith ["name", "login_redirect", "logout_redirect", "label", "label_logged_in",
      "label_logged_out", "target"]).insert "id" (.int 0)).insertText "format" "raw"
  render attrs _ scope := do
    let name := Text.toKey (attrs.text "name")
    let url ← scope.linkUrl name attrs
    let href := Html.cleanUrl url
    let shown := if attrs.trimmed "format" = "anchor" then
        anchor href (linkLabel name attrs scope.request) (attrs.trimmed "target")
      else href
    pure (finishMarkup .post shown attrs)

end DynamicContent.Element
