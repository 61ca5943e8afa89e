/-
# Components

Elements that stand for a component with a script of its own: the code that can be scanned, and the text
that is hidden until it is asked for. Such an element needs the script on the page.
-/

import DynamicContent.Element.Finish
import DynamicContent.Html.Strip

namespace DynamicContent.Element

/-- The width and height of a code that has none. -/
def plainCodeSize : Int := 200

/-- The style of a code. -/
def codeStyle (attrs : Attributes) : String :=
  let size := attrs.int "size"
  let size := Number.intString (if 0 < size then size else plainCodeSize)
  let extra := attrs.trimmed "style"
  "width: " ++ size ++ "px; height: " ++ size ++ "px"
    ++ if extra.isEmpty then "" else
      "; " ++ String.ofList (extra.toList.reverse.dropWhile (· == ';')).reverse

/-- The markup of a code for some contents. -/
def codeMarkup (contents : String) (attrs : Attributes) : String :=
  "<qr-code " ++ Text.join " " (tagAttributes [
    ("contents", contents),
    ("style", codeStyle attrs),
    ("class", attrs.text "class"),
    ("module-color", attrs.text "module_color"),
    ("position-ring-color", attrs.text "position_ring_color"),
    ("position-center-color", attrs.text "position_center_color"),
    ("data-weft-qr-animation", attrs.trimmed "animation")]) ++ "></qr-code>"

/-- Renders a code that can be scanned, for the attribute `text` or else for the text inside. -/
def code : Renderer where
  typeTag := "qr"
  defaults _ := pure <|
    ["style", "module_color", "position_ring_color", "position_center_color", "animation"].foldl
      (fun attrs name => attrs.insertText name "")
      (((commonDefaults.insertText "text" "").insert "size" (.int plainCodeSize)).insertText
        "class" "weft-qr")
  render attrs content scope := do
    let given := attrs.trimmed "text"
    let contents ← if given.isEmpty then
        pure (Text.trim (Html.strip (← scope.expandText content)))
      else pure given
    if contents.isEmpty then pure ""
    else
      RenderM.needAsset scope.request "weft-qr-code"
      if !(attrs.trimmed "animation").isEmpty then
        RenderM.needAsset scope.request "weft-qr-animation"
      pure (finishMarkup .qrCode (codeMarkup contents attrs) attrs)

/-- The attributes of hidden text. -/
def spoilerAttributes : List String :=
  ["scale", "min-velocity", "max-velocity", "particle-lifetime", "density", "reveal-duration",
    "spawn-stop-delay", "monitor-position", "fps"]

/-- The markup of hidden text. -/
def spoilerMarkup (inner : String) (attrs : Attributes) : String :=
  let parts := tagAttributes (spoilerAttributes.map fun name => (name, attrs.text name))
  let opening := if parts.isEmpty then "<spoiler-span>"
    else "<spoiler-span " ++ Text.join " " parts ++ ">"
  opening ++ inner ++ "</spoiler-span>"

/-- Renders hidden text. -/
def spoiler : Renderer where
  typeTag := "spoiler"
  defaults _ := pure (defaultsWith spoilerAttributes)
  render attrs content scope := do
    let inner := Html.sanitize .post (← scope.expandText content)
    if isBlankText inner then pure ""
    else
      RenderM.needAsset scope.request "weft-spoiler"
      pure (finishMarkup .spoiler (spoilerMarkup inner attrs) attrs)

end DynamicContent.Element
