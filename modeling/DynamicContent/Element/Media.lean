/-
# Media and embedded documents

Elements for audio and video that the site hosts itself: addresses of streaming and social platforms are
refused, and those who manage the site are told so. A document of another site is embedded as the
provider of that site wants it shown, so its markup is trusted; where the provider gives nothing, the
fallback stands in for it, or else an anchor.
-/

import DynamicContent.Element.Finish
import DynamicContent.Html.Link
import DynamicContent.Url.Basic

namespace DynamicContent.Element

/-! ## Audio and video -/

/-- What is played. -/
inductive MediaKind where
  | audio
  | video
deriving DecidableEq, Inhabited

namespace MediaKind

/-- The name of the tag. -/
def tag : MediaKind → String
  | audio => "audio"
  | video => "video"

/-- The hosts that are refused, with all that is below them. -/
def blockedHosts : MediaKind → List String
  | audio => ["soundcloud.com", "www.soundcloud.com", "spotify.com", "www.spotify.com",
      "open.spotify.com", "music.apple.com", "deezer.com", "www.deezer.com", "tidal.com",
      "www.tidal.com", "pandora.com", "www.pandora.com", "mixcloud.com", "www.mixcloud.com",
      "audiomack.com", "www.audiomack.com"]
  | video => ["youtube.com", "www.youtube.com", "youtu.be", "vimeo.com", "www.vimeo.com",
      "dailymotion.com", "www.dailymotion.com"]

/-- What is said of a refused address. -/
def refusal : MediaKind → String
  | audio => "Streaming audio URLs are not supported by the audio shortcode."
  | video => "Social video URLs are not supported by the video shortcode."

/-- What is shown where media cannot be played. -/
def notice : MediaKind → String
  | audio => "Your browser does not support HTML5 audio."
  | video => "Your browser does not support HTML5 video."

/-- The attributes that are there or not. -/
def switches : MediaKind → List String
  | audio => ["controls", "autoplay", "loop", "muted"]
  | video => ["controls", "autoplay", "loop", "muted", "playsinline"]

/-- The defaults of the elements. -/
def defaults (kind : MediaKind) : Attributes :=
  let plain := (((((defaultsWith ["src", "attachment_id", "width", "height", "class", "id"]).insertText
    "autoplay" "false").insertText "loop" "false").insertText "muted" "false").insertText
    "controls" "true").insertText "preload" "metadata"
  match kind with
  | audio => plain
  | video => (plain.insertText "poster" "").insertText "playsinline" "true"

/-- The address of the media: that of an attachment, or else the one in the attributes. -/
def source (site : Site) (attrs : Attributes) : String :=
  match (positiveId? attrs "attachment_id").bind fun id => Site.found (site.attachmentUrl? id) with
  | some url => if url.isEmpty then attrs.trimmed "src" else url
  | none => attrs.trimmed "src"

/-- How much may be loaded in advance. -/
def preloadValues : List String := ["auto", "metadata", "none"]

/-- An attribute whose value needs no escapes. -/
def plainAttribute (name value : String) : String := name ++ "=\"" ++ value ++ "\""

/-- Width and height, as far as they are numbers. -/
def dimensions (attrs : Attributes) : List String :=
  ["width", "height"].filterMap fun name =>
    (Number.int64OfText? (attrs.trimmed name).toList).map fun n =>
      plainAttribute name (Number.intString n)

/-- The attributes of the tag. -/
def parts (kind : MediaKind) (src : String) (attrs : Attributes) : List String :=
  let extra := attrs.trimmed "class"
  let classes := "weft-" ++ kind.tag ++ if extra.isEmpty then "" else " " ++ extra
  let poster := attrs.trimmed "poster"
  let preload := Text.asciiLower (attrs.trimmed "preload")
  tagAttributes [("id", attrs.text "id")]
    ++ [plainAttribute "class" (Html.escape classes), plainAttribute "src" (Html.cleanUrl src)]
    ++ (match kind with
      | audio => []
      | video => (if poster.isEmpty then [] else [plainAttribute "poster" (Html.cleanUrl poster)])
          ++ dimensions attrs)
    ++ kind.switches.filter (fun name => Text.toFlag (attrs.text name))
    ++ (if preloadValues.contains preload then [plainAttribute "preload" preload] else [])

/-- The markup for media at an address that is not refused. -/
def markup (kind : MediaKind) (src : String) (attrs : Attributes) : String :=
  "<" ++ kind.tag ++ " " ++ Text.join " " (kind.parts src attrs) ++ ">" ++ Html.escape kind.notice
    ++ "</" ++ kind.tag ++ ">"

/-- Renders media. -/
def renderer (kind : MediaKind) : Renderer where
  typeTag := kind.tag
  defaults _ := pure kind.defaults
  render attrs _ scope :=
    let src := source scope.host.site attrs
    pure <|
      if src.isEmpty then ""
      else if Url.isBlocked kind.blockedHosts src then
        if scope.request.isPrivileged then
          "<span class=\"weft-" ++ kind.tag ++ "-error\">" ++ Html.escape kind.refusal ++ "</span>"
        else ""
      else finishMarkup .post (kind.markup src attrs) attrs

end MediaKind

/-! ## Embedded documents -/

/-- The markup for the document at an address. -/
def embedMarkup (site : Site) (url : String) (attrs : Attributes) : String :=
  match (site.embed? url).filter fun html => !isBlankText html with
  | some html => html
  | none =>
    let fallback := attrs.text "fallback"
    if fallback.isEmpty then Html.plainAnchor url else fallback

/-- Renders an embedded document, and after it what stands inside. -/
def embed : Renderer where
  typeTag := "embed"
  defaults _ := pure (defaultsWith ["url"])
  render attrs content scope := do
    let url := attrs.trimmed "url"
    if url.isEmpty then pure ""
    else pure (wrap (embedMarkup scope.host.site url attrs) attrs ++ (← scope.expandText content))

end DynamicContent.Element
