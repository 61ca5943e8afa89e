/-
# Setting up an engine

An engine is described by a *setup*: the host's parts as far as they can be chosen, and what is registered
besides the builtin functions, handlers, renderers and links. Which functions are allowed is settled
last, since that depends on which are registered.
-/

import DynamicContent.Element.Component
import DynamicContent.Element.Field
import DynamicContent.Element.FunctionCall
import DynamicContent.Element.Link
import DynamicContent.Element.Listing
import DynamicContent.Element.Media
import DynamicContent.Element.PageTemplate
import DynamicContent.Engine.Basic
import DynamicContent.Function.Builtin
import DynamicContent.Handler.Builtin

namespace DynamicContent

/-- The renderers of every engine. -/
def Element.builtin : List Renderer :=
  FieldSource.all.map FieldSource.renderer
    ++ [functionCall, link, MediaKind.audio.renderer, MediaKind.video.renderer, listing, pageTemplate,
      code, spoiler, embed]

/-- How an engine is to be set up. -/
structure Setup where
  urls : SiteUrls
  functions : Functions
  allowed : List String
  formats : FormatFilters
  zone : Calendar.Zone
  tag : String
  limits : Limits
  remembersQueries : Bool
  queryLifetime : Nat
  handlers : List (List String × Handler)
  renderers : List (String × Renderer)
  links : List (String × Link)
  hooks : Hooks

namespace Setup

/-- The name of shortcodes if no other is chosen. -/
def plainTag : String := "weft"

/-- For how many seconds the result of a query is remembered if nothing else is chosen. -/
def plainQueryLifetime : Nat := 43200

/-- A setup with the builtin parts alone, at some time. -/
def plain (now : Int) : Setup where
  urls := .localhost
  functions := Builtin.functions now
  allowed := []
  formats := []
  zone := .utc
  tag := plainTag
  limits := .plain
  remembersQueries := true
  queryLifetime := plainQueryLifetime
  handlers := Handler.builtin
  renderers := Element.builtin.map fun renderer => (renderer.typeTag, renderer)
  links := Element.builtinLinks
  hooks := .empty

/-- The setup with another name of shortcodes; an empty name changes nothing. -/
def withTag (setup : Setup) (tag : String) : Setup :=
  let tag := Text.asciiLower (Text.trim tag)
  if tag.isEmpty then setup else { setup with tag }

/-- The host of an engine for a site with a cache. -/
def host (setup : Setup) (site : Site) (cache : Cache.Cache Cache.Store) : Host where
  site := site
  urls := setup.urls
  functions := setup.functions
  allowlist := Allowlist.build setup.allowed setup.functions
  formats := setup.formats
  zone := setup.zone
  tag := setup.tag
  limits := setup.limits
  cache := cache
  queries := ⟨cache, setup.remembersQueries, setup.queryLifetime⟩

/-- The engine for a site with a cache. -/
def engine (setup : Setup) (site : Site) (cache : Cache.Cache Cache.Store) : Engine :=
  let bare : Engine :=
    { host := setup.host site cache
      handlers := []
      renderers := setup.renderers.foldl (fun registry entry =>
        registry.register entry.1 fun _ => entry.2) .empty
      links := setup.links.foldl (fun links entry => links.insert (Text.toKey entry.1) entry.2) []
      hooks := setup.hooks }
  setup.handlers.foldl (fun engine entry => engine.bind entry.1 entry.2) bare

end Setup

/-- The world before anything is rendered, with a store of cached entries. -/
def World.start (store : Cache.Store) : World :=
  ⟨.start 0, ⟨store, [], []⟩, 0, [], []⟩

end DynamicContent
