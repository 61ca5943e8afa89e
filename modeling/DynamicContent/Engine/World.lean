/-
# What a rendering reads and what it changes

A rendering reads the *host*: the content of the site and how it is set up. It changes the *world*: its
own nesting, the cache, and some records of what happened that no rendering reads. The cache is the
only thing through which one rendering can influence a later one.
-/

import DynamicContent.Engine.Hooks
import DynamicContent.Engine.State
import DynamicContent.Format.Basic
import DynamicContent.Function.Allowlist
import DynamicContent.Query.Memo
import DynamicContent.Site.Content
import DynamicContent.Site.Search
import DynamicContent.Site.Urls

namespace DynamicContent

/-- The bounds of a rendering, and for how many seconds an option or constant is remembered; zero if it
is not remembered at all. -/
structure Limits where
  maxPasses : Nat
  maxDepth : Nat
  lookupLifetime : Nat
deriving DecidableEq, Inhabited

/-- The bounds of an engine that is told nothing else. -/
def Limits.plain : Limits := ⟨10, 10, 300⟩

/-- What a rendering reads. -/
structure Host where
  site : Site
  urls : SiteUrls
  functions : Functions
  allowlist : Allowlist
  formats : FormatFilters
  zone : Calendar.Zone
  tag : String
  limits : Limits
  cache : Cache.Cache Cache.Store
  queries : QueryMemo Cache.Store

/-- What a rendering changes. The counters are those of the cache; the tallies belong to whoever
registered a handler that counts something. -/
structure World where
  render : RenderState
  cache : Cache.CacheState Cache.Store
  queryCalls : Nat
  announced : List Announcement
  tallies : SortedMap Nat

/-- An action of a rendering. -/
abbrev RenderM := StateM World

instance : MonadLift (Cache.CacheM Cache.Store) RenderM where
  monadLift action := fun world =>
    let (a, cache) := action world.cache
    (a, { world with cache })

namespace RenderM

/-- Increases a counter. -/
def count (name : String) (labels : List (String × String)) : RenderM Unit :=
  (Cache.Cache.count name labels : Cache.CacheM Cache.Store Unit)

/-- Announces an event. -/
def announce (announcement : Announcement) : RenderM Unit :=
  modify fun world => { world with announced := world.announced ++ [announcement] }

/-- Increases a tally and gives what it was before. -/
def tally (name : String) : RenderM Nat := fun world =>
  ((world.tallies.find? name).getD 0,
    { world with tallies := SortedMap.modify name 0 (· + 1) world.tallies })

/-- Notes that the page needs an asset; screens of the administration load their own. -/
def needAsset (request : Request) (handle : String) : RenderM Unit :=
  if request.adminScreen then pure ()
  else modify fun world => { world with render := world.render.addAsset handle }

/-- Runs an action one level deeper; where no level is left, another action stands in for it. -/
def deeper {α : Type} (refused granted : RenderM α) : RenderM α := do
  match (← get).render.enter? with
  | none => refused
  | some render =>
    modify fun world => { world with render }
    let a ← granted
    modify fun world => { world with render := world.render.leave }
    pure a

/-- Runs an action while a template is being rendered; within that template itself another action
stands in for it. -/
def insideTemplate {α : Type} (id : Nat) (refused granted : RenderM α) : RenderM α := do
  match (← get).render.enterTemplate? id with
  | none => refused
  | some render =>
    modify fun world => { world with render }
    let a ← granted
    modify fun world => { world with render := world.render.leaveTemplate }
    pure a

/-- Asks the site for posts. A question that its storage does not hear is not counted. -/
def askPosts (site : Site) (query : PostQuery) : RenderM (Except ContentError (List Post)) := do
  if !site.unreachable then
    modify fun world => { world with queryCalls := world.queryCalls + 1 }
  pure (site.queryPosts query)

end RenderM

/-- What a lookup found; a lookup that failed found nothing. -/
def Site.found {α : Type} : Except ContentError (Option α) → Option α
  | .ok a => a
  | .error _ => none

/-! ## What handlers and renderers are

A directive is answered by a *handler*, an element by a *renderer*, and an address asked for by name is
given by a *link*. All of them work in a *scope*: the host, the request, the ways to have text and
elements processed further, and the links by name. The scope does not say how deep it is nested or how
anything is processed further; those are the engine's affair.

A link is given all of this but the links themselves. It has another one asked for by having an element
processed, which is one level deeper. -/

/-- What a link works with. Text and elements may be processed for another request than the one at hand.
-/
structure LinkScope where
  host : Host
  request : Request
  resolveFor : Request → String → RenderM String
  expandFor : Request → String → RenderM String
  shortcodesFor : Request → String → RenderM String
  dispatchFor : Request → Attributes → String → RenderM String

/-- Gives the address that attributes ask for. -/
abbrev Link := Attributes → LinkScope → RenderM String

/-- A link that reads the address off attributes, host and request. -/
def Link.reading (address : Attributes → Host → Request → String) : Link :=
  fun attrs scope => pure (address attrs scope.host scope.request)

/-- What a handler or renderer works with. -/
structure Scope extends LinkScope where
  links : SortedMap Link

namespace LinkScope

/-- The text with its directives replaced. -/
def resolveText (scope : LinkScope) (text : String) : RenderM String :=
  scope.resolveFor scope.request text

/-- The text with its shortcodes and the directives between them replaced. -/
def expandText (scope : LinkScope) (text : String) : RenderM String :=
  scope.expandFor scope.request text

/-- The text with its shortcodes replaced. -/
def expandShortcodes (scope : LinkScope) (text : String) : RenderM String :=
  scope.shortcodesFor scope.request text

/-- The element with attributes and content. -/
def dispatch (scope : LinkScope) (attrs : Attributes) (content : String) : RenderM String :=
  scope.dispatchFor scope.request attrs content

end LinkScope

/-- The address of a link by name, empty if there is no such link. -/
def Scope.linkUrl (scope : Scope) (name : String) (attrs : Attributes) : RenderM String :=
  match scope.links.find? name with
  | some link => link attrs scope.toLinkScope
  | none => pure ""

/-- What becomes of the raw answer to a directive. -/
inductive Cleaner where
  | text
  | url
deriving DecidableEq, Inhabited

/-- Answers directives, given the parameter. -/
structure Handler where
  answer : String → Scope → RenderM String
  cleaner : Cleaner

/-- Renders elements. The defaults are asked for before the attributes are normalized. -/
structure Renderer where
  typeTag : String
  defaults : Scope → RenderM Attributes
  render : Attributes → String → Scope → RenderM String

instance : Inhabited Renderer := ⟨⟨"", fun _ => pure .empty, fun _ _ _ => pure ""⟩⟩

end DynamicContent
