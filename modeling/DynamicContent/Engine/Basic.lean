/-
# The engine

An engine replaces directives by what their handlers answer and shortcodes by what their renderers
make of them. Both may have further text processed, which may contain directives and shortcodes
again, so this goes round in circles: what ends it is that each evaluation of a directive and each
shortcode is one level deeper than what it is part of, and that the number of levels is bounded.

The definitions follow that. `Nested` is what is available to the text at some level: how to evaluate
a directive in it, and how to render a shortcode. `Engine.nested n` is this for a text with `n` levels
left below it, in terms of `Engine.nested (n - 1)`; with none left both are refused. Everything
else is written for an arbitrary `Nested`.
-/

import DynamicContent.Directive.Substitution
import DynamicContent.Engine.Registry
import DynamicContent.Engine.World
import DynamicContent.Element.Normalize
import DynamicContent.Html.Link
import DynamicContent.Html.Strip
import DynamicContent.Shortcode.Piece

namespace DynamicContent

open Directive (Memo)

/-- What renders the pages of a site. -/
structure Engine where
  host : Host
  handlers : SortedMap Handler
  renderers : Registry Renderer
  links : SortedMap Link
  hooks : Hooks

/-- What is available to a text: how to evaluate a directive, and how to render a shortcode with some
attributes and content. -/
structure Nested where
  evaluate : Request → Directive → StateT Memo RenderM String
  render : Request → Attributes → String → RenderM String

namespace Engine

/-- Binds a handler to names, in any letter case. -/
def bind (names : List String) (handler : Handler) (engine : Engine) : Engine :=
  { engine with handlers := names.foldl (fun handlers name =>
      handlers.insert (Text.asciiLower (Text.trim name)) handler) engine.handlers }

/-- The handler of a name. -/
def handler? (engine : Engine) (name : String) : Option Handler :=
  engine.handlers.find? (Text.asciiLower name)

/-- Whether a name has a handler. -/
def knows (engine : Engine) (name : String) : Bool := (engine.handler? name).isSome

/-- The raw answer of a handler without what does not belong into such a value. -/
def clean : Cleaner → String → String
  | .text, raw => Html.plainText raw
  | .url, raw => Html.cleanUrl raw

/-- The passes over a text, which are at least one. -/
def passBound (engine : Engine) : Nat := max 1 engine.host.limits.maxPasses

section

variable (engine : Engine) (inner : Nested)

/-- A text with its directives replaced, given the values of directives so far. -/
def resolveWith (request : Request) (s : String) : StateT Memo RenderM String := do
  let pass := Directive.substitute engine.knows (inner.evaluate request)
  let (text, settled) ← Directive.settle pass engine.passBound s
  if !settled && Directive.startsKnown engine.knows text then
    RenderM.count "weft_resolver_pass_limit_total" []
  pure text

/-- A text with its directives replaced. -/
def resolveFor (request : Request) (s : String) : RenderM String :=
  (engine.resolveWith inner request s).run' []

/-- A text with its shortcodes replaced. -/
def shortcodesFor (request : Request) (s : String) : RenderM String :=
  Shortcode.expand engine.host.tag s pure (inner.render request)

/-- A text with its shortcodes and the directives between them replaced. The attributes and the content
of a shortcode are handed to its renderer as they are, who may read them for another request. -/
def expandFor (request : Request) (s : String) : RenderM String :=
  (Shortcode.expand engine.host.tag s (engine.resolveWith inner request)
    (fun attrs content => inner.render request attrs content) : StateT Memo RenderM String).run' []

/-- What a handler or renderer works with. -/
def scope (request : Request) : Scope where
  host := engine.host
  request := request
  resolveFor := engine.resolveFor inner
  expandFor := engine.expandFor inner
  shortcodesFor := engine.shortcodesFor inner
  dispatchFor := inner.render
  links := engine.links

/-- The answer to a directive with a name and a parameter, empty if the name has no handler. -/
def answer (request : Request) (name param : String) : RenderM String :=
  match engine.handler? name with
  | some handler => do
    let raw ← handler.answer (Text.trim param) (engine.scope inner request)
    pure (clean handler.cleaner raw)
  | none => pure ""

/-- The value of a directive: the answer to it once the directives in its parameter are replaced. -/
def evaluate (request : Request) (d : Directive) : StateT Memo RenderM String := do
  let param ← Directive.substitute engine.knows (inner.evaluate request) (String.ofList d.param)
  engine.answer inner request d.nameText param

/-- Announces what happens to an element. -/
def announce (point : HookPoint) (tag : String) (attrs : Attributes) (content : String) :
    RenderM Unit :=
  RenderM.announce (engine.hooks.announcement ⟨point, tag, attrs, content⟩)

/-- Attributes as a renderer gets them: explicit ones before defaults, and all text processed. -/
def normalize (request : Request) (attrs defaults : Attributes) (tag content : String) :
    RenderM Attributes := do
  engine.announce .beforeNormalize tag attrs content
  let merged := attrs.withDefaults defaults
  let normal ← (merged.processText (Element.processText (engine.resolveWith inner request)
    fun name param => engine.answer inner request name param)).run' []
  engine.announce .afterNormalize tag normal content
  pure normal

/-- The markup of a shortcode. -/
def render (request : Request) (attrs : Attributes) (content : String) : RenderM String := do
  let attrs := engine.hooks.filterAttributes attrs content
  match attrs.typeTag? with
  | none => pure ""
  | some tag =>
    match engine.renderers.find? tag with
    | none =>
      RenderM.count "weft_render_unknown_type_total" []
      engine.announce .missing tag attrs content
      pure ""
    | some renderer =>
      engine.announce .beforeOutput tag attrs content
      let defaults ← renderer.defaults (engine.scope inner request)
      let attrs ← engine.normalize inner request attrs defaults tag content
      let html ← renderer.render attrs content (engine.scope inner request)
      engine.announce .afterOutput tag attrs content
      RenderM.count "weft_render_total" [("type", tag)]
      pure (engine.hooks.filterOutput tag attrs content html)

end

/-- What there is instead of the value of a directive below the last level. -/
def refuseDirective : RenderM String := do
  RenderM.count "weft_resolver_depth_limit_total" []
  pure ""

/-- What is available to a text with so many levels left below it. -/
def nested (engine : Engine) : Nat → Nested
  | 0 =>
    { evaluate := fun _ _ => refuseDirective
      render := fun _ _ _ => pure "" }
  | n + 1 =>
    { evaluate := fun request d memo =>
        RenderM.deeper (do pure (← refuseDirective, memo))
          (engine.evaluate (engine.nested n) request d memo)
      render := fun request attrs content =>
        RenderM.deeper (pure "") (engine.render (engine.nested n) request attrs content) }

/-- What is available to a text that is not part of any other. -/
def outermost (engine : Engine) : Nested := engine.nested engine.host.limits.maxDepth

/-- Rendered markup, and the assets that the page needs for it. -/
structure Fragment where
  html : String
  assets : List String
deriving DecidableEq, Inhabited

/-- Runs a rendering from its beginning. -/
def fromStart (engine : Engine) (rendering : RenderM String) : RenderM Fragment := do
  modify fun world => { world with render := .start engine.host.limits.maxDepth }
  let html ← rendering
  pure ⟨html, (← get).render.assetList⟩

/-- Renders an element. -/
def renderFragment (engine : Engine) (request : Request) (attrs : Attributes) (content : String) :
    RenderM Fragment :=
  engine.fromStart (engine.outermost.render request attrs content)

/-- Replaces the shortcodes of a text and the directives between them. -/
def expandFragment (engine : Engine) (request : Request) (s : String) : RenderM Fragment :=
  engine.fromStart (engine.expandFor engine.outermost request s)

/-- Replaces the directives of a text. -/
def resolveFragment (engine : Engine) (request : Request) (s : String) : RenderM Fragment :=
  engine.fromStart (engine.resolveFor engine.outermost request s)

end Engine

end DynamicContent
