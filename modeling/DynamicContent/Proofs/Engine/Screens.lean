/-
# Screens of the administration

Screens of the administration load their own assets, so for them none are queued. That is all there
is to it: for requests that differ in the kind of screen alone, renderings give the same markup and
leave the same entries in the cache, however elements are nested.

What may tell the kinds of screen apart is what an operator registers: a handler, a renderer, a link
or a kind of address is given the request. Those of the engine do not ask, and of the others it is asked
that they do not either. Registered handlers may also keep tallies, which are therefore the same at the
beginning, as the entries are.
-/

import DynamicContent.Proofs.Engine.Congruence
import DynamicContent.Proofs.Engine.Setup
import DynamicContent.Proofs.Engine.Watched
import DynamicContent.Proofs.Text.Utf8

namespace DynamicContent

/-- The request on a screen of the administration, or not on one. -/
def Request.onScreen (adminScreen : Bool) (request : Request) : Request :=
  { request with adminScreen }

/-- The registered kinds of addresses are the same on every screen. -/
def SiteUrls.IgnoresScreen (urls : SiteUrls) : Prop :=
  ∀ kind address, urls.kinds.find? kind = some address →
    ∀ request adminScreen, address (Request.onScreen adminScreen request) = address request

/-- The addresses of kinds do not depend on the screen if those of registered kinds do not. -/
theorem SiteUrls.ofKind?_onScreen {urls : SiteUrls} (h : urls.IgnoresScreen) (kind : String)
    (request : Request) (adminScreen : Bool) :
    urls.ofKind? kind (request.onScreen adminScreen) = urls.ofKind? kind request := by
  have hregistered (other : String) :
      ((urls.kinds.find? other).bind fun address => address (request.onScreen adminScreen)) =
        (urls.kinds.find? other).bind fun address => address request := by
    cases haddress : urls.kinds.find? other with
    | none => rfl
    | some address => exact h other address haddress request adminScreen
  unfold ofKind?
  split
  case h_11 => exact hregistered _
  all_goals rfl

namespace Likeness

/-- The sense in which a screen of the site is compared with one of the administration: the worlds
differ in the assets, which are in order on the one side, and of which there are none on the other. -/
def screens (engine : Engine) (h : engine.host.urls.IgnoresScreen) : Likeness where
  host := engine.host
  host' := engine.host
  bound := engine.host.limits.maxDepth
  requests request request' :=
    request.adminScreen = false ∧ request' = request.onScreen true
  worlds depth templates w w' := w.IsNested engine.host.limits.maxDepth depth templates ∧
    w'.IsNested engine.host.limits.maxDepth depth templates ∧
    SortedMap.Sorted w.render.assets ∧ w'.render.assets = [] ∧
    w'.cache.store = w.cache.store ∧ w'.tallies = w.tallies
  host_eq := rfl
  allows_eq _ := rfl
  call_eq _ _ := rfl
  contains_eq _ _ _ _ _ := rfl
  request_eq := by
    rintro request _ ⟨-, rfl⟩
    exact ⟨true, rfl⟩
  withCurrentPost := by
    rintro request _ id ⟨hscreen, rfl⟩
    exact ⟨hscreen, rfl⟩
  address_eq := by
    rintro request _ kind ⟨-, rfl⟩
    exact SiteUrls.ofKind?_onScreen h kind request true
  isNested := by
    rintro depth templates w w' ⟨hnested, hnested', -⟩
    exact ⟨hnested, hnested'⟩
  nest := by
    rintro depth templates depth' templates' w w' ⟨hnested, hnested', hread⟩ hle
    exact ⟨⟨rfl, rfl, hnested.bound_eq, hle⟩, ⟨rfl, rfl, hnested'.bound_eq, hle⟩, hread⟩
  needAsset := by
    rintro depth templates w w' request _ handle ⟨hnested, hnested', hsorted, hread⟩ ⟨hscreen, rfl⟩
    have hqueued : (RenderM.needAsset request handle w).2 =
        { w with render := w.render.addAsset handle } := by
      rw [RenderM.needAsset, hscreen]
      rfl
    have hignored : (RenderM.needAsset (request.onScreen true) handle w').2 = w' := rfl
    rw [hqueued, hignored]
    exact ⟨⟨hnested.depth_eq, hnested.templates_eq, hnested.bound_eq, hnested.le⟩, hnested',
      hsorted.insert handle (), hread⟩
  record := by
    rintro depth templates w w' f ⟨hnested, hnested', hread⟩
    exact ⟨⟨hnested.depth_eq, hnested.templates_eq, hnested.bound_eq, hnested.le⟩,
      ⟨hnested'.depth_eq, hnested'.templates_eq, hnested'.bound_eq, hnested'.le⟩, hread⟩
  store_eq := by
    rintro depth templates w w' ⟨-, -, -, -, hstore, -⟩
    exact hstore
  withStore := by
    rintro depth templates w w' store ⟨hnested, hnested', hsorted, hempty, -, htallies⟩
    exact ⟨⟨hnested.depth_eq, hnested.templates_eq, hnested.bound_eq, hnested.le⟩,
      ⟨hnested'.depth_eq, hnested'.templates_eq, hnested'.bound_eq, hnested'.le⟩, hsorted, hempty,
      rfl, htallies⟩
  tallies_eq := by
    rintro depth templates w w' ⟨-, -, -, -, -, htallies⟩
    exact htallies
  withTallies := by
    rintro depth templates w w' tallies ⟨hnested, hnested', hsorted, hempty, hstore, -⟩
    exact ⟨⟨hnested.depth_eq, hnested.templates_eq, hnested.bound_eq, hnested.le⟩,
      ⟨hnested'.depth_eq, hnested'.templates_eq, hnested'.bound_eq, hnested'.le⟩, hsorted, hempty,
      hstore, rfl⟩

end Likeness

/-- An engine whose registered kinds of addresses are the same on every screen, and whose handlers,
renderers and links are builtin or do not tell the screens apart. -/
structure Engine.IgnoresScreen (engine : Engine) : Prop where
  address : engine.host.urls.IgnoresScreen
  registrations : (Likeness.screens engine address).Registrations engine

/-- An engine that ignores the screen is like itself in this sense. -/
theorem Likeness.engines_screens {engine : Engine} (h : engine.IgnoresScreen) :
    (Likeness.screens engine h.address).Engines engine engine where
  host := rfl
  host' := rfl
  handlers := rfl
  renderers := rfl
  links := rfl
  hooks := rfl
  handler _ _ := h.registrations.uniformHandler
  renderer _ _ := h.registrations.uniformRenderer
  link _ _ := h.registrations.uniformLink

namespace Engine

/-- The kind of screen matters to the assets only: markup and entries are the same, on screens of the
administration there are no assets, and on others each is there once, in the order of the bytes. -/
structure SameButAssets (site admin : Fragment × World) : Prop where
  html : admin.1.html = site.1.html
  store : admin.2.cache.store = site.2.cache.store
  tallies : admin.2.tallies = site.2.tallies
  adminAssets : admin.1.assets = []
  assets : site.1.assets.Pairwise fun a b => Text.utf8Bytes a.toList < Text.utf8Bytes b.toList

/-- Whatever is rendered, expanded or resolved, for requests that differ in the kind of screen alone
and from the same entries and tallies, nothing but the assets depends on the screen. -/
theorem sameButAssets_of_ignoresScreen (engine : Engine) (h : engine.IgnoresScreen)
    (request : Request) (w w' : World) (hstore : w'.cache.store = w.cache.store)
    (htallies : w'.tallies = w.tallies) :
    (∀ attrs content, SameButAssets
      (engine.renderFragment (request.onScreen false) attrs content w)
      (engine.renderFragment (request.onScreen true) attrs content w')) ∧
    (∀ s, SameButAssets (engine.expandFragment (request.onScreen false) s w)
      (engine.expandFragment (request.onScreen true) s w')) ∧
    ∀ s, SameButAssets (engine.resolveFragment (request.onScreen false) s w)
      (engine.resolveFragment (request.onScreen true) s w') := by
  let L := Likeness.screens engine h.address
  have hengines : L.Engines engine engine := Likeness.engines_screens h
  have hrequest : L.requests (request.onScreen false) (request.onScreen true) := ⟨rfl, rfl⟩
  have houtermost : L.Nesteds 0 engine.outermost engine.outermost := hengines.nested _ 0
  have hstart {rendering rendering' : RenderM String} (halike : L.Alike 0 rendering rendering') :
      SameButAssets (engine.fromStart rendering w) (engine.fromStart rendering' w') := by
    -- Both renderings begin with no assets at all.
    have hworlds : L.worlds 0 [] { w with render := .start engine.host.limits.maxDepth }
        { w' with render := .start engine.host.limits.maxDepth } :=
      ⟨⟨rfl, rfl, rfl, Nat.zero_le _⟩, ⟨rfl, rfl, rfl, Nat.zero_le _⟩, List.Pairwise.nil, rfl,
        hstore, htallies⟩
    obtain ⟨hhtml, -, -, hsorted, hempty, hstore', htallies'⟩ :=
      halike.fromStart engine engine rfl hworlds
    refine ⟨hhtml.symm, hstore', htallies', congrArg SortedMap.keys hempty, ?_⟩
    have hkeys : (engine.fromStart rendering w).1.assets.Pairwise (· < ·) :=
      List.pairwise_map.mpr hsorted
    exact hkeys.imp fun hlt => Text.utf8Bytes_lt hlt
  exact ⟨fun attrs content => hstart (houtermost.render _ _ attrs content hrequest),
    fun s => hstart (hengines.expandFor houtermost hrequest s),
    fun s => hstart (hengines.resolveFor houtermost hrequest s)⟩

/-- An engine with builtin handlers and renderers ignores the screen if its links and its registered kinds
of addresses do. -/
theorem HasBuiltins.ignoresScreen {engine : Engine} (h : engine.HasBuiltins)
    (address : engine.host.urls.IgnoresScreen)
    (link : ∀ name link, engine.links.find? name = some link →
      (∃ entry ∈ Element.builtinLinks, entry.2 = link) ∨
        (Likeness.screens engine address).UniformLink link) : engine.IgnoresScreen where
  address := address
  registrations :=
    { handler := fun name handler hfound => .inl (h.handler name handler hfound)
      renderer := fun tag renderer hfound => .inl (h.renderer tag renderer hfound)
      link := link }

/-- A code that a directive stands for, and another one in a spoiler. -/
theorem sameButAssets_of_ignoresScreen_spoiler :
    let engine := (Setup.plain 0).engine .empty ⟨Cache.Store.backend 0, ""⟩
    let w := World.start (.memory (.empty 10))
    let text := "\x7bsc:weft type=qr text=a\x7d[weft type=spoiler]b[weft type=qr text=c][/weft]"
    SameButAssets (engine.expandFragment (Request.anonymous.onScreen false) text w)
      (engine.expandFragment (Request.anonymous.onScreen true) text w) := by
  intro engine w text
  have address : engine.host.urls.IgnoresScreen := by
    intro kind address haddress
    rw [Setup.engine_host] at haddress
    contradiction
  have hbuiltins : engine.HasBuiltins := Setup.hasBuiltins (fun _ h => h) (Setup.plain_renderers 0)
    Element.exists_address_of_mem_builtinLinks
  have hengine : engine.IgnoresScreen := hbuiltins.ignoresScreen address
    (Setup.forall_link fun entry hentry => .inl ⟨entry, hentry, rfl⟩)
  exact (sameButAssets_of_ignoresScreen engine hengine .anonymous w w rfl rfl).2.1 text

/-! ## Registered addresses that depend on the screen -/

/-- The address of where a request is from. -/
def wayBack (request : Request) : String := if request.adminScreen then "/admin" else "/site"

/-- An engine with a link and a kind of address for that. -/
def withWayBack : Engine :=
  ({ Setup.plain 0 with
    links := Element.builtinLinks ++ [("back", .reading fun _ _ => wayBack)]
    urls := (Setup.plain 0).urls.registerKind "back" fun request => some (wayBack request) } :
      Setup).engine
    .empty ⟨Cache.Store.backend 0, ""⟩

/-- Its handlers and renderers are builtin, and both have the markup depend on the screen. -/
theorem not_sameButAssets_withWayBack :
    let w := World.start (.memory (.empty 10))
    let text := "\x7burl:back\x7d"
    let attrs := Attributes.ofTexts [("type", "link"), ("name", "back")]
    withWayBack.HasBuiltins ∧
      ¬ SameButAssets (withWayBack.expandFragment (Request.anonymous.onScreen false) text w)
        (withWayBack.expandFragment (Request.anonymous.onScreen true) text w) ∧
      ¬ SameButAssets (withWayBack.renderFragment (Request.anonymous.onScreen false) attrs "" w)
        (withWayBack.renderFragment (Request.anonymous.onScreen true) attrs "" w) := by
  intro w text attrs
  have hbuiltins : withWayBack.HasBuiltins := by
    refine Setup.hasBuiltins (fun _ h => h) (Setup.plain_renderers 0) fun entry hentry => ?_
    rcases List.mem_append.mp hentry with hbuiltin | hback
    · exact Element.exists_address_of_mem_builtinLinks entry hbuiltin
    · obtain rfl := List.mem_singleton.mp hback
      exact ⟨fun _ _ => wayBack, rfl⟩
  have hexpanded : (withWayBack.expandFragment (Request.anonymous.onScreen true) text w).1.html ≠
      (withWayBack.expandFragment (Request.anonymous.onScreen false) text w).1.html := by
    decide +kernel
  have hrendered : (withWayBack.renderFragment (Request.anonymous.onScreen true) attrs "" w).1.html ≠
      (withWayBack.renderFragment (Request.anonymous.onScreen false) attrs "" w).1.html := by
    decide +kernel
  exact ⟨hbuiltins, fun h => hexpanded h.html, fun h => hrendered h.html⟩

end Engine

end DynamicContent
