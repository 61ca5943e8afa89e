/-
# Every way round passes through a level

The engine is compared with one that goes round in circles as often as it likes and is watched. Each
evaluation of a directive and each shortcode is a call; a call that is granted a level is *active*
until it returns. The watch is told how many calls are active, and what the state of the rendering
was when the call was made, and it looks at the world before and after each call, and again inside
of each that is granted. It may do anything, unless it finds the number of active calls as the
depth, within the bound, and the nesting as the call found it.

That the two are the same says that the watch never finds anything else, so levels count the active
calls at all times and every call gives back what it was granted. It also says that the recursion
ends by itself: what there is below its last step may do anything too, and is never come to.
-/

import DynamicContent.Proofs.Element.Uniform
import DynamicContent.Proofs.Engine.Congruence
import DynamicContent.Proofs.Engine.Setup

namespace DynamicContent

open Directive (Memo)

/-- What may look at the world, given the number of active calls and the state that the present call
was made in. -/
abbrev Watch := Nat → RenderState → RenderM Unit

/-- A watch that leaves the world alone where everything is as it should be: the depth is the number
of active calls and within the bound, and the nesting is as the call found it. -/
def Watch.IsFair (watch : Watch) : Prop :=
  ∀ active found w, w.render.depth = active → active ≤ w.render.maxDepth →
    w.render.depth = found.depth → w.render.templates = found.templates →
    w.render.maxDepth = found.maxDepth → watch active found w = ((), w)

/-- An action that is watched before and after. -/
def RenderM.watched {α : Type} (watch : Watch) (active : Nat) (action : RenderM α) : RenderM α := do
  let found := (← get).render
  watch active found
  let a ← action
  watch active found
  pure a

namespace Engine

/-- What is available to a text while some calls are active, with every call watched. The recursion
goes on below calls that are granted, for as many steps as there is fuel. -/
def watched (engine : Engine) (watch : Watch) (bottom : Nested) : Nat → Nat → Nested
  | 0, _ => bottom
  | fuel + 1, active =>
    { evaluate := fun request d memo => RenderM.watched watch active
        (RenderM.deeper (do pure (← refuseDirective, memo))
          (RenderM.watched watch (active + 1)
            (engine.evaluate (engine.watched watch bottom fuel (active + 1)) request d memo)))
      render := fun request attrs content => RenderM.watched watch active
        (RenderM.deeper (pure "")
          (RenderM.watched watch (active + 1)
            (engine.render (engine.watched watch bottom fuel (active + 1)) request attrs
              content))) }

end Engine

namespace Likeness

/-- The sense in which an engine is compared with itself: everything is the same. -/
def same (host : Host) (bound : Nat) : Likeness where
  host := host
  host' := host
  bound := bound
  requests request request' := request' = request
  worlds depth templates w w' := w' = w ∧ w.IsNested bound depth templates
  host_eq := rfl
  allows_eq _ := rfl
  call_eq _ _ := rfl
  contains_eq _ _ _ _ _ := rfl
  request_eq := by
    rintro request request' rfl
    exact ⟨request'.adminScreen, rfl⟩
  withCurrentPost := by
    rintro request _ id rfl
    rfl
  address_eq := by
    rintro request _ kind rfl
    rfl
  isNested := by
    rintro depth templates w _ ⟨rfl, hnested⟩
    exact ⟨hnested, hnested⟩
  nest := by
    rintro depth templates depth' templates' w _ ⟨rfl, hnested⟩ hle
    exact ⟨rfl, rfl, rfl, hnested.bound_eq, hle⟩
  needAsset := by
    rintro depth templates w _ request _ handle ⟨rfl, hnested⟩ rfl
    unfold RenderM.needAsset
    split
    · exact ⟨rfl, hnested⟩
    · exact ⟨rfl, hnested.depth_eq, hnested.templates_eq, hnested.bound_eq, hnested.le⟩
  record := by
    rintro depth templates w _ f ⟨rfl, hnested⟩
    exact ⟨rfl, hnested.depth_eq, hnested.templates_eq, hnested.bound_eq, hnested.le⟩
  store_eq := by
    rintro depth templates w _ ⟨rfl, -⟩
    rfl
  withStore := by
    rintro depth templates w _ store ⟨rfl, hnested⟩
    exact ⟨rfl, hnested.depth_eq, hnested.templates_eq, hnested.bound_eq, hnested.le⟩
  tallies_eq := by
    rintro depth templates w _ ⟨rfl, -⟩
    rfl
  withTallies := by
    rintro depth templates w _ tallies ⟨rfl, hnested⟩
    exact ⟨rfl, hnested.depth_eq, hnested.templates_eq, hnested.bound_eq, hnested.le⟩

end Likeness

/-- A link that has nothing to work with but its scope: where that does the same twice so does the link,
and it leaves the nesting as it found it. -/
def Link.IsScoped (host : Host) (link : Link) : Prop :=
  ∀ bound, (Likeness.same host bound).UniformLink link

/-- A link that reads an address off its scope has nothing else to work with, whatever it reads. -/
theorem Link.isScoped_reading (host : Host) (address : Attributes → Host → Request → String) :
    Link.IsScoped host (.reading address) := by
  refine fun bound => Element.uniformLink_reading ?_
  rintro attrs request _ rfl
  rfl

/-- An engine that has no handlers and renderers but builtin ones, under whatever names. Its links may be
any that have nothing to work with but their scope. -/
structure Engine.HasBuiltins (engine : Engine) : Prop where
  handler : ∀ name handler, engine.handler? name = some handler →
    ∃ entry ∈ Handler.builtin, entry.2 = handler
  renderer : ∀ tag renderer, engine.renderers.find? tag = some renderer → renderer ∈ Element.builtin
  link : ∀ name link, engine.links.find? name = some link → Link.IsScoped engine.host link

/-- An engine that is set up with builtin handlers and renderers, and links that read. -/
theorem Setup.hasBuiltins {setup : Setup} {site : Site} {cache : Cache.Cache Cache.Store}
    (handlers : ∀ entry ∈ setup.handlers, entry ∈ Handler.builtin)
    (renderers : ∀ entry ∈ setup.renderers, entry.2 ∈ Element.builtin)
    (links : ∀ entry ∈ setup.links, ∃ address, entry.2 = .reading address) :
    (setup.engine site cache).HasBuiltins where
  handler := forall_handler? fun entry hentry => ⟨entry, handlers entry hentry, rfl⟩
  renderer := forall_renderer renderers
  link := forall_link fun entry hentry => by
    obtain ⟨address, heq⟩ := links entry hentry
    rw [heq]
    exact Link.isScoped_reading _ address

/-- The links of every engine read. -/
theorem Element.exists_address_of_mem_builtinLinks :
    ∀ entry ∈ builtinLinks, ∃ address, entry.2 = .reading address := by
  intro _ hentry
  obtain ⟨entry, -, rfl⟩ := List.mem_map.mp hentry
  exact ⟨entry.2, rfl⟩

namespace Likeness

variable {host : Host} {bound depth : Nat} {watch : Watch}

/-- A fair watch does not change an action that is the same as another at the level that it is told.
-/
theorem Alike.watched {α : Type} (hfair : watch.IsFair) {a b : RenderM α}
    (h : (same host bound).Alike depth a b) :
    (same host bound).Alike depth a (RenderM.watched watch depth b) := by
  rintro templates _ w ⟨rfl, hnested⟩
  obtain ⟨hresult, hworld, hafter⟩ := h templates w w ⟨rfl, hnested⟩
  have hquiet (v : World) (hv : v.IsNested bound depth templates) :
      watch depth w.render v = ((), v) :=
    hfair depth w.render v hv.depth_eq (by rw [hv.bound_eq]; exact hv.le)
      (hv.depth_eq.trans hnested.depth_eq.symm) (hv.templates_eq.trans hnested.templates_eq.symm)
      (hv.bound_eq.trans hnested.bound_eq.symm)
  have hrun : RenderM.watched watch depth b w = b w := by
    calc RenderM.watched watch depth b w
        = (let before := watch depth w.render w
           let result := b before.2
           let behind := watch depth w.render result.2
           (result.1, behind.2)) := rfl
      _ = ((b w).1, (watch depth w.render (b w).2).2) := by rw [hquiet w hnested]
      _ = ((b w).1, (b w).2) := by rw [hquiet _ (hworld ▸ hafter)]
      _ = b w := rfl
  rw [hrun]
  exact ⟨hresult, hworld, hafter⟩

/-- What is available in an engine with the levels that are left is the same as with the recursion
free and watched. -/
theorem nesteds_watched {engine : Engine} (hengine : (same host bound).Engines engine engine)
    (hfair : watch.IsFair) (bottom : Nested) (fuel levels depth : Nat)
    (hlevels : bound ≤ depth + levels) (hfuel : bound < depth + fuel) (hle : depth ≤ bound) :
    (same host bound).Nesteds depth (engine.nested levels)
      (engine.watched watch bottom fuel depth) := by
  -- Fuel outlasts the levels by one step: the step that is still made where no level is left is
  -- refused, and so the bottom is not reached.
  induction fuel generalizing levels depth with
  | zero => omega
  | succ fuel ih =>
      cases levels with
      | zero =>
          have hfull : bound ≤ depth := by omega
          constructor
          · intro request request' d _ memo
            exact ((Engines.alike_refuseDirective_memo memo).deeper_of_full hfull).watched hfair
          · intro request request' attrs content _
            exact ((Alike.pure "").deeper_of_full hfull).watched hfair
      | succ levels =>
          have hinner (hlevel : depth < bound) : (same host bound).Nesteds (depth + 1)
              (engine.nested levels) (engine.watched watch bottom fuel (depth + 1)) :=
            ih levels (depth + 1) (by omega) (by omega) hlevel
          constructor
          · intro request request' d hrequest memo
            refine ((Engines.alike_refuseDirective_memo memo).deeper fun hlevel => ?_).watched hfair
            exact (hengine.evaluate (hinner hlevel) hrequest d memo).watched hfair
          · intro request request' attrs content hrequest
            refine ((Alike.pure "").deeper fun hlevel => ?_).watched hfair
            exact (hengine.render (hinner hlevel) hrequest attrs content).watched hfair

/-- An engine with builtin handlers and renderers is like itself. -/
theorem engines_same {engine : Engine} (h : engine.HasBuiltins) (bound : Nat) :
    (same engine.host bound).Engines engine engine where
  host := rfl
  host' := rfl
  handlers := rfl
  renderers := rfl
  links := rfl
  hooks := rfl
  handler name handler hhandler := by
    obtain ⟨entry, hentry, rfl⟩ := h.handler name handler hhandler
    exact Handler.builtin_uniform entry hentry _
  renderer tag renderer hrenderer :=
    Element.builtin_uniform renderer (h.renderer tag renderer hrenderer) _
  link name link hlink := h.link name link hlink bound

end Likeness

namespace Engine

/-- A rendering is the same as a watched one from its beginning, and it ends with no level taken and
no template being rendered. -/
def RunsAs (engine : Engine) (rendering watched : RenderM String) : Prop :=
  ∀ w, engine.fromStart rendering w = engine.fromStart watched w ∧
    (engine.fromStart rendering w).2.IsNested engine.host.limits.maxDepth 0 []

/-- With builtin handlers and renderers, whatever the site, the limits and the text: rendering,
expanding and resolving need no more steps of recursion than there are levels, and at each call the
levels taken are the active calls, within the bound, and given back with the templates. -/
theorem runs_as_watched (engine : Engine) (hbuiltin : engine.HasBuiltins) (watch : Watch)
    (hfair : watch.IsFair) (bottom : Nested) (fuel : Nat)
    (hfuel : engine.host.limits.maxDepth < fuel) (request : Request) :
    (∀ s, engine.RunsAs (engine.expandFor engine.outermost request s)
      (engine.expandFor (engine.watched watch bottom fuel 0) request s)) ∧
    (∀ s, engine.RunsAs (engine.resolveFor engine.outermost request s)
      (engine.resolveFor (engine.watched watch bottom fuel 0) request s)) ∧
    ∀ attrs content, engine.RunsAs (engine.outermost.render request attrs content)
      ((engine.watched watch bottom fuel 0).render request attrs content) := by
  let L := Likeness.same engine.host engine.host.limits.maxDepth
  have hengine : L.Engines engine engine := Likeness.engines_same hbuiltin _
  have houtermost : L.Nesteds 0 engine.outermost (engine.watched watch bottom fuel 0) :=
    Likeness.nesteds_watched hengine hfair bottom fuel _ 0 (by omega) (by omega) (Nat.zero_le _)
  have hrequest : L.requests request request := rfl
  have hruns {rendering watched : RenderM String} (h : L.Alike 0 rendering watched) :
      engine.RunsAs rendering watched := by
    intro w
    obtain ⟨hhtml, hworld, hnested⟩ := h.fromStart engine engine rfl
      (⟨rfl, rfl, rfl, rfl, Nat.zero_le _⟩ : L.worlds 0 [] _ { w with
        render := .start engine.host.limits.maxDepth })
    refine ⟨?_, hnested⟩
    have hassets : (engine.fromStart rendering w).1.assets =
        (engine.fromStart watched w).1.assets :=
      congrArg (fun world : World => world.render.assetList) hworld.symm
    exact Prod.ext (Fragment.ext hhtml hassets) hworld.symm
  exact ⟨fun s => hruns (hengine.expandFor houtermost hrequest s),
    fun s => hruns (hengine.resolveFor houtermost hrequest s),
    fun attrs content => hruns (houtermost.render _ _ attrs content hrequest)⟩

/-- A watch that counts what is not as it should be. -/
def tallyAstray : Watch := fun active found => do
  let now := (← get).render
  if now.depth = active ∧ active ≤ now.maxDepth ∧ now.depth = found.depth ∧
      now.templates = found.templates ∧ now.maxDepth = found.maxDepth then pure ()
  else discard (RenderM.tally "astray")

/-- A directive in a shortcode in a directive, with a watch that counts what goes astray and nothing
sensible below the last level. -/
theorem runs_as_watched_nested :
    let engine := (Setup.plain 0).engine .empty ⟨Cache.Store.backend 0, ""⟩
    let bottom : Nested := ⟨fun _ _ => pure "astray", fun _ _ _ => pure "astray"⟩
    engine.RunsAs
      (engine.expandFor engine.outermost .anonymous "\x7bsc:weft type=qr text=\x7bget:a\x7d\x7d")
      (engine.expandFor (engine.watched tallyAstray bottom 11 0) .anonymous
        "\x7bsc:weft type=qr text=\x7bget:a\x7d\x7d") := by
  intro engine bottom
  have hbuiltin : engine.HasBuiltins := Setup.hasBuiltins (fun _ h => h) (Setup.plain_renderers 0)
    Element.exists_address_of_mem_builtinLinks
  have hfair : tallyAstray.IsFair := by
    intro active found w hdepth hle hfound htemplates hbound
    change (if _ then _ else _ : RenderM Unit) w = _
    rw [if_pos ⟨hdepth, hle, hfound, htemplates, hbound⟩]
    rfl
  have hfuel : engine.host.limits.maxDepth < 11 := by
    rw [Setup.engine_host]
    decide
  exact (runs_as_watched engine hbuiltin tallyAstray hfair bottom 11 hfuel .anonymous).1 _

end Engine

end DynamicContent
