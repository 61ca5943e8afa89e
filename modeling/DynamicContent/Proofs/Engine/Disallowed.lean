/-
# Functions that may not be called have no effect

Two engines that differ in functions that are not listed render the same, from the same entries in
the cache. Those who manage the site are told which functions there are, so for them the engines
must have the same ones, with whatever implementations; for all others they may differ in that too.

Handlers, renderers and links besides the builtin ones are registered by whoever sets the engine up.
They are given the functions with their scope, and one that calls them past the list has the markup depend
on them. That they are uniform in the sense of the two engines says that they do not: where text and
elements are processed alike, they do the same.
-/

import DynamicContent.Proofs.Engine.Congruence
import DynamicContent.Proofs.Engine.Setup
import DynamicContent.Proofs.Function.Allowlist

namespace DynamicContent

/-- The sense in which engines are compared that differ in functions that are not listed: requests
are the same, and so is what is read of worlds. -/
def Likeness.unlisted (setup : Setup) (functions : Functions) (site : Site)
    (cache : Cache.Cache Cache.Store)
    (agree : ∀ name, Allowlist.Lists setup.allowed name →
      functions.call? name = setup.functions.call? name) : Likeness where
  host := setup.host site cache
  host' := ({ setup with functions } : Setup).host site cache
  bound := setup.limits.maxDepth
  requests request request' := request' = request ∧ (request.isPrivileged = true →
    ∀ name, functions.contains name = setup.functions.contains name)
  worlds depth templates w w' := w.IsNested setup.limits.maxDepth depth templates ∧
    w'.render = w.render ∧ w'.cache.store = w.cache.store ∧ w'.tallies = w.tallies
  host_eq := rfl
  allows_eq := Allowlist.allows_build_eq agree
  call_eq name hallowed := agree name (Allowlist.allows_build_iff.mp hallowed).1
  contains_eq _ _ h := h.2
  request_eq := by
    rintro request request' ⟨rfl, -⟩
    exact ⟨request'.adminScreen, rfl⟩
  withCurrentPost := by
    rintro request _ id ⟨rfl, hsame⟩
    exact ⟨rfl, hsame⟩
  address_eq := by
    rintro request _ kind ⟨rfl, -⟩
    rfl
  isNested := by
    rintro depth templates w w' ⟨hnested, hrender, -, -⟩
    refine ⟨hnested, ?_, ?_, ?_, hnested.le⟩
    · rw [hrender, hnested.depth_eq]
    · rw [hrender, hnested.templates_eq]
    · rw [hrender, hnested.bound_eq]
  nest := by
    rintro depth templates depth' templates' w w' ⟨hnested, hrender, hread⟩ hle
    refine ⟨⟨rfl, rfl, hnested.bound_eq, hle⟩, ?_, hread⟩
    rw [World.nest, World.nest, hrender]
  needAsset := by
    rintro depth templates w w' request _ handle ⟨hnested, hrender, hread⟩ ⟨rfl, -⟩
    unfold RenderM.needAsset
    split
    · exact ⟨hnested, hrender, hread⟩
    · refine ⟨⟨hnested.depth_eq, hnested.templates_eq, hnested.bound_eq, hnested.le⟩, ?_, hread⟩
      change w'.render.addAsset handle = w.render.addAsset handle
      rw [hrender]
  record := by
    rintro depth templates w w' f ⟨hnested, hread⟩
    exact ⟨⟨hnested.depth_eq, hnested.templates_eq, hnested.bound_eq, hnested.le⟩, hread⟩
  store_eq := by
    rintro depth templates w w' ⟨-, -, hstore, -⟩
    exact hstore
  withStore := by
    rintro depth templates w w' store ⟨hnested, hrender, -, htallies⟩
    exact ⟨⟨hnested.depth_eq, hnested.templates_eq, hnested.bound_eq, hnested.le⟩, hrender, rfl,
      htallies⟩
  tallies_eq := by
    rintro depth templates w w' ⟨-, -, -, htallies⟩
    exact htallies
  withTallies := by
    rintro depth templates w w' tallies ⟨hnested, hrender, hstore, -⟩
    exact ⟨⟨hnested.depth_eq, hnested.templates_eq, hnested.bound_eq, hnested.le⟩, hrender, hstore,
      rfl⟩

namespace Setup

variable {setup : Setup} {functions : Functions} {site : Site} {cache : Cache.Cache Cache.Store}

/-- Engines that differ in functions that are not listed are alike. -/
theorem engines_unlisted
    (agree : ∀ name, Allowlist.Lists setup.allowed name →
      functions.call? name = setup.functions.call? name)
    (registrations : (Likeness.unlisted setup functions site cache agree).Registrations
      (setup.engine site cache)) :
    (Likeness.unlisted setup functions site cache agree).Engines (setup.engine site cache)
      (({ setup with functions } : Setup).engine site cache) where
  host := engine_host
  host' := engine_host
  handlers := handlers_eq functions
  renderers := by rw [engine_renderers, engine_renderers]
  links := by rw [engine_links, engine_links]
  hooks := by rw [engine_hooks, engine_hooks]
  handler _ _ := registrations.uniformHandler
  renderer _ _ := registrations.uniformRenderer
  link _ _ := registrations.uniformLink

/-- What is compared of two renderings: the markup and the assets, and what later renderings read.
-/
def SameOutcome (run run' : Engine.Fragment × World) : Prop :=
  run'.1 = run.1 ∧ run'.2.cache.store = run.2.cache.store ∧ run'.2.tallies = run.2.tallies

/-- Whatever is rendered, expanded or resolved, functions that are neither listed for every site nor
by the operator have no effect, by what they do or, unless the viewer manages the site, by being
there. -/
theorem sameOutcome_of_unlisted (setup : Setup) (functions : Functions) (site : Site)
    (cache : Cache.Cache Cache.Store)
    (agree : ∀ name, Allowlist.Lists setup.allowed name →
      functions.call? name = setup.functions.call? name)
    (registrations : (Likeness.unlisted setup functions site cache agree).Registrations
      (setup.engine site cache))
    (request : Request)
    (registered : request.isPrivileged = true →
      ∀ name, functions.contains name = setup.functions.contains name)
    (w w' : World) (hstore : w'.cache.store = w.cache.store) (htallies : w'.tallies = w.tallies) :
    let engine := setup.engine site cache
    let engine' := ({ setup with functions } : Setup).engine site cache
    (∀ attrs content, SameOutcome (engine.renderFragment request attrs content w)
      (engine'.renderFragment request attrs content w')) ∧
    (∀ s, SameOutcome (engine.expandFragment request s w) (engine'.expandFragment request s w')) ∧
    ∀ s, SameOutcome (engine.resolveFragment request s w)
      (engine'.resolveFragment request s w') := by
  intro engine engine'
  let L := Likeness.unlisted setup functions site cache agree
  have hengines : L.Engines engine engine' := engines_unlisted agree registrations
  have hrequest : L.requests request request := ⟨rfl, registered⟩
  have hlimits : engine'.host.limits = engine.host.limits := hengines.limits_eq
  have houtermost : L.Nesteds 0 engine.outermost engine'.outermost := by
    rw [Engine.outermost, Engine.outermost, hlimits]
    exact hengines.nested _ 0
  have hbound : engine.host.limits = setup.limits := by rw [hengines.host]; rfl
  have hstart {rendering rendering' : RenderM String} (h : L.Alike 0 rendering rendering') :
      SameOutcome (engine.fromStart rendering w) (engine'.fromStart rendering' w') := by
    -- Whatever the worlds were before, both renderings begin with the same state.
    have hworlds : L.worlds 0 [] { w with render := .start engine.host.limits.maxDepth }
        { w' with render := .start engine.host.limits.maxDepth } :=
      ⟨⟨rfl, rfl, by rw [hbound]; rfl, Nat.zero_le _⟩, rfl, hstore, htallies⟩
    obtain ⟨hhtml, -, hrender, hstore', htallies'⟩ := h.fromStart engine engine' hlimits hworlds
    refine ⟨?_, hstore', htallies'⟩
    have hassets : (engine'.fromStart rendering' w').1.assets =
        (engine.fromStart rendering w).1.assets := congrArg RenderState.assetList hrender
    exact Engine.Fragment.ext hhtml.symm hassets
  exact ⟨fun attrs content => hstart (houtermost.render _ _ attrs content hrequest),
    fun s => hstart (hengines.expandFor houtermost hrequest s),
    fun s => hstart (hengines.resolveFor houtermost hrequest s)⟩

/-- A call by a name that is not listed does not depend on a function registered by another name. -/
theorem call?_register_of_not_lists {entries : List String} {functions : Functions} {name : String}
    (hname : ¬ Allowlist.Lists entries name) (function : HostFunction) {other : String}
    (hother : Allowlist.Lists entries other) :
    (functions.register name function).call? other = functions.call? other := by
  have hne : functionName other ≠ functionName name := fun heq =>
    hname (by rw [Allowlist.Lists, ← heq]; exact hother)
  have hfind : (functions.register name function).byName.find? (functionName other) =
      functions.byName.find? (functionName other) := SortedMap.find?_insert_of_ne hne _ _
  funext args
  rw [Functions.call?, Functions.call?, hfind]

/-- A function that is not listed does not matter to those who do not manage the site, also where a
handler is registered that counts how often it was asked. -/
theorem sameOutcome_of_unlisted_secret :
    let counting : Handler :=
      ⟨fun _ _ => do pure (Number.natString (← RenderM.tally "count")), .text⟩
    let setup := { Setup.plain 0 with handlers := Handler.builtin ++ [(["count"], counting)] }
    let functions := setup.functions.register "secret" fun _ => .ok "revealed"
    let cache : Cache.Cache Cache.Store := ⟨Cache.Store.backend 0, ""⟩
    let w := World.start (.memory (.empty 10))
    SameOutcome
      ((setup.engine .empty cache).resolveFragment .anonymous "\x7bfn:secret\x7d\x7bcount:\x7d" w)
      ((({ setup with functions } : Setup).engine .empty cache).resolveFragment .anonymous
        "\x7bfn:secret\x7d\x7bcount:\x7d" w) := by
  intro counting setup functions cache w
  have agree (name : String) (h : Allowlist.Lists setup.allowed name) :
      functions.call? name = setup.functions.call? name :=
    call?_register_of_not_lists (by decide +kernel) _ h
  have registrations : (Likeness.unlisted setup functions .empty cache agree).Registrations
      (setup.engine .empty cache) := by
    refine ⟨forall_handler? fun entry hentry => ?_,
      forall_renderer fun entry hentry => .inl (plain_renderers 0 entry hentry),
      forall_link fun entry hentry => .inl ⟨entry, hentry, rfl⟩⟩
    rcases List.mem_append.mp hentry with hbuiltin | hcounting
    · exact .inl ⟨entry, hbuiltin, rfl⟩
    · obtain rfl := List.mem_singleton.mp hcounting
      exact .inr fun depth _ _ _ _ => (Likeness.alike_tally "count").bind fun n => .pure _
  exact (sameOutcome_of_unlisted setup functions .empty cache agree registrations .anonymous
    (fun h => absurd h (by decide)) w w rfl rfl).2.2 _

/-! ## Functions that matter though they are not listed -/

/-- A handler that calls the function its parameter names, listed or not. -/
def directCall : Handler where
  answer name scope := pure <|
    match scope.host.functions.call? name [] with
    | some (.ok text) => text
    | _ => ""
  cleaner := .text

/-- A setup with such a handler, and with a function that is not listed. -/
def withDirectCall : Setup :=
  { Setup.plain 0 with
    handlers := Handler.builtin ++ [(["call"], directCall)]
    functions := (Setup.plain 0).functions.register "secret" fun _ => .ok "kept" }

/-- A setup whose operator has listed a function with a capital, which is not how it is registered. -/
def withCapital : Setup :=
  { Setup.plain 0 with
    allowed := ["Secret"]
    functions := (Setup.plain 0).functions.register "secret" fun _ => .ok "kept" }

/-- Whether another function in the place of `secret` changes the markup of a text. -/
def RevealsSecret (setup : Setup) (text : String) : Prop :=
  let functions := setup.functions.register "secret" fun _ => .ok "revealed"
  let cache : Cache.Cache Cache.Store := ⟨Cache.Store.backend 0, ""⟩
  let w := World.start (.memory (.empty 10))
  ((setup.engine .empty cache).resolveFragment .anonymous text w).1.html = "kept" ∧
    ((({ setup with functions } : Setup).engine .empty cache).resolveFragment .anonymous text w).1.html =
      "revealed"

/-- A function that is not listed matters where a handler asks for it. One that is not listed letter by
letter matters where it is listed with a capital. -/
theorem revealsSecret_of_directCall_or_capital :
    (¬ Allowlist.Lists withDirectCall.allowed "secret" ∧
      withDirectCall.RevealsSecret "\x7bcall:secret\x7d") ∧
    "secret" ∉ Allowlist.common ++ withCapital.allowed ∧
      withCapital.RevealsSecret "\x7bfn:secret\x7d" :=
  ⟨⟨by decide +kernel, by decide +kernel, by decide +kernel⟩, by decide, by decide +kernel,
    by decide +kernel⟩

end Setup

end DynamicContent
