/-
# Renderings that are alike

What can be known of a rendering by comparing it with another one: with other host functions, for a
request of another kind of screen, or with somebody watching. A `Likeness` says in what sense two
renderings are compared: on which hosts, for which requests, and from which worlds; two actions are
alike if from worlds that are alike they come to the same result and to worlds that are alike.

The worlds at a level of nesting are those with so many levels taken and with certain templates
being rendered. So actions that are alike also leave the nesting as they found it, and there is
nothing to say of it apart from the worlds.

What a handler, a renderer or a link makes of its scope is *uniform* if it is alike whenever the
scopes are, in every sense. The engine's part is that what it gives out as scopes is alike one level
after the other.
-/

import DynamicContent.Engine.World
import DynamicContent.Proofs.Data.ActionRelation
import DynamicContent.Proofs.Engine.Nesting

namespace DynamicContent

open Directive (Memo)

/-- What a rendering writes down and does not read. -/
structure Records where
  counters : Counters
  cacheEvents : List Cache.CacheEvent
  queryCalls : Nat
  announced : List Announcement

namespace World

/-- The world with more written down. -/
def record (f : Records → Records) (world : World) : World :=
  let records := f ⟨world.cache.counters, world.cache.events, world.queryCalls, world.announced⟩
  { world with
    cache := { world.cache with counters := records.counters, events := records.cacheEvents }
    queryCalls := records.queryCalls
    announced := records.announced }

/-- The world with other entries in the cache. -/
def withStore (store : Cache.Store) (world : World) : World :=
  { world with cache := { world.cache with store } }

/-- The world with other tallies. -/
def withTallies (tallies : SortedMap Nat) (world : World) : World := { world with tallies }

end World

/-- A sense in which two renderings are compared. The hosts differ at most in their functions, and
in those that may be called not even there; which functions there are is the same for those who are
told. Requests differ at most in the kind of screen, and that does not change an address. Worlds are
at the same nesting, and they agree on what is read of them. -/
structure Likeness where
  host : Host
  host' : Host
  bound : Nat
  requests : Request → Request → Prop
  worlds : Nat → List Nat → World → World → Prop
  host_eq : host' = { host with functions := host'.functions, allowlist := host'.allowlist }
  allows_eq : ∀ name, host'.allowlist.allows name = host.allowlist.allows name
  call_eq : ∀ name, host.allowlist.allows name = true →
    host'.functions.call? name = host.functions.call? name
  contains_eq : ∀ request request', requests request request' → request.isPrivileged = true →
    ∀ name, host'.functions.contains name = host.functions.contains name
  request_eq : ∀ request request', requests request request' →
    ∃ adminScreen, request' = { request with adminScreen }
  withCurrentPost : ∀ request request' id, requests request request' →
    requests (request.withCurrentPost id) (request'.withCurrentPost id)
  address_eq : ∀ request request' kind, requests request request' →
    host.urls.ofKind? kind request' = host.urls.ofKind? kind request
  isNested : ∀ depth templates w w', worlds depth templates w w' →
    w.IsNested bound depth templates ∧ w'.IsNested bound depth templates
  nest : ∀ depth templates depth' templates' w w', worlds depth templates w w' → depth' ≤ bound →
    worlds depth' templates' (w.nest depth' templates') (w'.nest depth' templates')
  needAsset : ∀ depth templates w w' request request' handle, worlds depth templates w w' →
    requests request request' → worlds depth templates (RenderM.needAsset request handle w).2
      (RenderM.needAsset request' handle w').2
  record : ∀ depth templates w w' f, worlds depth templates w w' →
    worlds depth templates (w.record f) (w'.record f)
  store_eq : ∀ depth templates w w', worlds depth templates w w' → w'.cache.store = w.cache.store
  withStore : ∀ depth templates w w' store, worlds depth templates w w' →
    worlds depth templates (w.withStore store) (w'.withStore store)
  tallies_eq : ∀ depth templates w w', worlds depth templates w w' → w'.tallies = w.tallies
  withTallies : ∀ depth templates w w' tallies, worlds depth templates w w' →
    worlds depth templates (w.withTallies tallies) (w'.withTallies tallies)

namespace Likeness

variable (L : Likeness)

/-! ## What the hosts have in common -/

theorem site_eq : L.host'.site = L.host.site := by rw [L.host_eq]

theorem urls_eq : L.host'.urls = L.host.urls := by rw [L.host_eq]

theorem formats_eq : L.host'.formats = L.host.formats := by rw [L.host_eq]

theorem zone_eq : L.host'.zone = L.host.zone := by rw [L.host_eq]

theorem tag_eq : L.host'.tag = L.host.tag := by rw [L.host_eq]

theorem limits_eq : L.host'.limits = L.host.limits := by rw [L.host_eq]

theorem cache_eq : L.host'.cache = L.host.cache := by rw [L.host_eq]

theorem queries_eq : L.host'.queries = L.host.queries := by rw [L.host_eq]

/-! ## What requests have in common -/

theorem isPrivileged_eq {request request' : Request} (h : L.requests request request') :
    request'.isPrivileged = request.isPrivileged := by
  obtain ⟨adminScreen, rfl⟩ := L.request_eq request request' h
  rfl

theorem currentPost_eq {request request' : Request} (h : L.requests request request') :
    request'.currentPost = request.currentPost := by
  obtain ⟨adminScreen, rfl⟩ := L.request_eq request request' h
  rfl

/-! ## Actions that are alike -/

/-- Two actions that are alike at a level: from worlds that are alike they give the same result and
worlds that are alike. -/
def Alike {α : Type} (depth : Nat) (a b : RenderM α) : Prop :=
  ∀ templates w w', L.worlds depth templates w w' →
    (a w).1 = (b w').1 ∧ L.worlds depth templates (a w).2 (b w').2

variable {L} {α β : Type} {depth : Nat}

theorem Alike.pure (a : α) : L.Alike depth (pure a) (pure a) := fun _ _ _ h => ⟨rfl, h⟩

theorem Alike.bind {x y : RenderM α} {f g : α → RenderM β} (h : L.Alike depth x y)
    (hf : ∀ a, L.Alike depth (f a) (g a)) : L.Alike depth (x >>= f) (y >>= g) := by
  intro templates w w' hw
  obtain ⟨hresult, hworlds⟩ := h templates w w' hw
  have hnext := hf (x w).1 templates (x w).2 (y w').2 hworlds
  have hrun : (y >>= g) w' = g (x w).1 (y w').2 := by rw [hresult]; rfl
  rw [hrun]
  exact hnext

variable (L) in
/-- Being alike at a level, as a relation between actions. -/
def actions (depth : Nat) : ActionRelation RenderM where
  rel := L.Alike depth
  pure_rel := .pure
  bind_rel := .bind

/-- Two actions with a memory that are alike at a level from every memory. -/
abbrev AlikeWithin (L : Likeness) (depth : Nat) (a b : StateT Memo RenderM α) : Prop :=
  ((L.actions depth).withState Memo).rel a b

/-- More is written down on both sides. -/
theorem alike_record (f : Records → Records) (a : α) :
    L.Alike depth (fun w => (a, w.record f)) (fun w => (a, w.record f)) :=
  fun templates w w' h => ⟨rfl, L.record depth templates w w' f h⟩

theorem alike_count (name : String) (labels : List (String × String)) :
    L.Alike depth (RenderM.count name labels) (RenderM.count name labels) :=
  alike_record (fun r => { r with counters := Counters.increase name labels r.counters }) ()

theorem alike_announce (announcement : Announcement) :
    L.Alike depth (RenderM.announce announcement) (RenderM.announce announcement) :=
  alike_record (fun r => { r with announced := r.announced ++ [announcement] }) ()

theorem alike_needAsset {request request' : Request} (h : L.requests request request')
    (handle : String) :
    L.Alike depth (RenderM.needAsset request handle) (RenderM.needAsset request' handle) :=
  fun templates w w' hw => ⟨rfl, L.needAsset depth templates w w' request request' handle hw h⟩

/-- A tally is read and increased. -/
theorem alike_tally (name : String) : L.Alike depth (RenderM.tally name) (RenderM.tally name) := by
  intro templates w w' h
  have htallies := L.tallies_eq depth templates w w' h
  have hafter := L.withTallies depth templates w w' (SortedMap.modify name 0 (· + 1) w.tallies) h
  constructor
  · change (w.tallies.find? name).getD 0 = (w'.tallies.find? name).getD 0
    rw [htallies]
  · change L.worlds depth templates _
      (w'.withTallies (SortedMap.modify name 0 (· + 1) w'.tallies))
    rw [htallies]
    exact hafter

theorem alike_askPosts (site : Site) (query : PostQuery) :
    L.Alike depth (RenderM.askPosts site query) (RenderM.askPosts site query) := by
  have hcall : L.Alike depth
      (modify fun world : World => { world with queryCalls := world.queryCalls + 1 })
      (modify fun world : World => { world with queryCalls := world.queryCalls + 1 }) :=
    alike_record (fun r => { r with queryCalls := r.queryCalls + 1 }) ()
  unfold RenderM.askPosts
  dsimp only
  split
  · exact hcall.bind fun _ => .pure _
  · exact .pure _

/-! ## Nesting -/

/-- One level deeper, if there is one: what is granted need be alike only where it is. -/
theorem Alike.deeper {refused refused' granted granted' : RenderM α}
    (hrefused : L.Alike depth refused refused')
    (hgranted : depth < L.bound → L.Alike (depth + 1) granted granted') :
    L.Alike depth (RenderM.deeper refused granted) (RenderM.deeper refused' granted') := by
  intro templates w w' hw
  obtain ⟨hnested, hnested'⟩ := L.isNested depth templates w w' hw
  by_cases hlevel : depth < L.bound
  · have hstart := L.nest depth templates (depth + 1) templates w w' hw hlevel
    obtain ⟨hresult, hafter⟩ := hgranted hlevel templates _ _ hstart
    obtain ⟨hdeep, hdeep'⟩ := L.isNested _ templates _ _ hafter
    rw [RenderM.deeper_of_free (by rwa [hnested.depth_eq, hnested.bound_eq]),
      RenderM.deeper_of_free (by rwa [hnested'.depth_eq, hnested'.bound_eq]), hnested.depth_eq,
      hnested.templates_eq, hnested'.depth_eq, hnested'.templates_eq]
    dsimp only
    rw [hdeep.leave, hdeep'.leave]
    exact ⟨hresult, L.nest _ templates depth templates _ _ hafter hnested.le⟩
  · have hfull (v : World) (hv : v.IsNested L.bound depth templates) :
        v.render.maxDepth ≤ v.render.depth := by
      rw [hv.depth_eq, hv.bound_eq]
      exact Nat.le_of_not_lt hlevel
    rw [RenderM.deeper_of_full (hfull w hnested), RenderM.deeper_of_full (hfull w' hnested')]
    exact hrefused templates w w' hw

/-- Where no level is left, what is refused is all that there is. -/
theorem Alike.deeper_of_full {a refused granted : RenderM α} (h : L.Alike depth a refused)
    (hfull : L.bound ≤ depth) : L.Alike depth a (RenderM.deeper refused granted) := by
  intro templates w w' hw
  obtain ⟨-, hnested'⟩ := L.isNested depth templates w w' hw
  rw [RenderM.deeper_of_full (by rwa [hnested'.depth_eq, hnested'.bound_eq])]
  exact h templates w w' hw

/-- Within a template, unless it is being rendered already. -/
theorem Alike.insideTemplate {id : Nat} {refused refused' granted granted' : RenderM α}
    (hrefused : L.Alike depth refused refused') (hgranted : L.Alike depth granted granted') :
    L.Alike depth (RenderM.insideTemplate id refused granted)
      (RenderM.insideTemplate id refused' granted') := by
  intro templates w w' hw
  obtain ⟨hnested, hnested'⟩ := L.isNested depth templates w w' hw
  by_cases hmem : templates.contains id = true
  · rw [RenderM.insideTemplate_of_mem (by rwa [hnested.templates_eq]),
      RenderM.insideTemplate_of_mem (by rwa [hnested'.templates_eq])]
    exact hrefused templates w w' hw
  · have hstart := L.nest depth templates depth (id :: templates) w w' hw hnested.le
    obtain ⟨hresult, hafter⟩ := hgranted (id :: templates) _ _ hstart
    obtain ⟨hdeep, hdeep'⟩ := L.isNested _ _ _ _ hafter
    rw [RenderM.insideTemplate_of_not_mem (by rwa [hnested.templates_eq]),
      RenderM.insideTemplate_of_not_mem (by rwa [hnested'.templates_eq]), hnested.depth_eq,
      hnested.templates_eq, hnested'.depth_eq, hnested'.templates_eq]
    dsimp only
    rw [hdeep.leaveTemplate, hdeep'.leaveTemplate]
    exact ⟨hresult, L.nest depth _ depth templates _ _ hafter hnested.le⟩

/-! ## The cache -/

variable (L) in
/-- Being alike, as a relation between operations on the cache. -/
def cacheActions (depth : Nat) : ActionRelation (Cache.CacheM Cache.Store) where
  rel a b := L.Alike depth (a : RenderM _) (b : RenderM _)
  pure_rel a := Alike.pure a
  bind_rel h hf := Alike.bind h hf

theorem alike_onStore (f : Cache.Store → Except Cache.CacheError α × Cache.Store) :
    (L.cacheActions depth).rel (Cache.Cache.onStore f) (Cache.Cache.onStore f) := by
  intro templates w w' h
  have hstore := L.store_eq depth templates w w' h
  have hafter := L.withStore depth templates w w' (f w.cache.store).2 h
  constructor
  · change (f w.cache.store).1 = (f w'.cache.store).1
    rw [hstore]
  · change L.worlds depth templates _ (w'.withStore (f w'.cache.store).2)
    rw [hstore]
    exact hafter

theorem alike_cacheCount (name : String) (labels : List (String × String)) :
    (L.cacheActions depth).rel (Cache.Cache.count name labels) (Cache.Cache.count name labels) :=
  alike_count name labels

theorem alike_cacheAnnounce (event : Cache.CacheEvent) :
    (L.cacheActions depth).rel (Cache.Cache.announce event) (Cache.Cache.announce event) :=
  alike_record (fun r => { r with cacheEvents := r.cacheEvents ++ [event] }) ()

/-- A value is read from the cache. -/
theorem alike_get (cache : Cache.Cache Cache.Store) (decode : Json → Option α)
    (key group : String) :
    (L.cacheActions depth).rel (cache.get decode key group) (cache.get decode key group) := by
  have hmiss : (L.cacheActions depth).rel
      (do Cache.Cache.count "weft_cache_miss_total" [("group", group)]
          pure (none : Option α) : Cache.CacheM Cache.Store (Option α))
      (do Cache.Cache.count "weft_cache_miss_total" [("group", group)]
          pure none) :=
    (L.cacheActions depth).bind_rel (alike_cacheCount _ _) fun _ => Alike.pure none
  unfold Cache.Cache.get
  refine (L.cacheActions depth).bind_rel (alike_onStore _) fun found => ?_
  split
  · exact hmiss
  · exact (L.cacheActions depth).bind_rel (alike_cacheCount _ _) fun _ => hmiss
  · split
    · exact (L.cacheActions depth).bind_rel (alike_cacheCount _ _) fun _ => Alike.pure _
    · exact (L.cacheActions depth).bind_rel (alike_cacheCount _ _) fun _ => hmiss

/-- A value is written to the cache. -/
theorem alike_set (cache : Cache.Cache Cache.Store) (key : String) (value : Option Json)
    (lifetime : Nat) (group : String) :
    (L.cacheActions depth).rel (cache.set key value lifetime group)
      (cache.set key value lifetime group) := by
  have hend (stored : Bool) : (L.cacheActions depth).rel
      (do if stored then Cache.Cache.count "weft_cache_write_total" [("group", group)]
          Cache.Cache.announce (.written key group lifetime stored)
          pure stored : Cache.CacheM Cache.Store Bool)
      (do if stored then Cache.Cache.count "weft_cache_write_total" [("group", group)]
          Cache.Cache.announce (.written key group lifetime stored)
          pure stored) := by
    have hannounce : (L.cacheActions depth).rel
        (do Cache.Cache.announce (.written key group lifetime stored)
            pure stored : Cache.CacheM Cache.Store Bool)
        (do Cache.Cache.announce (.written key group lifetime stored)
            pure stored) :=
      (L.cacheActions depth).bind_rel (alike_cacheAnnounce _) fun _ => Alike.pure stored
    dsimp only
    split
    · exact (L.cacheActions depth).bind_rel (alike_cacheCount _ _) fun _ => hannounce
    · exact hannounce
  unfold Cache.Cache.set
  dsimp only
  split
  · exact (L.cacheActions depth).bind_rel (alike_cacheCount _ _) fun _ => hend false
  · refine (L.cacheActions depth).bind_rel (alike_onStore _) fun result => ?_
    split
    · exact hend true
    · exact (L.cacheActions depth).bind_rel (alike_cacheCount _ _) fun _ => hend false

/-- A value is read from the cache, or else computed and written. -/
theorem alike_remember {cache : Cache.Cache Cache.Store} {decode : Json → Option α}
    {encode : α → Option Json} {key group : String} {lifetime : Nat}
    {compute compute' : Cache.CacheM Cache.Store α}
    (h : (L.cacheActions depth).rel compute compute') :
    (L.cacheActions depth).rel (cache.remember decode encode key lifetime group compute)
      (cache.remember decode encode key lifetime group compute') := by
  unfold Cache.Cache.remember
  refine (L.cacheActions depth).bind_rel (alike_get cache decode key group) fun found => ?_
  split
  · exact Alike.pure _
  · refine (L.cacheActions depth).bind_rel h fun value => ?_
    exact (L.cacheActions depth).bind_rel (alike_set cache key (encode value) lifetime group)
      fun _ => Alike.pure value

/-- The posts that a query finds are looked up or asked for. -/
theorem Alike.posts {memo : QueryMemo Cache.Store} {query : PostQuery}
    {ask ask' : RenderM (Except ContentError (List Post))} (h : L.Alike depth ask ask') :
    L.Alike depth (memo.posts query ask) (memo.posts query ask') := by
  unfold QueryMemo.posts
  split
  · refine h.bind fun found => ?_
    split <;> exact .pure _
  · refine Alike.bind (alike_get memo.cache _ _ _) fun found => ?_
    split
    · exact .pure _
    · refine h.bind fun found => ?_
      split
      · exact Alike.bind (alike_set memo.cache _ _ _ _) fun _ => .pure _
      · exact .pure _

/-! ## Scopes that are alike, and what is uniform in them -/

/-- Scopes of links at a level that are alike: on the two hosts, for requests that are alike, and such
that the processing of text and elements is alike for all requests that are. -/
structure LinkScopes (L : Likeness) (depth : Nat) (scope scope' : LinkScope) : Prop where
  host : scope.host = L.host
  host' : scope'.host = L.host'
  request : L.requests scope.request scope'.request
  resolveFor : ∀ request request' s, L.requests request request' →
    L.Alike depth (scope.resolveFor request s) (scope'.resolveFor request' s)
  expandFor : ∀ request request' s, L.requests request request' →
    L.Alike depth (scope.expandFor request s) (scope'.expandFor request' s)
  shortcodesFor : ∀ request request' s, L.requests request request' →
    L.Alike depth (scope.shortcodesFor request s) (scope'.shortcodesFor request' s)
  dispatchFor : ∀ request request' attrs content, L.requests request request' →
    L.Alike depth (scope.dispatchFor request attrs content)
      (scope'.dispatchFor request' attrs content)

/-- A link that gives addresses alike in scopes that are alike. -/
def UniformLink (L : Likeness) (link : Link) : Prop :=
  ∀ depth scope scope', L.LinkScopes depth scope scope' → ∀ attrs,
    L.Alike depth (link attrs scope) (link attrs scope')

/-- Scopes of handlers and renderers at a level that are alike: those of links are, and the links are the
same and uniform. -/
structure Scopes (L : Likeness) (depth : Nat) (scope scope' : Scope) : Prop extends
    L.LinkScopes depth scope.toLinkScope scope'.toLinkScope where
  links : scope'.links = scope.links
  link : ∀ name link, scope.links.find? name = some link → L.UniformLink link

/-- A handler that answers alike in scopes that are alike. -/
def UniformHandler (L : Likeness) (handler : Handler) : Prop :=
  ∀ depth scope scope', L.Scopes depth scope scope' → ∀ param,
    L.Alike depth (handler.answer param scope) (handler.answer param scope')

/-- A renderer that has defaults and renders alike in scopes that are alike. -/
structure UniformRenderer (L : Likeness) (renderer : Renderer) : Prop where
  defaults : ∀ depth scope scope', L.Scopes depth scope scope' →
    L.Alike depth (renderer.defaults scope) (renderer.defaults scope')
  render : ∀ depth scope scope', L.Scopes depth scope scope' → ∀ attrs content,
    L.Alike depth (renderer.render attrs content scope) (renderer.render attrs content scope')

theorem LinkScopes.expandText {scope scope' : LinkScope} (h : L.LinkScopes depth scope scope')
    (s : String) : L.Alike depth (scope.expandText s) (scope'.expandText s) :=
  h.expandFor _ _ s h.request

theorem LinkScopes.resolveText {scope scope' : LinkScope} (h : L.LinkScopes depth scope scope')
    (s : String) : L.Alike depth (scope.resolveText s) (scope'.resolveText s) :=
  h.resolveFor _ _ s h.request

theorem LinkScopes.expandShortcodes {scope scope' : LinkScope}
    (h : L.LinkScopes depth scope scope') (s : String) :
    L.Alike depth (scope.expandShortcodes s) (scope'.expandShortcodes s) :=
  h.shortcodesFor _ _ s h.request

/-- Links by the same name give addresses alike, or there is none on both sides. -/
theorem Scopes.linkUrl {scope scope' : Scope} (h : L.Scopes depth scope scope') (name : String)
    (attrs : Attributes) :
    L.Alike depth (scope.linkUrl name attrs) (scope'.linkUrl name attrs) := by
  rw [Scope.linkUrl, Scope.linkUrl, h.links]
  cases hlink : scope.links.find? name with
  | none => exact .pure ""
  | some link => exact h.link name link hlink depth _ _ h.toLinkScopes attrs

end Likeness

/-- A handler that is uniform in every sense. -/
def Handler.Uniform (handler : Handler) : Prop := ∀ L : Likeness, L.UniformHandler handler

/-- A renderer that is uniform in every sense. -/
def Renderer.Uniform (renderer : Renderer) : Prop := ∀ L : Likeness, L.UniformRenderer renderer

/-- A link that is uniform in every sense. -/
def Link.Uniform (link : Link) : Prop := ∀ L : Likeness, L.UniformLink link

end DynamicContent
