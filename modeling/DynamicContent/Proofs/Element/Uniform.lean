/-
# The builtin elements are uniform

An element reads its attributes, the site and the parts of a request in which requests that are
alike agree, and it leaves all text to the scope. The result of a function is the one element that
looks at the functions themselves: it asks first whether there is such a function. That a function
may not be called is therefore no reason to be refused alike, but what is said of it is said to
those only who manage the site.
-/

import DynamicContent.Engine.Setup
import DynamicContent.Proofs.Function.Allowlist
import DynamicContent.Proofs.Handler.Uniform

namespace DynamicContent.Element

open Likeness

variable {L : Likeness} {depth : Nat} {scope scope' : Scope}

theorem finishValue_eq (v : Json) (attrs : Attributes) :
    finishValue L.host' v attrs = finishValue L.host v attrs := by
  rw [finishValue, finishValue, L.formats_eq, L.zone_eq]

/-- A renderer whose defaults are always the same is uniform if it renders alike. -/
theorem uniform_of_render {renderer : Renderer} {defaults : Attributes}
    (hdefaults : ∀ scope, renderer.defaults scope = pure defaults)
    (h : ∀ (L : Likeness) depth scope scope', L.Scopes depth scope scope' → ∀ attrs content,
      L.Alike depth (renderer.render attrs content scope) (renderer.render attrs content scope')) :
    renderer.Uniform := by
  intro L
  refine ⟨fun depth scope scope' _ => ?_, h L⟩
  rw [hdefaults, hdefaults]
  exact .pure defaults

/-! ## Fields, media and embedded documents -/

theorem FieldSource.renderer_uniform (source : FieldSource) : source.renderer.Uniform := by
  intro L
  constructor
  · intro depth scope scope' hscopes
    obtain ⟨adminScreen, hrequest⟩ := L.request_eq _ _ hscopes.request
    have hdefaults : source.defaults scope'.request = source.defaults scope.request := by
      rw [hrequest]
      cases source <;> rfl
    simp only [FieldSource.renderer, hdefaults]
    exact .pure _
  · intro depth scope scope' hscopes attrs content
    obtain ⟨adminScreen, hrequest⟩ := L.request_eq _ _ hscopes.request
    have hvalue : source.value? scope'.host.site scope'.request attrs =
        source.value? scope.host.site scope.request attrs := by
      rw [hscopes.host, hscopes.host', L.site_eq, hrequest]
      cases source <;> rfl
    simp only [FieldSource.renderer, hvalue]
    rw [hscopes.host, hscopes.host', finishValue_eq]
    split
    · exact (hscopes.expandText content).bind fun inner => .pure _
    · exact .pure _

theorem MediaKind.renderer_uniform (kind : MediaKind) : kind.renderer.Uniform := by
  refine uniform_of_render (fun _ => rfl) fun L depth scope scope' hscopes attrs content => ?_
  simp only [MediaKind.renderer, L.isPrivileged_eq hscopes.request, hscopes.host, hscopes.host', L.site_eq]
  exact .pure _

theorem embed_uniform : embed.Uniform := by
  refine uniform_of_render (fun _ => rfl) fun L depth scope scope' hscopes attrs content => ?_
  simp only [embed, hscopes.host, hscopes.host', L.site_eq]
  split
  · exact .pure _
  · exact (hscopes.expandText content).bind fun inner => .pure _

/-! ## Components -/

theorem code_uniform : code.Uniform := by
  refine uniform_of_render (fun _ => rfl) fun L depth scope scope' hscopes attrs content => ?_
  have hshown (contents : String) : L.Alike depth
      (if contents.isEmpty then pure ""
        else do
          RenderM.needAsset scope.request "weft-qr-code"
          if !(attrs.trimmed "animation").isEmpty then
            RenderM.needAsset scope.request "weft-qr-animation"
          pure (finishMarkup .qrCode (codeMarkup contents attrs) attrs))
      (if contents.isEmpty then pure ""
        else do
          RenderM.needAsset scope'.request "weft-qr-code"
          if !(attrs.trimmed "animation").isEmpty then
            RenderM.needAsset scope'.request "weft-qr-animation"
          pure (finishMarkup .qrCode (codeMarkup contents attrs) attrs)) := by
    split
    · exact .pure _
    · refine (alike_needAsset hscopes.request _).bind fun _ => ?_
      split
      · exact (alike_needAsset hscopes.request _).bind fun _ => .pure _
      · exact .pure _
  simp only [code]
  split
  · exact (hscopes.expandText content).bind fun inner => Alike.bind (.pure _) hshown
  · exact Alike.bind (.pure _) hshown

theorem spoiler_uniform : spoiler.Uniform := by
  refine uniform_of_render (fun _ => rfl) fun L depth scope scope' hscopes attrs content => ?_
  simp only [spoiler]
  refine (hscopes.expandText content).bind fun inner => ?_
  split
  · exact .pure _
  · exact (alike_needAsset hscopes.request _).bind fun _ => .pure _

/-! ## The result of a function -/

/-- On hosts that are alike the same calls are refused, if those who are told of a refusal are told
of the same functions. -/
theorem callRefusal?_eq_or {request request' : Request} (h : L.requests request request')
    (name : String) : callRefusal? L.host' name = callRefusal? L.host name ∨
      request.isPrivileged = false ∧ (callRefusal? L.host' name).isSome ∧
        (callRefusal? L.host name).isSome := by
  by_cases hallowed : L.host.allowlist.allows name = true
  · left
    have hcontains : L.host'.functions.contains name = L.host.functions.contains name := by
      rw [Functions.contains_eq_isSome_call? _ name [], L.call_eq name hallowed,
        ← Functions.contains_eq_isSome_call?]
    rw [callRefusal?, callRefusal?, hcontains, L.allows_eq, L.urls_eq]
  · -- The call is refused on both sides, but perhaps for different reasons: on one side there may be
    -- no such function.
    cases hprivileged : request.isPrivileged with
    | true =>
        left
        rw [callRefusal?, callRefusal?, L.contains_eq _ _ h hprivileged, L.allows_eq, L.urls_eq]
    | false =>
        right
        refine ⟨rfl, ?_, ?_⟩
        · rw [callRefusal?, L.allows_eq]
          split <;> simp [hallowed]
        · rw [callRefusal?]
          split <;> simp [hallowed]

theorem callArguments_alike (hscopes : L.Scopes depth scope scope') (args : List String) :
    L.Alike depth (callArguments scope args) (callArguments scope' args) := by
  induction args with
  | nil => exact .pure []
  | cons arg rest ih =>
      exact (hscopes.resolveText arg).bind fun first => ih.bind fun others => .pure _

/-- A call that is not refused is of a function that may be called. -/
theorem allows_of_callRefusal?_eq_none {host : Host} {name : String}
    (h : callRefusal? host name = none) : host.allowlist.allows name = true := by
  unfold callRefusal? at h
  split at h
  · contradiction
  · split at h
    · contradiction
    · next hallowed => simpa using hallowed

theorem functionCall_uniform : functionCall.Uniform := by
  refine uniform_of_render (fun _ => rfl) fun L depth scope scope' hscopes attrs content => ?_
  simp only [functionCall, hscopes.host, hscopes.host', L.isPrivileged_eq hscopes.request]
  obtain ⟨name, args⟩ := splitCall (attrs.text "name")
  dsimp only
  split
  · exact .pure _
  · rcases callRefusal?_eq_or hscopes.request name with heq | ⟨hnot, hsome', hsome⟩
    · rw [heq]
      cases hrefusal : callRefusal? L.host name with
      | some refusal => exact .pure _
      | none =>
          have hallowed := allows_of_callRefusal?_eq_none hrefusal
          refine (callArguments_alike hscopes args).bind fun args => ?_
          rw [L.call_eq name hallowed, finishValue_eq]
          exact .pure _
    · obtain ⟨refusal, hrefusal⟩ := Option.isSome_iff_exists.mp hsome
      obtain ⟨refusal', hrefusal'⟩ := Option.isSome_iff_exists.mp hsome'
      simp only [hrefusal, hrefusal', hnot]
      exact .pure _

/-! ## Links -/

/-- A link that reads the same address on hosts that are alike gives it alike. -/
theorem uniformLink_reading {address : Attributes → Host → Request → String}
    (h : ∀ attrs request request', L.requests request request' →
      address attrs L.host' request' = address attrs L.host request) :
    L.UniformLink (.reading address) := by
  intro depth scope scope' hscopes attrs
  rw [Link.reading, Link.reading, hscopes.host, hscopes.host', h attrs _ _ hscopes.request]
  exact .pure _

/-- The addresses of every engine are the same on hosts that are alike. -/
theorem builtinAddresses_eq {request request' : Request} (h : L.requests request request')
    (attrs : Attributes) : ∀ entry ∈ builtinAddresses,
      entry.2 attrs L.host' request' = entry.2 attrs L.host request := by
  obtain ⟨adminScreen, rfl⟩ := L.request_eq _ _ h
  simp only [builtinAddresses, List.forall_mem_cons, L.urls_eq, L.site_eq, authUrl, true_and]
  exact ⟨rfl, rfl, fun _ h => absurd h List.not_mem_nil⟩

/-- The links of every engine are uniform. -/
theorem builtinLinks_uniform : ∀ entry ∈ builtinLinks, Link.Uniform entry.2 := by
  intro _ hentry L
  obtain ⟨entry, haddress, rfl⟩ := List.mem_map.mp hentry
  exact uniformLink_reading fun attrs _ _ hrequest =>
    builtinAddresses_eq hrequest attrs entry haddress

theorem link_uniform : link.Uniform := by
  refine uniform_of_render (fun _ => rfl) fun L depth scope scope' hscopes attrs content => ?_
  obtain ⟨adminScreen, hrequest⟩ := L.request_eq _ _ hscopes.request
  have hlabel (name : String) : linkLabel name attrs scope'.request =
      linkLabel name attrs scope.request := by
    rw [hrequest]
    rfl
  simp only [Element.link, hlabel]
  exact (hscopes.linkUrl _ attrs).bind fun url => .pure _

/-! ## Lists of posts -/

theorem listItems_alike (hscopes : L.Scopes depth scope scope') (item : String)
    (posts : List Post) :
    L.Alike depth (listItems scope item posts) (listItems scope' item posts) := by
  induction posts with
  | nil => exact .pure ""
  | cons post rest ih =>
      have hrequest := L.withCurrentPost _ _ post.id hscopes.request
      exact (hscopes.expandFor _ _ item hrequest).bind fun first =>
        ih.bind fun others => .pure _

theorem listing_uniform : listing.Uniform := by
  refine uniform_of_render (fun _ => rfl) fun L depth scope scope' hscopes attrs content => ?_
  obtain ⟨adminScreen, hrequest⟩ := L.request_eq _ _ hscopes.request
  have hquery : listingQuery L.host' scope'.request attrs =
      listingQuery L.host scope.request attrs := by
    rw [listingQuery, listingQuery, searchedPage?, searchedPage?, L.site_eq, hrequest]
  simp only [listing, hscopes.host, hscopes.host', hquery, L.tag_eq, L.queries_eq, L.site_eq]
  split
  · exact .pure _
  · refine (Alike.posts (alike_askPosts _ _)).bind fun posts => ?_
    split
    · split
      · exact .pure _
      · exact (hscopes.expandText _).bind fun inner => .pure _
    · exact (listItems_alike hscopes _ posts).bind fun items => .pure _

/-! ## Templates of the page builder -/

theorem expandTemplate_alike (hscopes : L.Scopes depth scope scope') (template : Post) :
    L.Alike depth (expandTemplate scope template) (expandTemplate scope' template) := by
  have hshown (inner : String) : L.Alike depth
      (let html := templateMarkup (templateKind template) inner
       if isBlankText html then pure (.error .empty)
       else do
         let _ ← (L.host.cache.set (revisionKey template) (some (.string html)) templateLifetime
           templateGroup : Cache.CacheM Cache.Store Bool)
         pure (.ok html) : RenderM (Except TemplateProblem String))
      (let html := templateMarkup (templateKind template) inner
       if isBlankText html then pure (.error .empty)
       else do
         let _ ← (L.host.cache.set (revisionKey template) (some (.string html)) templateLifetime
           templateGroup : Cache.CacheM Cache.Store Bool)
         pure (.ok html)) := by
    dsimp only
    split
    · exact .pure _
    · exact Alike.bind (alike_set L.host.cache _ _ _ _) fun _ => .pure _
  simp only [expandTemplate, hscopes.host, hscopes.host', L.cache_eq, L.site_eq]
  refine Alike.bind (alike_get L.host.cache _ _ _) fun found => ?_
  split
  · exact .pure _
  · split
    · exact .pure _
    · split
      · exact (hscopes.expandText _).bind hshown
      · exact Alike.bind (.pure "") hshown

theorem pageTemplate_uniform : pageTemplate.Uniform := by
  refine uniform_of_render (fun _ => rfl) fun L depth scope scope' hscopes attrs content => ?_
  simp only [pageTemplate, hscopes.host, hscopes.host', L.site_eq,
    L.currentPost_eq hscopes.request]
  split
  · exact .pure _
  · split
    · exact .pure _
    · refine (alike_needAsset hscopes.request _).bind fun _ => ?_
      split
      · exact Alike.bind (.pure _) fun shown => .pure _
      · split
        · exact Alike.bind (.pure _) fun shown => .pure _
        · exact ((Alike.pure _).insideTemplate (expandTemplate_alike hscopes _)).bind
            fun shown => .pure _

/-- The renderers of every engine are uniform. -/
theorem builtin_uniform : ∀ renderer ∈ builtin, renderer.Uniform := by
  simp only [builtin, List.forall_mem_append, List.forall_mem_cons]
  refine ⟨fun renderer hfield => ?_, functionCall_uniform, link_uniform,
    MediaKind.audio.renderer_uniform, MediaKind.video.renderer_uniform, listing_uniform,
    pageTemplate_uniform, code_uniform, spoiler_uniform, embed_uniform,
    fun _ h => absurd h List.not_mem_nil⟩
  obtain ⟨source, -, rfl⟩ := List.mem_map.mp hfield
  exact source.renderer_uniform

end DynamicContent.Element
