/-
# The builtin handlers and elements are quiet

What is reported while a directive is answered or an element is rendered is reported by the text that is
processed further.
-/

import DynamicContent.Engine.Setup
import DynamicContent.Handler.Builtin
import DynamicContent.Proofs.Engine.Reports

namespace DynamicContent.Handler

/-! ## Handlers

A lookup reads, and at most remembers what it has read. A shortcode in a directive is processed like any
other, and what is reported then is all that the handler reports. -/

open RenderM

variable {kind : SeriesKind}

theorem ofLookup_quiet (lookup : String → Scope → Option String) : (ofLookup lookup).Quiet kind :=
  fun _ _ _ => .pure _

/-- A handler that remembers what it looks up uses the cache and nothing else. -/
theorem remembered_quiet (group : String) (lookup : Site → String → Option String) :
    (remembered group lookup).Quiet kind := by
  intro scope hscope name
  simp only [remembered]
  split
  · exact .pure _
  · split
    · exact .pure _
    · exact (reports_lift _).bind fun value => .pure _

theorem functionCall_quiet : functionCall.Quiet kind := fun _ _ _ => .pure _

theorem shortcode_quiet : shortcode.Quiet kind := by
  intro scope hscope param
  simp only [shortcode]
  split
  · exact .pure _
  · exact (hscope.shortcodesFor _ _).bind fun html => .pure _

theorem siteUrl_quiet : siteUrl.Quiet kind := fun _ _ _ => .pure _

/-- The handlers of every engine are quiet. -/
theorem builtin_quiet : ∀ entry ∈ builtin, entry.2.Quiet kind := by
  simp only [builtin, List.forall_mem_cons]
  exact ⟨ofLookup_quiet _, ofLookup_quiet _, ofLookup_quiet _, ofLookup_quiet _, ofLookup_quiet _,
    ofLookup_quiet _, remembered_quiet _ _, remembered_quiet _ _, ofLookup_quiet _,
    ofLookup_quiet _, ofLookup_quiet _, ofLookup_quiet _, ofLookup_quiet _, ofLookup_quiet _,
    functionCall_quiet, shortcode_quiet, siteUrl_quiet, fun _ h => absurd h List.not_mem_nil⟩

end DynamicContent.Handler

namespace DynamicContent.Element

/-! ## Elements

What an element is made of is read from its attributes, the site and the cache, and the text inside it,
or that of a template, is left to the scope. A list has the text inside it processed once for each post,
and a function call the text of each argument. -/

open RenderM

variable {kind : SeriesKind} {scope : Scope}

theorem FieldSource.renderer_quiet (source : FieldSource) : source.renderer.Quiet kind := by
  refine .of_render (fun _ => rfl) fun scope hscope attrs content => ?_
  simp only [FieldSource.renderer]
  split
  · exact (hscope.expandFor _ content).bind fun inner => .pure _
  · exact .pure _

theorem MediaKind.renderer_quiet (media : MediaKind) : media.renderer.Quiet kind :=
  .of_render (fun _ => rfl) fun _ _ _ _ => .pure _

theorem embed_quiet : embed.Quiet kind := by
  refine .of_render (fun _ => rfl) fun scope hscope attrs content => ?_
  simp only [embed]
  split
  · exact .pure _
  · exact (hscope.expandFor _ content).bind fun inner => .pure _

theorem code_quiet : code.Quiet kind := by
  refine .of_render (fun _ => rfl) fun scope hscope attrs content => ?_
  have hshown (contents : String) : Reports kind
      (if contents.isEmpty then pure ""
        else do
          needAsset scope.request "weft-qr-code"
          if !(attrs.trimmed "animation").isEmpty then
            needAsset scope.request "weft-qr-animation"
          pure (finishMarkup .qrCode (codeMarkup contents attrs) attrs)) := by
    split
    · exact .pure _
    · refine (reports_needAsset _ _).bind fun _ => ?_
      split
      · exact (reports_needAsset _ _).bind fun _ => .pure _
      · exact .pure _
  simp only [code]
  split
  · exact (hscope.expandFor _ content).bind fun inner => Reports.bind (.pure _) hshown
  · exact Reports.bind (.pure _) hshown

theorem spoiler_quiet : spoiler.Quiet kind := by
  refine .of_render (fun _ => rfl) fun scope hscope attrs content => ?_
  simp only [spoiler]
  refine (hscope.expandFor _ content).bind fun inner => ?_
  split
  · exact .pure _
  · exact (reports_needAsset _ _).bind fun _ => .pure _

/-! ### Links -/

/-- The links of every engine are quiet. -/
theorem builtinLinks_quiet : ∀ entry ∈ builtinLinks, Link.Quiet entry.2 kind := by
  intro _ hentry _ _ _
  obtain ⟨entry, -, rfl⟩ := List.mem_map.mp hentry
  exact .pure _

/-- A link asked for by name reports what it reports, and nothing if there is none. -/
theorem reports_linkUrl (hscope : scope.Reports kind) (name : String) (attrs : Attributes) :
    Reports kind (scope.linkUrl name attrs) := by
  rw [Scope.linkUrl]
  cases hlink : scope.links.find? name with
  | none => exact .pure ""
  | some link => exact hscope.link name link hlink _ hscope.toReports attrs

theorem link_quiet : link.Quiet kind := by
  refine .of_render (fun _ => rfl) fun scope hscope attrs content => ?_
  simp only [link]
  exact (reports_linkUrl hscope _ attrs).bind fun url => .pure _

/-! ### Function calls -/

theorem reports_callArguments (hscope : scope.Reports kind) (args : List String) :
    Reports kind (callArguments scope args) := by
  induction args with
  | nil => exact .pure []
  | cons arg rest ih =>
      exact (hscope.resolveFor _ arg).bind fun first => ih.bind fun others => .pure _

theorem functionCall_quiet : functionCall.Quiet kind := by
  refine .of_render (fun _ => rfl) fun scope hscope attrs content => ?_
  simp only [functionCall]
  split
  · exact .pure _
  · split
    · exact .pure _
    · exact (reports_callArguments hscope _).bind fun args => .pure _

/-! ### Lists of posts -/

theorem reports_listItems (hscope : scope.Reports kind) (item : String) (posts : List Post) :
    Reports kind (listItems scope item posts) := by
  induction posts with
  | nil => exact .pure ""
  | cons post rest ih =>
      exact (hscope.expandFor _ item).bind fun first => ih.bind fun others => .pure _

theorem listing_quiet : listing.Quiet kind := by
  refine .of_render (fun _ => rfl) fun scope hscope attrs content => ?_
  simp only [listing]
  split
  · exact .pure _
  · refine (Reports.posts (reports_askPosts _ _)).bind fun posts => ?_
    split
    · split
      · exact .pure _
      · exact (hscope.expandFor _ _).bind fun inner => .pure _
    · exact (reports_listItems hscope _ posts).bind fun items => .pure _

/-! ### Templates of the page builder -/

theorem reports_expandTemplate (hscope : scope.Reports kind) (template : Post) :
    Reports kind (expandTemplate scope template) := by
  have hshown (inner : String) : Reports kind
      (let html := templateMarkup (templateKind template) inner
       if isBlankText html then pure (.error .empty)
       else do
         let _ ← (scope.host.cache.set (revisionKey template) (some (.string html))
           templateLifetime templateGroup : Cache.CacheM Cache.Store Bool)
         pure (.ok html) : RenderM (Except TemplateProblem String)) := by
    dsimp only
    split
    · exact .pure _
    · exact (reports_lift _).bind fun _ => .pure _
  simp only [expandTemplate]
  refine (reports_lift _).bind fun found => ?_
  split
  · exact .pure _
  · split
    · exact .pure _
    · split
      · exact (hscope.expandFor _ _).bind hshown
      · exact Reports.bind (.pure "") hshown

theorem pageTemplate_quiet : pageTemplate.Quiet kind := by
  refine .of_render (fun _ => rfl) fun scope hscope attrs content => ?_
  simp only [pageTemplate]
  split
  · exact .pure _
  · split
    · exact .pure _
    · refine (reports_needAsset _ _).bind fun _ => ?_
      split
      · exact Reports.bind (.pure _) fun shown => .pure _
      · split
        · exact Reports.bind (.pure _) fun shown => .pure _
        · exact ((Reports.pure _).insideTemplate (reports_expandTemplate hscope _)).bind
            fun shown => .pure _

/-- The renderers of every engine are quiet. -/
theorem builtin_quiet : ∀ renderer ∈ builtin, renderer.Quiet kind := by
  simp only [builtin, List.forall_mem_append, List.forall_mem_cons]
  refine ⟨fun renderer hfield => ?_, functionCall_quiet, link_quiet,
    MediaKind.audio.renderer_quiet, MediaKind.video.renderer_quiet, listing_quiet,
    pageTemplate_quiet, code_quiet, spoiler_quiet, embed_quiet,
    fun _ h => absurd h List.not_mem_nil⟩
  obtain ⟨source, -, rfl⟩ := List.mem_map.mp hfield
  exact source.renderer_quiet

/-- The renderers of every engine announce nothing when they are asked for their defaults. -/
theorem builtin_hasSilentDefaults : ∀ renderer ∈ builtin, renderer.HasSilentDefaults := by
  simp only [builtin, List.forall_mem_append, List.forall_mem_cons]
  refine ⟨fun renderer hfield => ?_, fun _ _ => rfl, fun _ _ => rfl, fun _ _ => rfl, fun _ _ => rfl,
    fun _ _ => rfl, fun _ _ => rfl, fun _ _ => rfl, fun _ _ => rfl, fun _ _ => rfl,
    fun _ h => absurd h List.not_mem_nil⟩
  obtain ⟨source, -, rfl⟩ := List.mem_map.mp hfield
  exact fun _ _ => rfl

end DynamicContent.Element
