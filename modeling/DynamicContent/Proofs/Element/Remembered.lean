/-
# What is remembered of a template

A template is remembered as what it expanded to, under a key that says which revision of which
template it is. The key says nothing of the rendering, although the expansion may depend on all of
it: on who asks for the page and how, on the current post, and on how deep the template is nested
and in which others.

So what one rendering shows of a template is what every later one shows, in its own wrapping, until
the entry is gone. Only what keeps a template from being expanded is asked anew each time, and
before the cache is. A rendering that is refused leaves the cache as it was.
-/

import DynamicContent.Element.PageTemplate
import DynamicContent.Proofs.Cache.ReadBack
import DynamicContent.Proofs.Engine.Likeness
import DynamicContent.Proofs.Engine.Setup

namespace DynamicContent.Element

/-! ## Parts of a rendering -/

/-- What keeps a template from being expanded where it stands, inside of other templates. -/
def barred? (request : Request) (templates : List Nat) (template : Post) : Option TemplateProblem :=
  if !isSupportedKind (templateKind template) then some .unsupportedKind
  else if request.currentPost = some template.id then some .recursive
  else if templates.contains template.id then some .recursive
  else none

/-- What is shown of a template once its source is expanded; it is written to the cache. -/
def keepExpansion (scope : Scope) (template : Post) (inner : String) :
    RenderM (Except TemplateProblem String) :=
  let html := templateMarkup (templateKind template) inner
  if isBlankText html then pure (.error .empty)
  else do
    let _ ← (scope.host.cache.set (revisionKey template) (some (.string html)) templateLifetime
      templateGroup : Cache.CacheM Cache.Store Bool)
    pure (.ok html)

/-- The world in which it is remembered what a template expands to. -/
def withExpansion (scope : Scope) (template : Post) (html : String) (w : World) : World :=
  { w with cache := (scope.host.cache.set (revisionKey template) (some (.string html))
      templateLifetime templateGroup w.cache).2 }

/-- What a template expands to if nothing is remembered of it. -/
def expandAfresh (scope : Scope) (template : Post) : RenderM (Except TemplateProblem String) :=
  match scope.host.site.templateSource template.id with
  | .error _ => pure (.error .failed)
  | .ok none => keepExpansion scope template ""
  | .ok (some source) => do keepExpansion scope template (← scope.expandText source)

/-- The world in which it is noted that a template is shown. -/
def noted (scope : Scope) (w : World) : World :=
  (RenderM.needAsset scope.request "weft-builder-frontend" w).2

/-- What comes of a template that attributes denote: what is shown of it, and the world behind. -/
def showing (scope : Scope) (template : Post) (w : World) :
    Except TemplateProblem String × World :=
  match barred? scope.request w.render.templates template with
  | some problem => (.error problem, noted scope w)
  | none =>
    let run := expandTemplate scope template
      ((noted scope w).nest w.render.depth (template.id :: w.render.templates))
    (run.1, { run.2 with render := run.2.render.leaveTemplate })

section

variable {scope : Scope} {template : Post} {attrs : Attributes} {content html : String} {w : World}
  {now : Int}

/-- Expanding a template begins with asking the cache. -/
theorem expandTemplate_run :
    expandTemplate scope template w =
      (match (scope.host.cache.get Json.string? (revisionKey template) templateGroup w.cache).1 with
        | some html => pure (.ok html)
        | none => expandAfresh scope template : RenderM (Except TemplateProblem String))
        { w with cache :=
          (scope.host.cache.get Json.string? (revisionKey template) templateGroup w.cache).2 } := by
  cases hsource : scope.host.site.templateSource template.id with
  | error cause =>
      simp only [expandTemplate, expandAfresh, hsource]
      rfl
  | ok source =>
      cases source <;>
      · simp only [expandTemplate, expandAfresh, hsource]
        rfl

/-- What the cache remembers of a template, given the entries. -/
def recalled? (host : Host) (template : Post) (store : Cache.Store) : Option String :=
  host.cache.remembered? Json.string? (revisionKey template) templateGroup store

/-- Asking the cache changes neither the rendering nor what is remembered. -/
theorem expandTemplate_asked (hbackend : scope.host.cache.backend = Cache.Store.backend now)
    (template : Post) (w : World) :
    ∃ cache, recalled? scope.host template cache.store =
        recalled? scope.host template w.cache.store ∧
      expandTemplate scope template w =
        (match recalled? scope.host template w.cache.store with
          | some html => pure (.ok html)
          | none => expandAfresh scope template : RenderM (Except TemplateProblem String))
          { w with cache } := by
  obtain ⟨counters, hget⟩ :=
    scope.host.cache.get_eq Json.string? (revisionKey template) templateGroup w.cache
  have hsame := Cache.Cache.remembered?_get hbackend Json.string? (revisionKey template)
    templateGroup w.cache
  refine ⟨_, hsame, ?_⟩
  rw [expandTemplate_run, hget]
  rfl

/-- To note that a template is shown changes nothing but the assets. -/
theorem noted_eq : noted scope w = { w with render := { w.render with
    assets := if scope.request.adminScreen then w.render.assets
      else w.render.assets.insert "weft-builder-frontend" () } } := by
  rw [noted]
  cases hadmin : scope.request.adminScreen <;>
  · simp only [RenderM.needAsset, hadmin]
    rfl

/-- A rendering of a template that attributes denote. -/
theorem render_eq (hname : Text.eqIgnoringCase (attrs.trimmed "name") "template" = true)
    (htemplate : template? scope.host.site attrs = .ok template) :
    pageTemplate.render attrs content scope w =
      (showTemplate attrs (showing scope template w).1, (showing scope template w).2) := by
  let entered := RenderM.insideTemplate template.id (pure (.error .recursive))
    (expandTemplate scope template) (noted scope w)
  have hrender : (noted scope w).render.templates = w.render.templates ∧
      (noted scope w).render.depth = w.render.depth := by
    rw [noted_eq]
    exact ⟨rfl, rfl⟩
  by_cases hkind : isSupportedKind (templateKind template) = true
  · by_cases hcurrent : scope.request.currentPost = some template.id
    · have hrun : pageTemplate.render attrs content scope w =
          (showTemplate attrs (.error .recursive), noted scope w) := by
        simp only [pageTemplate, hname, htemplate, hkind, hcurrent]
        rfl
      rw [hrun, showing, barred?, hkind, if_pos hcurrent]
      rfl
    · have hrun : pageTemplate.render attrs content scope w =
          (showTemplate attrs entered.1, entered.2) := by
        simp only [pageTemplate, hname, htemplate, hkind, if_neg hcurrent]
        rfl
      rw [hrun, showing, barred?, hkind, if_neg hcurrent, ← hrender.1, ← hrender.2]
      by_cases hmem : (noted scope w).render.templates.contains template.id = true
      · have hentered : entered = (.error .recursive, noted scope w) :=
          RenderM.insideTemplate_of_mem hmem
        rw [hentered, if_pos hmem]
        rfl
      · have hentered : entered =
            let run := expandTemplate scope template ((noted scope w).nest
              (noted scope w).render.depth (template.id :: (noted scope w).render.templates))
            (run.1, { run.2 with render := run.2.render.leaveTemplate }) :=
          RenderM.insideTemplate_of_not_mem hmem
        rw [hentered, if_neg hmem]
        rfl
  · have hrun : pageTemplate.render attrs content scope w =
        (showTemplate attrs (.error .unsupportedKind), noted scope w) := by
      simp only [pageTemplate, hname, htemplate, hkind]
      rfl
    rw [hrun, showing, barred?, Bool.eq_false_iff.mpr hkind]
    rfl

/-- An element with another name shows nothing. -/
theorem render_of_not_named
    (hname : Text.eqIgnoringCase (attrs.trimmed "name") "template" = false) :
    pageTemplate.render attrs content scope w = ("", w) := by
  simp only [pageTemplate, hname]
  rfl

/-- Attributes that denote no template show why they do not. -/
theorem render_of_error {problem : TemplateProblem}
    (hname : Text.eqIgnoringCase (attrs.trimmed "name") "template" = true)
    (hproblem : template? scope.host.site attrs = .error problem) :
    pageTemplate.render attrs content scope w = (showTemplate attrs (.error problem), w) := by
  simp only [pageTemplate, hname, hproblem]
  rfl

/-- What is expanded is blank, or it is written to the cache last. -/
theorem keepExpansion_cases (scope : Scope) (template : Post) (inner : String) (w : World) :
    keepExpansion scope template inner w = (.error .empty, w) ∨
      ∃ html, keepExpansion scope template inner w =
        (.ok html, withExpansion scope template html w) := by
  rw [keepExpansion]
  split
  · exact .inl rfl
  · exact .inr ⟨_, rfl⟩

/-- Where a template is expanded, one of four things happens: it is remembered; or it is not, and
its source cannot be had, or what it expands to is blank, or is written to the cache last. In the
first two cases nothing changes but the cache, which remembers the same of the template as before. -/
theorem expandTemplate_cases (hbackend : scope.host.cache.backend = Cache.Store.backend now)
    (template : Post) (w : World) :
    (∃ html cache, recalled? scope.host template w.cache.store = some html ∧
        recalled? scope.host template cache.store = some html ∧
        expandTemplate scope template w = (.ok html, { w with cache })) ∨
      recalled? scope.host template w.cache.store = none ∧
        ((∃ cause cache, scope.host.site.templateSource template.id = .error cause ∧
            recalled? scope.host template cache.store = none ∧
            expandTemplate scope template w = (.error .failed, { w with cache })) ∨
          (∃ source, scope.host.site.templateSource template.id = .ok source) ∧
            ((∃ v, expandTemplate scope template w = (.error .empty, v)) ∨
              ∃ html v, expandTemplate scope template w =
                (.ok html, withExpansion scope template html v))) := by
  obtain ⟨cache, hsame, hrun⟩ := expandTemplate_asked hbackend template w
  cases hrecalled : recalled? scope.host template w.cache.store with
  | some html =>
      rw [hrecalled] at hrun hsame
      exact .inl ⟨html, cache, rfl, hsame, hrun⟩
  | none =>
      rw [hrecalled] at hrun hsame
      refine .inr ⟨rfl, ?_⟩
      cases hsource : scope.host.site.templateSource template.id with
      | error cause =>
          simp only [expandAfresh, hsource] at hrun
          exact .inl ⟨cause, cache, rfl, hsame, hrun⟩
      | ok source =>
          refine .inr ⟨⟨source, rfl⟩, ?_⟩
          have hkept : ∃ inner v,
              expandTemplate scope template w = keepExpansion scope template inner v := by
            simp only [expandAfresh, hsource] at hrun
            cases source with
            | none => exact ⟨"", _, hrun⟩
            | some source => exact ⟨_, _, hrun⟩
          obtain ⟨inner, v, hkept⟩ := hkept
          rw [hkept]
          rcases keepExpansion_cases scope template inner v with hempty | ⟨html, hstored⟩
          · exact .inl ⟨v, hempty⟩
          · exact .inr ⟨html, v, hstored⟩

/-- What a template is shown as is remembered of it, if the cache can hold it. -/
theorem recalled?_of_expandTemplate (hbackend : scope.host.cache.backend = Cache.Store.backend now)
    (hshown : (expandTemplate scope template w).1 = .ok html)
    (hhold : (expandTemplate scope template w).2.cache.store.CanHold now templateLifetime
      (Cache.storedKey scope.host.cache.start templateGroup (revisionKey template))) :
    recalled? scope.host template (expandTemplate scope template w).2.cache.store = some html := by
  rcases expandTemplate_cases hbackend template w with ⟨html', cache, -, hsame, hrun⟩ |
    ⟨-, ⟨cause, cache, -, -, hrun⟩ | ⟨-, ⟨v, hrun⟩ | ⟨html', v, hrun⟩⟩⟩
  · rw [hrun] at hshown ⊢
    obtain rfl : html' = html := Except.ok.inj hshown
    exact hsame
  · rw [hrun] at hshown
    cases hshown
  · rw [hrun] at hshown
    cases hshown
  · rw [hrun] at hshown hhold ⊢
    obtain rfl : html' = html := Except.ok.inj hshown
    have hdeep (html : String) : (Json.string html).depth + 1 < Json.depthLimit := by
      simp [Json.depth, Json.depthLimit]
    exact Cache.Cache.remembered?_set hbackend trivial (hdeep _) hhold

/-- If a template fails, there is no source, and nothing was or is remembered of it. -/
theorem recalled?_of_failed (hbackend : scope.host.cache.backend = Cache.Store.backend now)
    (hfailed : (expandTemplate scope template w).1 = .error .failed) :
    (∃ cause, scope.host.site.templateSource template.id = .error cause) ∧
      recalled? scope.host template w.cache.store = none ∧
      recalled? scope.host template (expandTemplate scope template w).2.cache.store = none := by
  rcases expandTemplate_cases hbackend template w with ⟨html, cache, -, -, hrun⟩ |
    ⟨hbefore, ⟨cause, cache, hsource, hbehind, hrun⟩ | ⟨-, ⟨v, hrun⟩ | ⟨html, v, hrun⟩⟩⟩
  · rw [hrun] at hfailed
    cases hfailed
  · rw [hrun]
    exact ⟨⟨cause, hsource⟩, hbefore, hbehind⟩
  · rw [hrun] at hfailed
    cases hfailed
  · rw [hrun] at hfailed
    cases hfailed

/-- What is remembered of a template is what it comes to, and the cache apart nothing changes. -/
theorem expandTemplate_of_recalled (hbackend : scope.host.cache.backend = Cache.Store.backend now)
    (h : recalled? scope.host template w.cache.store = some html) :
    ∃ cache, expandTemplate scope template w = (.ok html, { w with cache }) := by
  rcases expandTemplate_cases hbackend template w with ⟨html', cache, hfound, -, hrun⟩ | ⟨hnone, -⟩
  · obtain rfl : html' = html := Option.some.inj (hfound.symm.trans h)
    exact ⟨cache, hrun⟩
  · rw [hnone] at h
    cases h

/-- A template without source of which nothing is remembered cannot be expanded, and the cache apart
nothing changes. -/
theorem expandTemplate_of_error (hbackend : scope.host.cache.backend = Cache.Store.backend now)
    (h : recalled? scope.host template w.cache.store = none) {cause : TemplateError}
    (hsource : scope.host.site.templateSource template.id = .error cause) :
    ∃ cache, expandTemplate scope template w = (.error .failed, { w with cache }) := by
  rcases expandTemplate_cases hbackend template w with ⟨html, cache, hfound, -, -⟩ |
    ⟨-, ⟨_, cache, -, -, hrun⟩ | ⟨⟨source, hfound⟩, -⟩⟩
  · rw [h] at hfound
    cases hfound
  · exact ⟨cache, hrun⟩
  · rw [hsource] at hfound
    cases hfound

/-! ## One rendering after another -/

/-- What is barred shows the reason. -/
theorem showing_of_barred {problem : TemplateProblem}
    (hbarred : barred? scope.request w.render.templates template = some problem) :
    showing scope template w = (.error problem, noted scope w) := by
  rw [showing, hbarred]

theorem ne_failed_of_barred {problem : TemplateProblem}
    (hbarred : barred? scope.request w.render.templates template = some problem) :
    problem ≠ .failed := by
  unfold barred? at hbarred
  split_ifs at hbarred <;> rw [← Option.some.inj hbarred] <;> decide

/-- What is not barred is expanded among the templates that are being rendered. -/
theorem showing_of_free (hfree : barred? scope.request w.render.templates template = none) :
    showing scope template w =
      let run := expandTemplate scope template
        ((noted scope w).nest w.render.depth (template.id :: w.render.templates))
      (run.1, { run.2 with render := run.2.render.leaveTemplate }) := by
  rw [showing, hfree]

/-- What is remembered of a template is shown if it is not barred, and nothing is noted but that a
template was shown. -/
theorem showing_of_recalled (hbackend : scope.host.cache.backend = Cache.Store.backend now)
    (hfree : barred? scope.request w.render.templates template = none)
    (h : recalled? scope.host template w.cache.store = some html) :
    ∃ cache, showing scope template w = (.ok html, { noted scope w with cache }) := by
  obtain ⟨cache, hrun⟩ := expandTemplate_of_recalled
    (w := (noted scope w).nest w.render.depth (template.id :: w.render.templates)) hbackend
    (by rwa [noted_eq])
  rw [showing_of_free hfree, hrun, noted_eq]
  exact ⟨cache, rfl⟩

/-- Without a source and without anything remembered of it, a template is not shown. -/
theorem showing_of_error (hbackend : scope.host.cache.backend = Cache.Store.backend now)
    (hfree : barred? scope.request w.render.templates template = none)
    (h : recalled? scope.host template w.cache.store = none) {cause : TemplateError}
    (hsource : scope.host.site.templateSource template.id = .error cause) :
    ∃ cache, showing scope template w = (.error .failed, { noted scope w with cache }) := by
  obtain ⟨cache, hrun⟩ := expandTemplate_of_error
    (w := (noted scope w).nest w.render.depth (template.id :: w.render.templates)) hbackend
    (by rwa [noted_eq]) hsource
  rw [showing_of_free hfree, hrun, noted_eq]
  exact ⟨cache, rfl⟩

/-- What is shown of a template is remembered of it, if the cache can hold it. -/
theorem recalled?_of_shown (hbackend : scope.host.cache.backend = Cache.Store.backend now)
    (hshown : (showing scope template w).1 = .ok html)
    (hhold : (showing scope template w).2.cache.store.CanHold now templateLifetime
      (Cache.storedKey scope.host.cache.start templateGroup (revisionKey template))) :
    recalled? scope.host template (showing scope template w).2.cache.store = some html := by
  cases hbarred : barred? scope.request w.render.templates template with
  | some problem =>
      rw [showing_of_barred hbarred] at hshown
      cases hshown
  | none =>
      rw [showing_of_free hbarred] at hshown hhold ⊢
      exact recalled?_of_expandTemplate hbackend hshown hhold

/-- If a template could not be expanded, there is no source, and nothing was or is remembered of
it. -/
theorem recalled?_of_not_shown (hbackend : scope.host.cache.backend = Cache.Store.backend now)
    (hfailed : (showing scope template w).1 = .error .failed) :
    barred? scope.request w.render.templates template = none ∧
      (∃ cause, scope.host.site.templateSource template.id = .error cause) ∧
      recalled? scope.host template w.cache.store = none ∧
      recalled? scope.host template (showing scope template w).2.cache.store = none := by
  cases hbarred : barred? scope.request w.render.templates template with
  | some problem =>
      rw [showing_of_barred hbarred] at hfailed
      exact absurd (Except.error.inj hfailed) (ne_failed_of_barred hbarred)
  | none =>
      rw [showing_of_free hbarred] at hfailed ⊢
      obtain ⟨hsource, hbefore, hbehind⟩ := recalled?_of_failed hbackend hfailed
      rw [noted_eq] at hbefore
      exact ⟨rfl, hsource, hbefore, hbehind⟩

end

/-- The only page of a site, which is a template. -/
def onlyTemplate : Post := ⟨5, templateType, "", "", "", "", "publish", 0, none, none, [], []⟩

/-- A site with one page, which is a template. -/
def templateSite (source : String) : Site :=
  { Site.empty with
    builderActive := true
    posts := [onlyTemplate]
    templates := [(5, ⟨source, false⟩)] }

/-- An engine with the builtin parts alone for a site with one template. -/
def templateEngine (source : String) : Engine :=
  (Setup.plain 0).engine (templateSite source) ⟨Cache.Store.backend 0, ""⟩

theorem templateEngine_host (source : String) : (templateEngine source).host =
    (Setup.plain 0).host (templateSite source) ⟨Cache.Store.backend 0, ""⟩ := Setup.engine_host

/-- The scope of a page that shows the template to somebody with a query. -/
def templateScope (source : String) (query : SortedMap String) : Scope :=
  (templateEngine source).scope (templateEngine source).outermost
    { Request.anonymous with query }

theorem templateScope_host (source : String) (query : SortedMap String) :
    (templateScope source query).host =
      (Setup.plain 0).host (templateSite source) ⟨Cache.Store.backend 0, ""⟩ := by
  rw [templateScope, Engine.scope, templateEngine_host]

/-- A template that was shown somewhere is shown with the same content everywhere else, in the
wrapping that is asked for there, as long as the entry is there. So it is shown there as from an
empty cache, if it would have the same content there anyway. What keeps it from being expanded in
one of the two places is of no consequence in the other, and neither is a source that cannot be
had. -/
theorem render_after_render {scope₁ scope₂ : Scope} {template : Post} {attrs₁ attrs₂ : Attributes}
    {now : Int} (hbackend : scope₁.host.cache.backend = Cache.Store.backend now)
    (hhost : scope₂.host = scope₁.host)
    (hname₁ : Text.eqIgnoringCase (attrs₁.trimmed "name") "template" = true)
    (hname₂ : Text.eqIgnoringCase (attrs₂.trimmed "name") "template" = true)
    (htemplate₁ : template? scope₁.host.site attrs₁ = .ok template)
    (htemplate₂ : template? scope₁.host.site attrs₂ = .ok template)
    (content₁ content₂ : String) (w₁ w₂ : World) :
    let left := (pageTemplate.render attrs₁ content₁ scope₁ w₁).2.cache.store
    let html₂ (store : Cache.Store) :=
      (pageTemplate.render attrs₂ content₂ scope₂ (w₂.withStore store)).1
    let barred₁ := barred? scope₁.request w₁.render.templates template
    let barred₂ := barred? scope₂.request w₂.render.templates template
    (∀ problem, barred₁ = some problem → left = w₁.cache.store) ∧
      (∀ problem, barred₂ = some problem →
        ∀ store, html₂ store = finishMarkup .post problem.message attrs₂) ∧
      ((showing scope₁ template w₁).1 = .error .failed → barred₂ = none →
        ∀ store, recalled? scope₁.host template store = none → html₂ left = html₂ store) ∧
      ∀ html, (showing scope₁ template w₁).1 = .ok html →
        left.CanHold now templateLifetime
          (Cache.storedKey scope₁.host.cache.start templateGroup (revisionKey template)) →
        barred₂ = none →
          html₂ left = wrap html attrs₂ ∧
            ∀ store, (showing scope₂ template (w₂.withStore store)).1 = .ok html →
              html₂ left = html₂ store := by
  intro left html₂ barred₁ barred₂
  have hrender (store : Cache.Store) :
      html₂ store = showTemplate attrs₂ (showing scope₂ template (w₂.withStore store)).1 := by
    change (pageTemplate.render attrs₂ content₂ scope₂ (w₂.withStore store)).1 = _
    rw [render_eq hname₂ (hhost ▸ htemplate₂)]
  have hleft : left = (showing scope₁ template w₁).2.cache.store := by
    change (pageTemplate.render attrs₁ content₁ scope₁ w₁).2.cache.store = _
    rw [render_eq hname₁ htemplate₁]
  have hshow {store : Cache.Store} {html : String} (hfree : barred₂ = none)
      (hrecalled : recalled? scope₁.host template store = some html) :
      html₂ store = wrap html attrs₂ := by
    have hfree : barred? scope₂.request (w₂.withStore store).render.templates template = none :=
      hfree
    obtain ⟨cache, hshowing⟩ :=
      showing_of_recalled (hhost ▸ hbackend) hfree (hhost ▸ hrecalled)
    rw [hrender, hshowing, showTemplate]
  have hfail {store : Cache.Store} {cause : TemplateError} (hfree : barred₂ = none)
      (hnone : recalled? scope₁.host template store = none)
      (hsource : scope₁.host.site.templateSource template.id = .error cause) :
      html₂ store = finishMarkup .post TemplateProblem.failed.message attrs₂ := by
    have hfree : barred? scope₂.request (w₂.withStore store).render.templates template = none :=
      hfree
    obtain ⟨cache, hshowing⟩ :=
      showing_of_error (hhost ▸ hbackend) hfree (hhost ▸ hnone) (hhost ▸ hsource)
    rw [hrender, hshowing, showTemplate]
  clear_value left html₂
  refine ⟨fun problem hbarred => ?_, fun problem hbarred store => ?_,
    fun hfailed hfree store hnone => ?_, fun html hshown hhold hfree => ?_⟩
  · rw [hleft, showing_of_barred hbarred, noted_eq]
  · have hbarred : barred? scope₂.request (w₂.withStore store).render.templates template =
      some problem := hbarred
    rw [hrender, showing_of_barred hbarred, showTemplate]
  · obtain ⟨-, ⟨cause, hsource⟩, -, hforgotten⟩ := recalled?_of_not_shown hbackend hfailed
    rw [← hleft] at hforgotten
    rw [hfail hfree hforgotten hsource, hfail hfree hnone hsource]
  · rw [hleft] at hhold
    have hrecalled := recalled?_of_shown hbackend hshown hhold
    rw [← hleft] at hrecalled
    refine ⟨hshow hfree hrecalled, fun store hsame => ?_⟩
    rw [hshow hfree hrecalled, hrender, hsame, showTemplate]

/-- A template that shows what the query says shows the first query to everybody. -/
theorem render_after_render_echo :
    let scope (value : String) := templateScope "\x7bget:a\x7d" [("a", value)]
    let attrs := Attributes.ofTexts [("name", "template"), ("id", "5"), ("after", "!")]
    let w := { World.start (.memory (.empty 10)) with render := .start 10 }
    let left := (pageTemplate.render attrs "" (scope "X") w).2.cache.store
    (pageTemplate.render attrs "" (scope "Y") (w.withStore left)).1 = "X!" := by
  intro scope attrs w left
  have hbackend : (scope "X").host.cache.backend = Cache.Store.backend 0 := by
    rw [templateScope_host]
    rfl
  have hhost : (scope "Y").host = (scope "X").host := by
    rw [templateScope_host, templateScope_host]
  have hname : Text.eqIgnoringCase (attrs.trimmed "name") "template" = true := by decide +kernel
  have hid : positiveId? attrs "id" = some 5 := by decide +kernel
  have htemplate : template? (scope "X").host.site attrs = .ok onlyTemplate := by
    rw [templateScope_host, template?, hid]
    rfl
  have hshown : (showing (scope "X") onlyTemplate w).1 = .ok "X" := by decide +kernel
  have hhold : left.CanHold 0 templateLifetime
      (Cache.storedKey (scope "X").host.cache.start templateGroup (revisionKey onlyTemplate)) := by
    decide +kernel
  have hfree : barred? (scope "Y").request w.render.templates onlyTemplate = none := by
    decide +kernel
  have hwrap : wrap "X" attrs = "X!" := by decide +kernel
  have hlaw := render_after_render hbackend hhost hname hname htemplate htemplate "" "" w w
  exact (hlaw.2.2.2 "X" hshown hhold hfree).1.trans hwrap

/-- It is not what somebody else would be shown who asked first. -/
theorem render_after_render_differs :
    let scope (value : String) := templateScope "\x7bget:a\x7d" [("a", value)]
    let attrs := Attributes.ofTexts [("name", "template"), ("id", "5")]
    let empty : Cache.Store := .memory (.empty 10)
    let w := { World.start empty with render := .start 10 }
    let left := (pageTemplate.render attrs "" (scope "X") w).2.cache.store
    (pageTemplate.render attrs "" (scope "Y") (w.withStore left)).1 ≠
      (pageTemplate.render attrs "" (scope "Y") (w.withStore empty)).1 := by
  decide +kernel

end DynamicContent.Element
