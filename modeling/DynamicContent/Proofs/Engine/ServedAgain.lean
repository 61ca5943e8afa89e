/-
# Templates that are rendered again

An element that shows a template is rendered twice for the same request, and nothing is rendered in
between. Its attributes come to the same both times. What is shown of the template is remembered the
first time and has the same markup the second time. What is not remembered is which assets the
elements in the template need: the second time they are not rendered and do not ask for them, and
the page is told of none but the one that goes with every template.
-/

import DynamicContent.Proofs.Element.PlainAttributes
import DynamicContent.Proofs.Element.Remembered

namespace DynamicContent

/-! ## A template -/

namespace Element

variable {scope : Scope} {template : Post} {attrs : Attributes} {content : String} {w w' : World}
  {now : Int}

/-- A template that is not barred can be empty, or else fails for want of a source. -/
theorem eq_failed_of_free {problem : TemplateProblem}
    (hbackend : scope.host.cache.backend = Cache.Store.backend now)
    (hfree : barred? scope.request w.render.templates template = none)
    (hproblem : (showing scope template w).1 = .error problem) (hempty : problem ≠ .empty) :
    problem = .failed := by
  rw [showing_of_free hfree] at hproblem
  rcases expandTemplate_cases hbackend template
      ((noted scope w).nest w.render.depth (template.id :: w.render.templates)) with
    ⟨html, cache, -, -, hrun⟩ | ⟨-, ⟨cause, cache, -, -, hrun⟩ | ⟨-, ⟨v, hrun⟩ | ⟨html, v, hrun⟩⟩⟩
  · rw [hrun] at hproblem
    cases hproblem
  · rw [hrun] at hproblem
    exact (Except.error.inj hproblem).symm
  · rw [hrun] at hproblem
    exact absurd (Except.error.inj hproblem).symm hempty
  · rw [hrun] at hproblem
    cases hproblem

/-- A template that was shown is shown again with the same content, and nothing but the asset of
templates is noted then. One that was not shown for another reason than that it is empty is not
shown again, for the same reason and with the same assets. -/
theorem showing_again (hbackend : scope.host.cache.backend = Cache.Store.backend now)
    (template : Post) (hrender : w'.render = w.render)
    (hstore : w'.cache.store = (showing scope template w).2.cache.store) :
    (∀ problem, (showing scope template w).1 = .error problem → problem ≠ .empty →
      (showing scope template w').1 = .error problem ∧
        (showing scope template w').2.render = (showing scope template w).2.render) ∧
      ∀ html, (showing scope template w).1 = .ok html →
        (showing scope template w).2.cache.store.CanHold now templateLifetime
          (Cache.storedKey scope.host.cache.start templateGroup (revisionKey template)) →
        (showing scope template w').1 = .ok html ∧
          (showing scope template w').2.render = (noted scope w).render := by
  have hnoted : (noted scope w').render = (noted scope w).render := by
    rw [noted_eq, noted_eq, hrender]
  constructor
  · intro problem hproblem hempty
    cases hbarred : barred? scope.request w.render.templates template with
    | some reason =>
        rw [showing_of_barred hbarred] at hproblem ⊢
        rw [← hrender] at hbarred
        rw [showing_of_barred hbarred]
        exact ⟨hproblem, hnoted⟩
    | none =>
        obtain rfl := eq_failed_of_free hbackend hbarred hproblem hempty
        obtain ⟨-, ⟨cause, hsource⟩, hbefore, hbehind⟩ := recalled?_of_not_shown hbackend hproblem
        rw [← hstore] at hbehind
        obtain ⟨cache, hfirst⟩ := showing_of_error hbackend hbarred hbefore hsource
        rw [← hrender] at hbarred
        obtain ⟨cache', hagain⟩ := showing_of_error hbackend hbarred hbehind hsource
        rw [hfirst, hagain]
        exact ⟨rfl, hnoted⟩
  · intro html hshown hhold
    have hrecalled := recalled?_of_shown hbackend hshown hhold
    rw [← hstore] at hrecalled
    cases hbarred : barred? scope.request w.render.templates template with
    | some reason =>
        rw [showing_of_barred hbarred] at hshown
        cases hshown
    | none =>
        rw [← hrender] at hbarred
        obtain ⟨cache, hagain⟩ := showing_of_recalled hbackend hbarred hrecalled
        rw [hagain]
        exact ⟨rfl, hnoted⟩

/-- The same for the element that shows a template; what denotes no template changes nothing. -/
theorem render_again (scope : Scope) (attrs : Attributes) (content : String)
    (hbackend : scope.host.cache.backend = Cache.Store.backend now)
    (hrender : w'.render = w.render)
    (hstore : w'.cache.store = (pageTemplate.render attrs content scope w).2.cache.store) :
    let run := pageTemplate.render attrs content scope w
    let again := pageTemplate.render attrs content scope w'
    let same := again.1 = run.1 ∧ again.2.render = run.2.render
    let named := Text.eqIgnoringCase (attrs.trimmed "name") "template"
    (named = false → same) ∧
      (∀ problem, template? scope.host.site attrs = .error problem → same) ∧
      ∀ template, named = true → template? scope.host.site attrs = .ok template →
        (∀ problem, (showing scope template w).1 = .error problem → problem ≠ .empty → same) ∧
          ∀ html, (showing scope template w).1 = .ok html →
            run.2.cache.store.CanHold now templateLifetime
              (Cache.storedKey scope.host.cache.start templateGroup (revisionKey template)) →
            again.1 = run.1 ∧ again.2.render = (noted scope w).render := by
  intro run again same named
  have hnot (hname : named = false) : same := by
    have hrun : run = ("", w) := render_of_not_named hname
    have hagain : again = ("", w') := render_of_not_named hname
    clear_value run again
    subst hrun hagain
    exact ⟨rfl, hrender⟩
  refine ⟨hnot, fun problem hproblem => ?_, fun template hname htemplate => ?_⟩
  · cases hname : named with
    | false => exact hnot hname
    | true =>
        have hrun : run = (showTemplate attrs (.error problem), w) := render_of_error hname hproblem
        have hagain : again = (showTemplate attrs (.error problem), w') :=
          render_of_error hname hproblem
        clear_value run again
        subst hrun hagain
        exact ⟨rfl, hrender⟩
  · have hrun :
        run = (showTemplate attrs (showing scope template w).1, (showing scope template w).2) :=
      render_eq hname htemplate
    have hagain :
        again = (showTemplate attrs (showing scope template w').1, (showing scope template w').2) :=
      render_eq hname htemplate
    rw [render_eq hname htemplate] at hstore
    dsimp only at hstore
    clear_value run again
    subst hrun hagain
    dsimp only
    obtain ⟨hproblem, hhtml⟩ := showing_again hbackend template hrender hstore
    constructor
    · intro problem hfirst hempty
      obtain ⟨hshown, hstate⟩ := hproblem problem hfirst hempty
      exact ⟨by rw [hshown, hfirst], hstate⟩
    · intro html hfirst hhold
      obtain ⟨hshown, hstate⟩ := hhtml html hfirst hhold
      exact ⟨by rw [hshown, hfirst], hstate⟩

end Element

/-! ## An element by itself -/

/-- The world in which an element begins that is rendered by itself. -/
def World.beginElement (bound : Nat) (w : World) : World :=
  { w with render := { RenderState.start bound with depth := 1 } }

namespace Engine

/-- What is available to the text of an element that is rendered by itself. -/
def belowOutermost (engine : Engine) : Nested := engine.nested (engine.host.limits.maxDepth - 1)

/-- What is done with the attributes of an element before its renderer gets them. -/
def prepare (engine : Engine) (inner : Nested) (request : Request) (renderer : Renderer)
    (tag : String) (attrs : Attributes) (content : String) : RenderM Attributes := do
  engine.announce .beforeOutput tag attrs content
  let defaults ← renderer.defaults (engine.scope inner request)
  engine.normalize inner request attrs defaults tag content

/-- Attributes come to others if they do so in every world, and nothing is done then but that
something is written down. -/
def ComesTo (engine : Engine) (request : Request) (renderer : Renderer) (tag : String)
    (attrs : Attributes) (content : String) (normal : Attributes) : Prop :=
  ∀ w, ∃ f, engine.prepare engine.belowOutermost request renderer tag attrs content w =
    (normal, w.record f)

variable {engine : Engine} {request : Request} {renderer : Renderer} {tag content : String}
  {attrs : Attributes}

/-- Plain attributes come to themselves, with the defaults if these are plain too. -/
theorem comesTo_of_isPlain {defaults : Attributes} (h : attrs.IsPlain)
    (hgiven : renderer.defaults (engine.scope engine.belowOutermost request) = pure defaults)
    (hdefaults : defaults.IsPlain) :
    engine.ComesTo request renderer tag attrs content (attrs.withDefaults defaults) := by
  intro w
  have hprocess : (attrs.withDefaults defaults).processText
      (Element.processText (engine.resolveWith engine.belowOutermost request)
        fun name param => engine.answer engine.belowOutermost request name param) =
      pure (attrs.withDefaults defaults) :=
    (h.withDefaults hdefaults).processText_eq fun s hs => Element.processText_of_plain _ _ hs
  simp only [prepare, normalize, hgiven, pure_bind, hprocess]
  exact ⟨fun r => { r with announced := r.announced ++
    [engine.hooks.announcement ⟨.beforeOutput, tag, attrs, content⟩] ++
    [engine.hooks.announcement ⟨.beforeNormalize, tag, attrs, content⟩] ++
    [engine.hooks.announcement ⟨.afterNormalize, tag, _, content⟩] }, rfl⟩

/-- Where there is a level at all, a rendering from its beginning is one on the first level. -/
theorem fromStart_deeper (hdepth : 0 < engine.host.limits.maxDepth) (granted : RenderM String)
    (w : World) : engine.fromStart (RenderM.deeper (pure "") granted) w =
      let run := granted (w.beginElement engine.host.limits.maxDepth)
      (⟨run.1, run.2.render.assetList⟩, { run.2 with render := run.2.render.leave }) := by
  have hdeeper : RenderM.deeper (pure "") granted
      { w with render := .start engine.host.limits.maxDepth } =
        let run := granted (w.beginElement engine.host.limits.maxDepth)
        (run.1, { run.2 with render := run.2.render.leave }) := RenderM.deeper_of_free hdepth
  have hstart : engine.fromStart (RenderM.deeper (pure "") granted) w =
      let run := RenderM.deeper (pure "") granted
        { w with render := .start engine.host.limits.maxDepth }
      (⟨run.1, run.2.render.assetList⟩, run.2) := rfl
  rw [hstart, hdeeper]
  rfl

/-- An element that is rendered by itself is prepared and then rendered, on the first level. -/
theorem renderFragment_eq (request : Request) (hdepth : 0 < engine.host.limits.maxDepth)
    (htag : (engine.hooks.filterAttributes attrs content).typeTag? = some tag)
    (hrenderer : engine.renderers.find? tag = some renderer) (w : World) :
    let prepared := engine.prepare engine.belowOutermost request renderer tag
      (engine.hooks.filterAttributes attrs content) content
      (w.beginElement engine.host.limits.maxDepth)
    let run := renderer.render prepared.1 content (engine.scope engine.belowOutermost request)
      prepared.2
    (engine.renderFragment request attrs content w).1 =
        ⟨engine.hooks.filterOutput tag prepared.1 content run.1, run.2.render.assetList⟩ ∧
      (engine.renderFragment request attrs content w).2.cache.store = run.2.cache.store := by
  intro prepared run
  have hnested : engine.outermost.render request attrs content =
      RenderM.deeper (pure "") (engine.render engine.belowOutermost request attrs content) := by
    obtain ⟨n, hbound⟩ := Nat.exists_eq_add_of_lt hdepth
    rw [outermost, belowOutermost, hbound]
    rfl
  have hrender : engine.render engine.belowOutermost request attrs content
      (w.beginElement engine.host.limits.maxDepth) =
        (do engine.announce .afterOutput tag prepared.1 content
            RenderM.count "weft_render_total" [("type", tag)]
            pure (engine.hooks.filterOutput tag prepared.1 content run.1) : RenderM String)
          run.2 := by
    unfold render
    simp only [htag, hrenderer]
    rfl
  rw [renderFragment, hnested, fromStart_deeper hdepth, hrender]
  exact ⟨rfl, rfl⟩

/-- Attributes that come to others are rendered as these are, in a world on the first level. -/
theorem renderFragment_of_comesTo (hdepth : 0 < engine.host.limits.maxDepth)
    (htag : (engine.hooks.filterAttributes attrs content).typeTag? = some tag)
    (hrenderer : engine.renderers.find? tag = some renderer) {normal : Attributes}
    (hnormal : engine.ComesTo request renderer tag (engine.hooks.filterAttributes attrs content)
      content normal) (w : World) :
    ∃ v : World, v = (engine.prepare engine.belowOutermost request renderer tag
        (engine.hooks.filterAttributes attrs content) content
        (w.beginElement engine.host.limits.maxDepth)).2 ∧
      v.render = (w.beginElement engine.host.limits.maxDepth).render ∧
      v.cache.store = w.cache.store ∧
      let run := renderer.render normal content (engine.scope engine.belowOutermost request) v
      (engine.renderFragment request attrs content w).1 =
          ⟨engine.hooks.filterOutput tag normal content run.1, run.2.render.assetList⟩ ∧
        (engine.renderFragment request attrs content w).2.cache.store = run.2.cache.store := by
  obtain ⟨f, hprepare⟩ := hnormal (w.beginElement engine.host.limits.maxDepth)
  have hfragment := renderFragment_eq request hdepth htag hrenderer w
  rw [hprepare] at hfragment ⊢
  exact ⟨_, rfl, rfl, rfl, hfragment⟩

/-- A template that is rendered a second time for the same request has the same markup. It has the
same assets just if nothing in it needed any the first time, besides the asset that goes with every
template. What is not shown, and is not empty, comes to exactly the same a second time. -/
theorem renderFragment_again (request : Request) (hdepth : 0 < engine.host.limits.maxDepth)
    {now : Int} (hbackend : engine.host.cache.backend = Cache.Store.backend now)
    (htag : (engine.hooks.filterAttributes attrs content).typeTag? = some tag)
    (hrenderer : engine.renderers.find? tag = some Element.pageTemplate) {normal : Attributes}
    (hnormal : engine.ComesTo request Element.pageTemplate tag
      (engine.hooks.filterAttributes attrs content) content normal) (w : World) :
    let first := engine.renderFragment request attrs content w
    let again := (engine.renderFragment request attrs content first.2).1
    let begun := (engine.prepare engine.belowOutermost request Element.pageTemplate tag
      (engine.hooks.filterAttributes attrs content) content
      (w.beginElement engine.host.limits.maxDepth)).2
    let showing (template : Post) :=
      (Element.showing (engine.scope engine.belowOutermost request) template begun).1
    let named := Text.eqIgnoringCase (normal.trimmed "name") "template"
    let own := if request.adminScreen then [] else ["weft-builder-frontend"]
    (named = false → again = first.1) ∧
      (∀ problem, Element.template? engine.host.site normal = .error problem → again = first.1) ∧
      ∀ template, named = true → Element.template? engine.host.site normal = .ok template →
        (∀ problem, showing template = .error problem → problem ≠ .empty → again = first.1) ∧
          ∀ html, showing template = .ok html →
            first.2.cache.store.CanHold now Element.templateLifetime (Cache.storedKey
              engine.host.cache.start Element.templateGroup (Element.revisionKey template)) →
            again.html = first.1.html ∧ again.assets = own ∧
              (again = first.1 ↔ first.1.assets = own) := by
  intro first again begun showing named own
  obtain ⟨v, hv, hrender, -, hfirst, hstore⟩ :=
    renderFragment_of_comesTo hdepth htag hrenderer hnormal w
  obtain ⟨v', -, hrender', hstore', hagain, -⟩ :=
    renderFragment_of_comesTo hdepth htag hrenderer hnormal first.2
  rw [hstore] at hstore'
  obtain ⟨hother, hproblem, hshown⟩ := Element.render_again
    (engine.scope engine.belowOutermost request) normal content hbackend
    (hrender'.trans hrender.symm) hstore'
  have hown : (Element.noted (engine.scope engine.belowOutermost request) v).render.assetList =
      own := by
    rw [Element.noted_eq, hrender]
    cases hadmin : request.adminScreen <;> simp only [own, scope, hadmin] <;> rfl
  obtain rfl : v = begun := hv
  have hfirst : first.1 = _ := hfirst
  have hstore : first.2.cache.store = _ := hstore
  have hagain : again = _ := hagain
  clear_value first again begun
  -- What the renderer does is known from here on; it must not be unfolded any more.
  generalize Element.pageTemplate.render normal content
    (engine.scope engine.belowOutermost request) begun = run at *
  generalize Element.pageTemplate.render normal content
    (engine.scope engine.belowOutermost request) v' = run' at *
  have hsame (h : run'.1 = run.1 ∧ run'.2.render = run.2.render) : again = first.1 := by
    rw [hagain, hfirst, h.1, h.2]
  refine ⟨fun hname => hsame (hother hname), fun problem herror => hsame (hproblem problem herror),
    fun template hname htemplate => ?_⟩
  obtain ⟨hrefused, hhtml⟩ := hshown template hname htemplate
  refine ⟨fun problem hreason hempty => hsame (hrefused problem hreason hempty),
    fun html hfound hhold => ?_⟩
  rw [hstore] at hhold
  obtain ⟨hcontent, hstate⟩ := hhtml html hfound hhold
  rw [hcontent, hstate, hown] at hagain
  rw [hagain, hfirst, Fragment.mk.injEq]
  exact ⟨rfl, rfl, and_iff_right rfl |>.trans eq_comm⟩

/-- A template with hidden text in it is rendered with the script that shows the text, and a second
time without it. -/
theorem renderFragment_again_spoiler :
    let engine := Element.templateEngine "[weft type=spoiler]a[/weft]"
    let attrs := Attributes.ofTexts [("type", "builder"), ("id", "5")]
    let first := engine.renderFragment Request.anonymous attrs ""
      (World.start (.memory (.empty 10)))
    let again := (engine.renderFragment Request.anonymous attrs "" first.2).1
    first.1.assets = ["weft-builder-frontend", "weft-spoiler"] ∧ again.html = first.1.html ∧
      again.assets = ["weft-builder-frontend"] ∧ again ≠ first.1 := by
  intro engine attrs
  dsimp only
  have hhost := Element.templateEngine_host "[weft type=spoiler]a[/weft]"
  have hdepth : 0 < engine.host.limits.maxDepth := by
    rw [hhost]
    decide
  have hbackend : engine.host.cache.backend = Cache.Store.backend 0 := by
    rw [hhost]
    rfl
  have hfilter : engine.hooks.filterAttributes attrs "" = attrs := by
    rw [show engine.hooks = .empty from Setup.engine_hooks]
    rfl
  have htag : (engine.hooks.filterAttributes attrs "").typeTag? = some "builder" := by
    rw [hfilter]
    decide +kernel
  have hrenderer : engine.renderers.find? "builder" = some Element.pageTemplate := by
    rw [show engine.renderers = _ from Setup.engine_renderers]
    rfl
  have hplain : (engine.hooks.filterAttributes attrs "").IsPlain := by
    rw [hfilter]
    decide +kernel
  have hdefaults : Element.templateDefaults.IsPlain := by decide +kernel
  obtain ⟨-, -, hlaw⟩ := renderFragment_again .anonymous hdepth hbackend htag hrenderer
    (comesTo_of_isPlain hplain rfl hdefaults) (World.start (.memory (.empty 10)))
  have hfirst : (engine.renderFragment .anonymous attrs "" (World.start (.memory
        (.empty 10)))).1.assets = ["weft-builder-frontend", "weft-spoiler"] ∧
      (engine.renderFragment .anonymous attrs "" (World.start (.memory
        (.empty 10)))).2.cache.store.CanHold 0 Element.templateLifetime
        (Cache.storedKey engine.host.cache.start Element.templateGroup
          (Element.revisionKey Element.onlyTemplate)) := by
    decide +kernel
  have hid : Element.positiveId? (attrs.withDefaults Element.templateDefaults) "id" = some 5 := by
    decide +kernel
  specialize hlaw Element.onlyTemplate
    (by
      rw [hfilter]
      decide +kernel)
    (by
      rw [hfilter, hhost, Element.template?, hid]
      rfl)
  obtain ⟨hhtml, hagain, hsame⟩ :=
    hlaw.2 "<spoiler-span>a</spoiler-span>" (by decide +kernel) hfirst.2
  refine ⟨hfirst.1, hhtml, hagain, fun h => ?_⟩
  have hown := hsame.mp h
  rw [hfirst.1] at hown
  exact absurd hown (by decide)

end Engine

end DynamicContent
