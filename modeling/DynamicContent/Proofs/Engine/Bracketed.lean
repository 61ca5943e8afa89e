/-
# Announcements are bracketed

An element is announced before and after its attributes are normalized, and before and after it is
rendered. Further elements come up in both, in directives in the attributes and in the text inside, so
their announcements stand between these. `Bracketed` is the grammar of such series. It is a kind of series
that is kept when one follows another, so by induction on the levels of nesting it is enough to look at a
single element: there what is announced is known exactly, whatever the filters make of its attributes.

A renderer is asked for its defaults once its output has been announced, and it is given its scope then.
So further elements may come up there too, before the normalization is announced. Whose defaults announce
nothing, as those of the builtin renderers, has nothing between the two.

Observers and filters get no hold of the engine here. Handlers, renderers and links do, by way of their
scope, and announce nothing but what the engine announces for them. This is all that is asked of those
that are registered besides the builtin ones: that what they report is bracketed where what comes up in
the text and the elements that they have processed is. So they may also ask the engine anew.
-/

import DynamicContent.Engine.Setup
import DynamicContent.Proofs.Engine.Quiet
import DynamicContent.Proofs.Engine.Setup

namespace DynamicContent

open Directive (Memo)
open RenderM (Reports ReportsWithin reporting)

/-- What is available to a text reports series of a kind. -/
structure Nested.Reports (kind : SeriesKind) (inner : Nested) : Prop where
  evaluate : ∀ request d, ReportsWithin kind (inner.evaluate request d)
  render : ∀ request attrs content, RenderM.Reports kind (inner.render request attrs content)

namespace Engine

/-- An engine whose handlers, renderers and links are builtin or quiet, for series of a kind. -/
structure IsQuiet (engine : Engine) (kind : SeriesKind) : Prop where
  handler : ∀ name handler, engine.handler? name = some handler →
    (∃ entry ∈ Handler.builtin, entry.2 = handler) ∨ handler.Quiet kind
  renderer : ∀ tag renderer, engine.renderers.find? tag = some renderer →
    renderer ∈ Element.builtin ∨ renderer.Quiet kind
  link : ∀ name link, engine.links.find? name = some link →
    (∃ entry ∈ Element.builtinLinks, entry.2 = link) ∨ Link.Quiet link kind

variable {engine : Engine} {inner : Nested} {kind : SeriesKind}

theorem IsQuiet.quiet_handler (h : engine.IsQuiet kind) {name : String} {handler : Handler}
    (hfound : engine.handler? name = some handler) : handler.Quiet kind := by
  rcases h.handler name handler hfound with ⟨entry, hentry, rfl⟩ | hquiet
  · exact Handler.builtin_quiet entry hentry
  · exact hquiet

theorem IsQuiet.quiet_renderer (h : engine.IsQuiet kind) {tag : String} {renderer : Renderer}
    (hfound : engine.renderers.find? tag = some renderer) : renderer.Quiet kind := by
  rcases h.renderer tag renderer hfound with hbuiltin | hquiet
  · exact Element.builtin_quiet renderer hbuiltin
  · exact hquiet

theorem IsQuiet.quiet_link (h : engine.IsQuiet kind) {name : String} {link : Link}
    (hfound : engine.links.find? name = some link) : Link.Quiet link kind := by
  rcases h.link name link hfound with ⟨entry, hentry, rfl⟩ | hquiet
  · exact Element.builtinLinks_quiet entry hentry
  · exact hquiet

/-! ## The functions of the engine -/

theorem reports_resolveWith (hinner : inner.Reports kind) (request : Request) (s : String) :
    ReportsWithin kind (engine.resolveWith inner request s) := by
  let R := (reporting kind).withState Memo
  have hpass (s : String) : R.rel
      (Directive.substitute engine.knows (inner.evaluate request) s)
      (Directive.substitute engine.knows (inner.evaluate request) s) :=
    (reporting kind).substitute (hinner.evaluate request) s
  simp only [resolveWith]
  refine R.bind_rel (R.settle hpass _ s) fun settled => ?_
  split
  · exact R.bind_rel ((reporting kind).lift (RenderM.reports_count _ _))
      fun _ => R.pure_rel settled.1
  · exact R.pure_rel settled.1

theorem reports_resolveFor (hinner : inner.Reports kind) (request : Request) (s : String) :
    Reports kind (engine.resolveFor inner request s) :=
  (reporting kind).run' (reports_resolveWith hinner request s) []

theorem reports_shortcodesFor (hinner : inner.Reports kind) (request : Request) (s : String) :
    Reports kind (engine.shortcodesFor inner request s) := by
  have hexpand : (reporting kind).rel (engine.shortcodesFor inner request s)
      (engine.shortcodesFor inner request s) :=
    (reporting kind).expand (fun t => Reports.pure t) (hinner.render request)
  exact hexpand

theorem reports_expandFor (hinner : inner.Reports kind) (request : Request) (s : String) :
    Reports kind (engine.expandFor inner request s) := by
  let R := (reporting kind).withState Memo
  let expanded : StateT Memo RenderM String := Shortcode.expand engine.host.tag s
    (engine.resolveWith inner request) fun attrs content => inner.render request attrs content
  have hexpand : R.rel expanded expanded :=
    R.expand (fun t => reports_resolveWith hinner request t)
      fun attrs content => (reporting kind).lift (hinner.render request attrs content)
  exact (reporting kind).run' hexpand []

theorem reports_scope (h : engine.IsQuiet kind) (hinner : inner.Reports kind) (request : Request) :
    (engine.scope inner request).Reports kind where
  resolveFor := reports_resolveFor hinner
  expandFor := reports_expandFor hinner
  shortcodesFor := reports_shortcodesFor hinner
  dispatchFor := hinner.render
  link _ _ := h.quiet_link

theorem reports_answer (h : engine.IsQuiet kind) (hinner : inner.Reports kind) (request : Request)
    (name param : String) : Reports kind (engine.answer inner request name param) := by
  rw [answer]
  cases hhandler : engine.handler? name with
  | none => exact .pure ""
  | some handler =>
      have hanswer := h.quiet_handler hhandler (engine.scope inner request)
        (reports_scope h hinner request) (Text.trim param)
      exact hanswer.bind fun raw => .pure _

theorem reports_evaluate (h : engine.IsQuiet kind) (hinner : inner.Reports kind) (request : Request)
    (d : Directive) : ReportsWithin kind (engine.evaluate inner request d) := by
  let R := (reporting kind).withState Memo
  refine R.bind_rel ((reporting kind).substitute (hinner.evaluate request) _) fun param => ?_
  exact (reporting kind).lift (reports_answer h hinner request d.nameText param)

theorem reports_refuseDirective : Reports kind refuseDirective :=
  (RenderM.reports_count _ _).bind fun _ => .pure ""

/-- The normalization of attributes is announced before and after what it reports. -/
theorem normalize_announced (h : engine.IsQuiet kind) (hinner : inner.Reports kind) (request : Request)
    (attrs defaults : Attributes) (tag content : String) (w : World) :
    ∃ normal within w', engine.normalize inner request attrs defaults tag content w = (normal, w') ∧
      kind.holds within ∧
      w'.announced = w.announced ++
        (engine.hooks.announcement ⟨.beforeNormalize, tag, attrs, content⟩ ::
          (within ++ [engine.hooks.announcement ⟨.afterNormalize, tag, normal, content⟩])) := by
  let R := (reporting kind).withState Memo
  have hprocess (s : String) : R.rel
      (Element.processText (engine.resolveWith inner request)
        (fun name param => engine.answer inner request name param) s)
      (Element.processText (engine.resolveWith inner request)
        (fun name param => engine.answer inner request name param) s) :=
    R.processText (fun s => reports_resolveWith hinner request s)
      (fun name param => (reporting kind).lift (reports_answer h hinner request name param)) s
  have hprocessed := (reporting kind).run'
    (R.processAttributes hprocess (attrs.withDefaults defaults)) []
  obtain ⟨within, hwithin, heq⟩ := hprocessed
    (engine.announce .beforeNormalize tag attrs content w).2
  refine ⟨_, within, _, rfl, hwithin, ?_⟩
  refine (congrArg (· ++ [_]) heq).trans ?_
  simp only [List.append_assoc]
  exact List.append_assoc _ _ _

/-! ## One element -/

/-- The announcements of an element around those that come up when its defaults are asked for, when its
attributes are normalized and when it is rendered. -/
def elementSeries (engine : Engine) (tag : String) (given normal : Attributes) (content : String)
    (preparing within rendering : List Announcement) : List Announcement :=
  engine.hooks.announcement ⟨.beforeOutput, tag, given, content⟩ ::
    (preparing ++ engine.hooks.announcement ⟨.beforeNormalize, tag, given, content⟩ ::
      (within ++ engine.hooks.announcement ⟨.afterNormalize, tag, normal, content⟩ ::
        (rendering ++ [engine.hooks.announcement ⟨.afterOutput, tag, normal, content⟩])))

/-- What an element that is granted a level comes to and announces, with its attributes filtered: nothing
if it has no type, that it is missing if nobody renders its type, and else its own announcements around
series of a kind. -/
inductive Fires (engine : Engine) (kind : SeriesKind) (attrs : Attributes) (content : String) :
    String → List Announcement → Prop where
  | untyped (htype : (engine.hooks.filterAttributes attrs content).typeTag? = none) :
      Fires engine kind attrs content "" []
  | missing {tag : String}
      (htype : (engine.hooks.filterAttributes attrs content).typeTag? = some tag)
      (hunknown : engine.renderers.find? tag = none) :
      Fires engine kind attrs content ""
        [engine.hooks.announcement
          ⟨.missing, tag, engine.hooks.filterAttributes attrs content, content⟩]
  | element {tag : String} {renderer : Renderer} {preparing within rendering : List Announcement}
      (normal : Attributes) (raw : String)
      (htype : (engine.hooks.filterAttributes attrs content).typeTag? = some tag)
      (hknown : engine.renderers.find? tag = some renderer) (hpreparing : kind.holds preparing)
      (hsilent : renderer.HasSilentDefaults → preparing = []) (hwithin : kind.holds within)
      (hrendering : kind.holds rendering) :
      Fires engine kind attrs content (engine.hooks.filterOutput tag normal content raw)
        (engine.elementSeries tag (engine.hooks.filterAttributes attrs content) normal content
          preparing within rendering)

theorem render_fires (h : engine.IsQuiet kind) (hinner : inner.Reports kind) (request : Request)
    (attrs : Attributes) (content : String) (w : World) :
    ∃ html w' series, engine.render inner request attrs content w = (html, w') ∧
      engine.Fires kind attrs content html series ∧ w'.announced = w.announced ++ series := by
  simp only [render]
  cases htype : (engine.hooks.filterAttributes attrs content).typeTag? with
  | none => exact ⟨_, _, [], rfl, .untyped htype, (List.append_nil _).symm⟩
  | some tag =>
      dsimp only
      cases hrenderer : engine.renderers.find? tag with
      | none => exact ⟨_, _, _, rfl, .missing htype hrenderer, rfl⟩
      | some renderer =>
          let given := engine.hooks.filterAttributes attrs content
          let w₀ := (engine.announce .beforeOutput tag given content w).2
          have hscope := reports_scope h hinner request
          have hquiet := h.quiet_renderer hrenderer
          obtain ⟨preparing, hpreparing, hprepared⟩ := hquiet.defaults _ hscope w₀
          obtain ⟨normal, within, w₁, hnormalize, hwithin, hnormalized⟩ := normalize_announced h
            hinner request given (renderer.defaults (engine.scope inner request) w₀).1 tag content
            (renderer.defaults (engine.scope inner request) w₀).2
          obtain ⟨rendering, hrendering, hrendered⟩ := hquiet.render _ hscope normal content w₁
          have hstart : engine.announce .beforeOutput tag given content w = ((), w₀) := rfl
          have hsilent (hsilent : renderer.HasSilentDefaults) : preparing = [] := by
            have hsame := hprepared.symm.trans (hsilent (engine.scope inner request) w₀)
            exact List.append_right_eq_self.mp hsame
          have hdefaults : renderer.defaults (engine.scope inner request) w₀ =
              ((renderer.defaults (engine.scope inner request) w₀).1,
                (renderer.defaults (engine.scope inner request) w₀).2) := rfl
          dsimp only
          rw [RenderM.bind_of_eq hstart, RenderM.bind_of_eq hdefaults,
            RenderM.bind_of_eq hnormalize]
          refine ⟨_, _, _, rfl,
            .element normal _ htype hrenderer hpreparing hsilent hwithin hrendering, ?_⟩
          refine (congrArg (· ++ [_]) hrendered).trans ?_
          have hbefore : w₀.announced = w.announced ++
            [engine.hooks.announcement ⟨.beforeOutput, tag, given, content⟩] := rfl
          rw [hnormalized, hprepared, hbefore, elementSeries]
          simp only [given, List.append_assoc, List.cons_append, List.nil_append]

/-! ## All levels -/

/-- The series in which announcements are bracketed: each element that is rendered has its own
announcements around those that come up meanwhile, and each element of an unknown type is missing. Where
a renderer is silent nothing comes up between its output and the normalization for it. -/
inductive Bracketed (engine : Engine) (silent : Renderer → Prop) : List Announcement → Prop where
  | nil : Bracketed engine silent []
  | append {first others : List Announcement} (hfirst : Bracketed engine silent first)
      (hothers : Bracketed engine silent others) : Bracketed engine silent (first ++ others)
  | missing {tag : String} (attrs : Attributes) (content : String)
      (hunknown : engine.renderers.find? tag = none) :
      Bracketed engine silent [engine.hooks.announcement ⟨.missing, tag, attrs, content⟩]
  | element {tag : String} {renderer : Renderer} {preparing within rendering : List Announcement}
      (given normal : Attributes) (content : String)
      (hknown : engine.renderers.find? tag = some renderer)
      (hpreparing : Bracketed engine silent preparing) (hsilent : silent renderer → preparing = [])
      (hwithin : Bracketed engine silent within) (hrendering : Bracketed engine silent rendering) :
      Bracketed engine silent
        (engine.elementSeries tag given normal content preparing within rendering)

/-- Being bracketed, as a kind of series. -/
def bracketed (engine : Engine) : SeriesKind where
  holds := engine.Bracketed Renderer.HasSilentDefaults
  nil := .nil
  append := .append

/-- The series in which nothing at all comes up between the output of an element and the normalization
for it. -/
abbrev StrictlyBracketed (engine : Engine) : List Announcement → Prop :=
  engine.Bracketed fun _ => True

/-- What one element announces is bracketed. -/
theorem Fires.bracketed {attrs : Attributes} {content html : String} {series : List Announcement}
    (h : engine.Fires engine.bracketed attrs content html series) :
    engine.Bracketed Renderer.HasSilentDefaults series := by
  cases h with
  | untyped htype => exact .nil
  | missing htype hunknown => exact .missing _ _ hunknown
  | element normal raw htype hknown hpreparing hsilent hwithin hrendering =>
      exact .element _ _ _ hknown hpreparing hsilent hwithin hrendering

/-- In an engine all of whose renderers have silent defaults nothing comes up there. -/
theorem Bracketed.strictly {series : List Announcement}
    (h : engine.Bracketed Renderer.HasSilentDefaults series)
    (hsilent : ∀ tag renderer, engine.renderers.find? tag = some renderer →
      renderer.HasSilentDefaults) : engine.StrictlyBracketed series := by
  induction h with
  | nil => exact .nil
  | append _ _ ihfirst ihothers => exact .append ihfirst ihothers
  | missing attrs content hunknown => exact .missing attrs content hunknown
  | element given normal content hknown _ hnone _ _ ihpreparing ihwithin ihrendering =>
      exact .element given normal content hknown ihpreparing
        (fun _ => hnone (hsilent _ _ hknown)) ihwithin ihrendering

/-- What is available to a text reports series that are bracketed, at every level. -/
theorem reports_nested (h : engine.IsQuiet engine.bracketed) (n : Nat) :
    (engine.nested n).Reports engine.bracketed := by
  induction n with
  | zero =>
      exact ⟨fun _ _ _ => reports_refuseDirective.bind fun _ => .pure _, fun _ _ _ => .pure ""⟩
  | succ n ih =>
      constructor
      · intro request d memo
        exact (reports_refuseDirective.bind fun _ => .pure _).deeper
          (reports_evaluate h ih request d memo)
      · intro request attrs content
        refine (Reports.pure "").deeper fun w => ?_
        obtain ⟨html, w', series, hrun, hfires, heq⟩ := render_fires h ih request attrs content w
        rw [hrun]
        exact ⟨series, hfires.bracketed, heq⟩

/-- A rendering from its beginning reports a series that is bracketed. -/
def ReportsBracketed (engine : Engine) (silent : Renderer → Prop) (rendering : RenderM Fragment) :
    Prop :=
  ∀ w, ∃ series, engine.Bracketed silent series ∧
    (rendering w).2.announced = w.announced ++ series

/-- What is to be said of the announcements of an engine: what is announced, by everything and by each
element, and who is told of it, and who filters, in which order. -/
structure WellBracketed (engine : Engine) (request : Request) : Prop where
  rendered : ∀ attrs content, engine.ReportsBracketed Renderer.HasSilentDefaults
    (engine.renderFragment request attrs content)
  expanded : ∀ s, engine.ReportsBracketed Renderer.HasSilentDefaults (engine.expandFragment request s)
  resolved : ∀ s, engine.ReportsBracketed Renderer.HasSilentDefaults
    (engine.resolveFragment request s)
  strictly : (∀ tag renderer, engine.renderers.find? tag = some renderer →
      renderer.HasSilentDefaults) →
    ∀ series, engine.Bracketed Renderer.HasSilentDefaults series → engine.StrictlyBracketed series
  refused : ∀ n attrs content w, n = 0 ∨ w.render.maxDepth ≤ w.render.depth →
    (engine.nested n).render request attrs content w = ("", w)
  granted : ∀ n attrs content w, w.render.depth < w.render.maxDepth →
    ∃ html w' series, (engine.nested (n + 1)).render request attrs content w = (html, w') ∧
      engine.Fires engine.bracketed attrs content html series ∧
      w'.announced = w.announced ++ series
  told : ∀ event, (engine.hooks.announcement event).told =
    (engine.hooks.observers.filter fun entry =>
      entry.isGlobal && decide (entry.item = event.point)) ++
    engine.hooks.observers.filter fun entry =>
      entry.isFor event.typeTag && decide (entry.item = event.point)
  filtered : ∀ tag attrs content html, engine.hooks.filterOutput tag attrs content html =
    (Scoped.forType tag engine.hooks.outputFilters).foldl (fun html f => f html attrs content)
      ((Scoped.forAll engine.hooks.outputFilters).foldl (fun html f => f html attrs content) html)

/-- Whatever is rendered, expanded or resolved, the announcements are bracketed. An element that is granted
a level announces what `Fires` says, and any other one nothing. Of each event the observers for all types
are told first and then those for its type, and output is filtered in that order, both in the order of
their registration. -/
theorem wellBracketed_of_isQuiet (engine : Engine) (h : engine.IsQuiet engine.bracketed)
    (request : Request) : engine.WellBracketed request := by
  have houtermost : engine.outermost.Reports engine.bracketed := reports_nested h _
  have hstart {rendering : RenderM String} (hreports : Reports engine.bracketed rendering) :
      engine.ReportsBracketed Renderer.HasSilentDefaults (engine.fromStart rendering) := by
    intro w
    exact hreports { w with render := .start engine.host.limits.maxDepth }
  constructor
  case rendered => exact fun attrs content => hstart (houtermost.render request attrs content)
  case expanded => exact fun s => hstart (reports_expandFor houtermost request s)
  case resolved => exact fun s => hstart (reports_resolveFor houtermost request s)
  case strictly => exact fun hsilent series hseries => hseries.strictly hsilent
  case refused =>
    rintro n attrs content w (rfl | hfull)
    · rfl
    · cases n with
      | zero => rfl
      | succ n => exact RenderM.deeper_of_full hfull
  case granted =>
    intro n attrs content w hfree
    obtain ⟨html, w', series, hrun, hfires, heq⟩ := render_fires h (reports_nested h n) request
      attrs content (w.nest (w.render.depth + 1) w.render.templates)
    have hdeeper : (engine.nested (n + 1)).render request attrs content w = _ :=
      RenderM.deeper_of_free hfree
    rw [hrun] at hdeeper
    exact ⟨html, _, series, hdeeper, hfires, heq⟩
  case told =>
    intro event
    simp only [Hooks.announcement, Hooks.told, Scoped.concerning, List.filter_append,
      List.filter_filter, Bool.and_comm]
  case filtered =>
    intro tag attrs content html
    rw [Hooks.filterOutput, Scoped.concerning, List.map_append, List.foldl_append]
    rfl

/-- Observers for all types and for one, and a filter that makes a code of every element: with the builtin
renderers nothing comes up between the output of an element and the normalization for it. -/
theorem wellBracketed_of_isQuiet_retyped :
    let setup := { Setup.plain 0 with
      hooks := ⟨[⟨some "qr", .beforeOutput⟩, ⟨none, .missing⟩, ⟨none, .beforeOutput⟩],
        [⟨none, fun attrs _ => attrs.insertText "type" "qr"⟩], []⟩ }
    let engine := setup.engine .empty ⟨Cache.Store.backend 0, ""⟩
    engine.WellBracketed .anonymous ∧
      ∀ s, engine.ReportsBracketed (fun _ => True) (engine.expandFragment .anonymous s) := by
  intro setup engine
  have hrenderers : ∀ entry ∈ setup.renderers, entry.2 ∈ Element.builtin := Setup.plain_renderers 0
  have hbuiltin (tag : String) (renderer : Renderer)
      (hfound : engine.renderers.find? tag = some renderer) : renderer ∈ Element.builtin :=
    Setup.forall_renderer hrenderers tag renderer hfound
  have hquiet : engine.IsQuiet engine.bracketed :=
    ⟨Setup.forall_handler? fun entry hentry => .inl ⟨entry, hentry, rfl⟩,
      fun tag renderer hfound => .inl (hbuiltin tag renderer hfound),
      Setup.forall_link fun entry hentry => .inl ⟨entry, hentry, rfl⟩⟩
  have hwell := wellBracketed_of_isQuiet engine hquiet .anonymous
  refine ⟨hwell, fun s w => ?_⟩
  obtain ⟨series, hseries, heq⟩ := hwell.expanded s w
  have hsilent (tag : String) (renderer : Renderer)
      (hfound : engine.renderers.find? tag = some renderer) : renderer.HasSilentDefaults :=
    Element.builtin_hasSilentDefaults renderer (hbuiltin tag renderer hfound)
  exact ⟨series, hwell.strictly hsilent series hseries, heq⟩

/-! ## Defaults that have an element rendered -/

/-- Whether each output that is announced has the normalization for it announced next. -/
def normalizesNext : List HookPoint → Bool
  | [] => true
  | .beforeOutput :: .beforeNormalize :: rest => normalizesNext rest
  | .beforeOutput :: _ => false
  | _ :: rest => normalizesNext rest

theorem normalizesNext_append {first others : List HookPoint} (h : normalizesNext first = true)
    (hothers : normalizesNext others = true) : normalizesNext (first ++ others) = true := by
  induction first using normalizesNext.induct with
  | case1 => exact hothers
  | case2 rest ih => exact ih h
  | case3 rest hnext =>
      rw [normalizesNext] at h
      · cases h
      · exact hnext
  | case4 point rest _ hother ih =>
      cases point with
      | beforeOutput => exact absurd rfl hother
      | beforeNormalize => exact ih h
      | afterNormalize => exact ih h
      | afterOutput => exact ih h
      | missing => exact ih h

variable {engine : Engine}

theorem StrictlyBracketed.normalizesNext {series : List Announcement}
    (h : engine.StrictlyBracketed series) :
    normalizesNext (series.map (·.event.point)) = true := by
  induction h with
  | nil => rfl
  | append _ _ ihfirst ihothers =>
      rw [List.map_append]
      exact normalizesNext_append ihfirst ihothers
  | missing attrs content hunknown => rfl
  | element given normal content hknown _ hsilent _ _ _ ihwithin ihrendering =>
      rw [hsilent trivial]
      simp only [elementSeries, List.nil_append, List.map_cons, List.map_append]
      have hafter := @normalizesNext_append _ [.afterOutput] ihrendering rfl
      exact @normalizesNext_append _ (.afterNormalize :: _) ihwithin hafter

/-- A renderer of cards, whose defaults have a portrait rendered. -/
def card : Renderer where
  typeTag := "card"
  defaults scope := do
    let portrait ← scope.dispatch (.ofTexts [("type", "portrait")]) ""
    pure (.ofTexts [("portrait", portrait)])
  render attrs _ _ := pure (attrs.text "portrait")

/-- An engine with cards, but nobody who renders portraits. -/
def withCards : Engine :=
  ({ Setup.plain 0 with renderers := (Setup.plain 0).renderers ++ [("card", card)] } : Setup).engine
    .empty ⟨Cache.Store.backend 0, ""⟩

theorem isQuiet_withCards : withCards.IsQuiet withCards.bracketed where
  handler := Setup.forall_handler? fun entry hentry => .inl ⟨entry, hentry, rfl⟩
  renderer := Setup.forall_renderer fun entry hentry => by
    rcases List.mem_append.mp hentry with hbuiltin | hcard
    · exact .inl (Setup.plain_renderers 0 entry hbuiltin)
    · obtain rfl := List.mem_singleton.mp hcard
      exact .inr ⟨fun _ hscope => (hscope.dispatchFor _ _ _).bind fun _ => .pure _,
        fun _ _ _ _ => .pure _⟩
  link := Setup.forall_link fun entry hentry => .inl ⟨entry, hentry, rfl⟩

/-- The same engine where no element is granted a level. -/
def withoutLevels : Engine :=
  { withCards with host := { withCards.host with limits := { withCards.host.limits with maxDepth := 0 } } }

/-- That no portrait is rendered is announced between the output of a card and the normalization for it.
Beyond the limit of levels it is not announced at all. -/
theorem not_strictlyBracketed_withCards :
    (withCards.IsQuiet withCards.bracketed ∧ ¬ withCards.ReportsBracketed (fun _ => True)
      (withCards.renderFragment .anonymous (.ofTexts [("type", "card")]) "")) ∧
    (withoutLevels.renderers.find? "portrait").isNone ∧
      (withoutLevels.renderFragment .anonymous (.ofTexts [("type", "portrait")]) ""
        (World.start (.memory (.empty 10)))).2.announced = [] := by
  refine ⟨⟨isQuiet_withCards, fun h => ?_⟩, by decide +kernel, rfl⟩
  obtain ⟨series, hseries, heq⟩ := h (World.start (.memory (.empty 10)))
  have hpoints : series.map (·.event.point) =
      [.beforeOutput, .missing, .beforeNormalize, .afterNormalize, .afterOutput] := by
    have hannounced : series = (withCards.renderFragment .anonymous (.ofTexts [("type", "card")]) ""
      (World.start (.memory (.empty 10)))).2.announced := heq.symm
    rw [hannounced]
    decide +kernel
  have hnext := StrictlyBracketed.normalizesNext hseries
  rw [hpoints] at hnext
  exact absurd hnext (by decide)

end Engine

end DynamicContent
