/-
# What a rendering reports

Announcements are only ever added, so what an action reports is a series of announcements that stands
behind those before it. To say something of all that a rendering reports is to say it of the empty series
and to say that it is kept when one series follows another. Such a property is a `SeriesKind`, and putting
actions together keeps it.

A handler, a renderer or a link has nothing to announce itself. That it is *quiet* for a kind says so: it
reports a series of the kind whenever what it has processed does. Any use of the cache, of assets and of
templates is silent.
-/

import DynamicContent.Engine.World
import DynamicContent.Proofs.Data.ActionRelation
import DynamicContent.Proofs.Engine.Nesting

namespace DynamicContent

/-- A property of series of announcements that is kept when one follows the other. -/
structure SeriesKind where
  holds : List Announcement → Prop
  nil : holds []
  append : ∀ {first others : List Announcement},
    holds first → holds others → holds (first ++ others)

namespace RenderM

variable {α β : Type} {kind : SeriesKind}

/-- An action whose outcome is known is followed by what comes next. -/
theorem bind_of_eq {action : RenderM α} {next : α → RenderM β} {a : α} {w w' : World}
    (h : action w = (a, w')) : (action >>= next) w = next a w' :=
  congrArg (fun outcome : α × World => next outcome.1 outcome.2) h

/-- Whatever the world, an action reports a series of a kind and keeps what was reported before. -/
def Reports (kind : SeriesKind) (action : RenderM α) : Prop :=
  ∀ w, ∃ series, kind.holds series ∧ (action w).2.announced = w.announced ++ series

/-- An action that reports nothing reports a series of any kind. -/
theorem Reports.silent {action : RenderM α} (h : ∀ w, (action w).2.announced = w.announced) :
    Reports kind action :=
  fun w => ⟨[], kind.nil, by rw [h, List.append_nil]⟩

theorem Reports.pure (a : α) : Reports kind (pure a) := .silent fun _ => rfl

theorem Reports.bind {action : RenderM α} {next : α → RenderM β} (h : Reports kind action)
    (hnext : ∀ a, Reports kind (next a)) : Reports kind (action >>= next) := by
  intro w
  obtain ⟨first, hfirst, heq⟩ := h w
  obtain ⟨others, hothers, heq'⟩ := hnext (action w).1 (action w).2
  refine ⟨first ++ others, kind.append hfirst hothers, ?_⟩
  rw [← List.append_assoc, ← heq]
  exact heq'

/-- To report a series of a kind, as a relation between an action and itself. -/
def reporting (kind : SeriesKind) : ActionRelation RenderM where
  rel action _ := Reports kind action
  pure_rel := .pure
  bind_rel := .bind

/-- An action with a memory that reports a series of a kind from every memory. -/
abbrev ReportsWithin (kind : SeriesKind) (action : StateT Directive.Memo RenderM α) : Prop :=
  ((reporting kind).withState Directive.Memo).rel action action

/-! ## What is silent -/

theorem reports_lift (action : Cache.CacheM Cache.Store α) : Reports kind (action : RenderM α) :=
  .silent fun _ => rfl

theorem reports_count (name : String) (labels : List (String × String)) :
    Reports kind (count name labels) :=
  reports_lift _

theorem reports_needAsset (request : Request) (handle : String) :
    Reports kind (needAsset request handle) := by
  unfold needAsset
  split
  · exact .pure ()
  · exact .silent fun _ => rfl

theorem reports_askPosts (site : Site) (query : PostQuery) :
    Reports kind (askPosts site query) := by
  unfold askPosts
  dsimp only
  split
  · exact Reports.bind (.silent fun _ => rfl) fun _ => .pure _
  · exact .pure _

/-! ## Nesting -/

theorem Reports.deeper {refused granted : RenderM α} (hrefused : Reports kind refused)
    (hgranted : Reports kind granted) : Reports kind (deeper refused granted) := by
  intro w
  by_cases hfree : w.render.depth < w.render.maxDepth
  · rw [deeper_of_free hfree]
    exact hgranted (w.nest (w.render.depth + 1) w.render.templates)
  · rw [deeper_of_full (Nat.le_of_not_lt hfree)]
    exact hrefused w

theorem Reports.insideTemplate {id : Nat} {refused granted : RenderM α}
    (hrefused : Reports kind refused) (hgranted : Reports kind granted) :
    Reports kind (insideTemplate id refused granted) := by
  intro w
  by_cases hmem : w.render.templates.contains id = true
  · rw [insideTemplate_of_mem hmem]
    exact hrefused w
  · rw [insideTemplate_of_not_mem hmem]
    exact hgranted (w.nest w.render.depth (id :: w.render.templates))

/-- The posts that a query finds are looked up or asked for. -/
theorem Reports.posts {memo : QueryMemo Cache.Store} {query : PostQuery}
    {ask : RenderM (Except ContentError (List Post))} (h : Reports kind ask) :
    Reports kind (memo.posts query ask) := by
  unfold QueryMemo.posts
  split
  · refine h.bind fun found => ?_
    split <;> exact .pure _
  · refine (reports_lift _).bind fun found => ?_
    split
    · exact .pure _
    · refine h.bind fun found => ?_
      split
      · exact (reports_lift _).bind fun _ => .pure _
      · exact .pure _

end RenderM

open RenderM (Reports)

/-! ## What has nothing to announce itself -/

/-- A scope of links in which the processing of text and elements reports series of a kind. -/
structure LinkScope.Reports (kind : SeriesKind) (scope : LinkScope) : Prop where
  resolveFor : ∀ request s, RenderM.Reports kind (scope.resolveFor request s)
  expandFor : ∀ request s, RenderM.Reports kind (scope.expandFor request s)
  shortcodesFor : ∀ request s, RenderM.Reports kind (scope.shortcodesFor request s)
  dispatchFor : ∀ request attrs content,
    RenderM.Reports kind (scope.dispatchFor request attrs content)

/-- A link that reports series of a kind where the processing of text and elements does. -/
def Link.Quiet (link : Link) (kind : SeriesKind) : Prop :=
  ∀ scope : LinkScope, scope.Reports kind → ∀ attrs, Reports kind (link attrs scope)

/-- A scope of handlers and renderers in which the processing of text and elements reports series of a
kind, and links are quiet. -/
structure Scope.Reports (kind : SeriesKind) (scope : Scope) : Prop extends
    scope.toLinkScope.Reports kind where
  link : ∀ name link, scope.links.find? name = some link → Link.Quiet link kind

/-- A handler that reports series of a kind where the processing of text and elements does. -/
def Handler.Quiet (handler : Handler) (kind : SeriesKind) : Prop :=
  ∀ scope : Scope, scope.Reports kind → ∀ param, Reports kind (handler.answer param scope)

/-- A renderer that reports series of a kind where the processing of text and elements does, when its
defaults are asked for and when it renders. -/
structure Renderer.Quiet (renderer : Renderer) (kind : SeriesKind) : Prop where
  defaults : ∀ scope : Scope, scope.Reports kind → Reports kind (renderer.defaults scope)
  render : ∀ scope : Scope, scope.Reports kind → ∀ attrs content,
    Reports kind (renderer.render attrs content scope)

/-- A renderer whose defaults announce nothing. -/
def Renderer.HasSilentDefaults (renderer : Renderer) : Prop :=
  ∀ scope w, (renderer.defaults scope w).2.announced = w.announced

/-- A renderer whose defaults only read is quiet if it renders quietly. -/
theorem Renderer.Quiet.of_render {renderer : Renderer} {kind : SeriesKind}
    {defaults : Scope → Attributes}
    (hdefaults : ∀ scope, renderer.defaults scope = pure (defaults scope))
    (hrender : ∀ scope : Scope, scope.Reports kind → ∀ attrs content,
      Reports kind (renderer.render attrs content scope)) : renderer.Quiet kind := by
  refine ⟨fun scope _ => ?_, hrender⟩
  rw [hdefaults]
  exact .pure _

end DynamicContent
