/-
# Engines that are alike

Two engines with the same registrations, all of them uniform, on hosts that are alike: whatever one
makes of what is available to a text is alike to what the other makes of what is alike to it. Each
function of the engine has one lemma that says so, and by induction on the levels everything that
the engines do to a text is alike.
-/

import DynamicContent.Engine.Basic
import DynamicContent.Proofs.Element.Uniform

namespace DynamicContent.Likeness

open Directive (Memo)

/-- What is available to texts on both sides is alike at a level. -/
structure Nesteds (L : Likeness) (depth : Nat) (inner inner' : Nested) : Prop where
  evaluate : ∀ request request' d, L.requests request request' →
    L.AlikeWithin depth (inner.evaluate request d) (inner'.evaluate request' d)
  render : ∀ request request' attrs content, L.requests request request' →
    L.Alike depth (inner.render request attrs content) (inner'.render request' attrs content)

/-- Engines on the two hosts with the same registrations, which are uniform. -/
structure Engines (L : Likeness) (engine engine' : Engine) : Prop where
  host : engine.host = L.host
  host' : engine'.host = L.host'
  handlers : engine'.handlers = engine.handlers
  renderers : engine'.renderers = engine.renderers
  links : engine'.links = engine.links
  hooks : engine'.hooks = engine.hooks
  handler : ∀ name handler, engine.handler? name = some handler → L.UniformHandler handler
  renderer : ∀ tag renderer, engine.renderers.find? tag = some renderer →
    L.UniformRenderer renderer
  link : ∀ name link, engine.links.find? name = some link → L.UniformLink link

/-- An engine whose handlers, renderers and links are builtin or uniform. -/
structure Registrations (L : Likeness) (engine : Engine) : Prop where
  handler : ∀ name handler, engine.handler? name = some handler →
    (∃ entry ∈ Handler.builtin, entry.2 = handler) ∨ L.UniformHandler handler
  renderer : ∀ tag renderer, engine.renderers.find? tag = some renderer →
    renderer ∈ Element.builtin ∨ L.UniformRenderer renderer
  link : ∀ name link, engine.links.find? name = some link →
    (∃ entry ∈ Element.builtinLinks, entry.2 = link) ∨ L.UniformLink link

variable {L : Likeness} {depth : Nat} {engine engine' : Engine} {inner inner' : Nested}
  {request request' : Request}

namespace Registrations

/-- What is builtin is uniform, so all handlers are. -/
theorem uniformHandler (h : L.Registrations engine) {name : String} {handler : Handler}
    (hfound : engine.handler? name = some handler) : L.UniformHandler handler := by
  rcases h.handler name handler hfound with ⟨entry, hentry, rfl⟩ | huniform
  · exact Handler.builtin_uniform entry hentry L
  · exact huniform

theorem uniformRenderer (h : L.Registrations engine) {tag : String} {renderer : Renderer}
    (hfound : engine.renderers.find? tag = some renderer) : L.UniformRenderer renderer := by
  rcases h.renderer tag renderer hfound with hbuiltin | huniform
  · exact Element.builtin_uniform renderer hbuiltin L
  · exact huniform

theorem uniformLink (h : L.Registrations engine) {name : String} {link : Link}
    (hfound : engine.links.find? name = some link) : L.UniformLink link := by
  rcases h.link name link hfound with ⟨entry, hentry, rfl⟩ | huniform
  · exact Element.builtinLinks_uniform entry hentry L
  · exact huniform

end Registrations

namespace Engines

theorem handler?_eq (h : L.Engines engine engine') (name : String) :
    engine'.handler? name = engine.handler? name := by
  rw [Engine.handler?, Engine.handler?, h.handlers]

theorem knows_eq (h : L.Engines engine engine') : engine'.knows = engine.knows := by
  funext name
  rw [Engine.knows, Engine.knows, h.handler?_eq]

theorem limits_eq (h : L.Engines engine engine') : engine'.host.limits = engine.host.limits := by
  rw [h.host, h.host', L.limits_eq]

theorem tag_eq (h : L.Engines engine engine') : engine'.host.tag = engine.host.tag := by
  rw [h.host, h.host', L.tag_eq]

/-! ## The functions of the engine -/

theorem resolveWith (h : L.Engines engine engine') (hinner : L.Nesteds depth inner inner')
    (hrequest : L.requests request request') (s : String) :
    L.AlikeWithin depth (engine.resolveWith inner request s)
      (engine'.resolveWith inner' request' s) := by
  let R := (L.actions depth).withState Memo
  have hpass (s : String) : R.rel
      (Directive.substitute engine.knows (inner.evaluate request) s)
      (Directive.substitute engine.knows (inner'.evaluate request') s) :=
    (L.actions depth).substitute (fun d => hinner.evaluate _ _ d hrequest) s
  simp only [Engine.resolveWith, h.knows_eq, Engine.passBound, h.limits_eq]
  refine R.bind_rel (R.settle hpass _ s) fun settled => ?_
  split
  · exact R.bind_rel ((L.actions depth).lift (alike_count _ _)) fun _ => R.pure_rel settled.1
  · exact R.pure_rel settled.1

theorem resolveFor (h : L.Engines engine engine') (hinner : L.Nesteds depth inner inner')
    (hrequest : L.requests request request') (s : String) :
    L.Alike depth (engine.resolveFor inner request s) (engine'.resolveFor inner' request' s) :=
  (L.actions depth).run' (h.resolveWith hinner hrequest s) []

theorem shortcodesFor (h : L.Engines engine engine') (hinner : L.Nesteds depth inner inner')
    (hrequest : L.requests request request') (s : String) :
    L.Alike depth (engine.shortcodesFor inner request s)
      (engine'.shortcodesFor inner' request' s) := by
  rw [Engine.shortcodesFor, Engine.shortcodesFor, h.tag_eq]
  exact (L.actions depth).expand (fun t => Alike.pure t)
    fun attrs content => hinner.render _ _ attrs content hrequest

theorem expandFor (h : L.Engines engine engine') (hinner : L.Nesteds depth inner inner')
    (hrequest : L.requests request request') (s : String) :
    L.Alike depth (engine.expandFor inner request s) (engine'.expandFor inner' request' s) := by
  rw [Engine.expandFor, Engine.expandFor, h.tag_eq]
  refine (L.actions depth).run' ?_ []
  exact ((L.actions depth).withState Memo).expand (fun t => h.resolveWith hinner hrequest t)
    fun attrs content => (L.actions depth).lift (hinner.render _ _ attrs content hrequest)

/-- The scopes that engines give out are alike. -/
theorem scope (h : L.Engines engine engine') (hinner : L.Nesteds depth inner inner')
    (hrequest : L.requests request request') :
    L.Scopes depth (engine.scope inner request) (engine'.scope inner' request') where
  host := h.host
  host' := h.host'
  request := hrequest
  resolveFor _ _ s hrequest := h.resolveFor hinner hrequest s
  expandFor _ _ s hrequest := h.expandFor hinner hrequest s
  shortcodesFor _ _ s hrequest := h.shortcodesFor hinner hrequest s
  dispatchFor _ _ attrs content hrequest := hinner.render _ _ attrs content hrequest
  links := h.links
  link := h.link

theorem answer (h : L.Engines engine engine') (hinner : L.Nesteds depth inner inner')
    (hrequest : L.requests request request') (name param : String) :
    L.Alike depth (engine.answer inner request name param)
      (engine'.answer inner' request' name param) := by
  rw [Engine.answer, Engine.answer, h.handler?_eq]
  cases hhandler : engine.handler? name with
  | none => exact .pure ""
  | some handler =>
      have hanswer := h.handler name handler hhandler depth _ _ (h.scope hinner hrequest)
        (Text.trim param)
      exact hanswer.bind fun raw => .pure _

theorem evaluate (h : L.Engines engine engine') (hinner : L.Nesteds depth inner inner')
    (hrequest : L.requests request request') (d : Directive) :
    L.AlikeWithin depth (engine.evaluate inner request d) (engine'.evaluate inner' request' d) := by
  let R := (L.actions depth).withState Memo
  simp only [Engine.evaluate, h.knows_eq]
  refine R.bind_rel
    ((L.actions depth).substitute (fun d => hinner.evaluate _ _ d hrequest) _) fun param => ?_
  exact (L.actions depth).lift (h.answer hinner hrequest d.nameText param)

theorem announce (h : L.Engines engine engine') (point : HookPoint) (tag : String)
    (attrs : Attributes) (content : String) :
    L.Alike depth (engine.announce point tag attrs content)
      (engine'.announce point tag attrs content) := by
  rw [Engine.announce, Engine.announce, h.hooks]
  exact alike_announce _

theorem normalize (h : L.Engines engine engine') (hinner : L.Nesteds depth inner inner')
    (hrequest : L.requests request request') (attrs defaults : Attributes) (tag content : String) :
    L.Alike depth (engine.normalize inner request attrs defaults tag content)
      (engine'.normalize inner' request' attrs defaults tag content) := by
  let R := (L.actions depth).withState Memo
  have hprocess (s : String) : R.rel
      (Element.processText (engine.resolveWith inner request)
        (fun name param => engine.answer inner request name param) s)
      (Element.processText (engine'.resolveWith inner' request')
        (fun name param => engine'.answer inner' request' name param) s) :=
    R.processText (fun s => h.resolveWith hinner hrequest s)
      (fun name param => (L.actions depth).lift (h.answer hinner hrequest name param)) s
  rw [Engine.normalize, Engine.normalize]
  refine (h.announce _ _ _ _).bind fun _ => Alike.bind ?_ fun normal =>
    (h.announce _ _ _ _).bind fun _ => .pure normal
  exact (L.actions depth).run' (R.processAttributes hprocess _) []

theorem render (h : L.Engines engine engine') (hinner : L.Nesteds depth inner inner')
    (hrequest : L.requests request request') (attrs : Attributes) (content : String) :
    L.Alike depth (engine.render inner request attrs content)
      (engine'.render inner' request' attrs content) := by
  simp only [Engine.render, h.hooks, h.renderers]
  split
  · exact .pure ""
  · next tag _ =>
      cases hrenderer : engine.renderers.find? tag with
      | none => exact (alike_count _ _).bind fun _ => (h.announce _ _ _ _).bind fun _ => .pure ""
      | some renderer =>
          have huniform := h.renderer tag renderer hrenderer
          have hscopes := h.scope hinner hrequest
          refine (h.announce _ _ _ _).bind fun _ => ?_
          refine (huniform.defaults depth _ _ hscopes).bind fun defaults => ?_
          refine (h.normalize hinner hrequest _ _ tag content).bind fun attrs => ?_
          refine (huniform.render depth _ _ hscopes attrs content).bind fun html => ?_
          exact (h.announce _ _ _ _).bind fun _ => (alike_count _ _).bind fun _ => .pure _

theorem alike_refuseDirective : L.Alike depth Engine.refuseDirective Engine.refuseDirective :=
  (alike_count _ _).bind fun _ => .pure ""

theorem alike_refuseDirective_memo (memo : Memo) :
    L.Alike depth (do pure (← Engine.refuseDirective, memo))
      (do pure (← Engine.refuseDirective, memo)) :=
  alike_refuseDirective.bind fun refused => .pure (refused, memo)

/-! ## All levels -/

/-- What engines that are alike have available to a text is alike at every level. -/
theorem nested (h : L.Engines engine engine') (n depth : Nat) :
    L.Nesteds depth (engine.nested n) (engine'.nested n) := by
  induction n generalizing depth with
  | zero =>
      exact ⟨fun _ _ _ _ memo => alike_refuseDirective_memo memo, fun _ _ _ _ _ => .pure ""⟩
  | succ n ih =>
      constructor
      · intro request request' d hrequest memo
        exact (alike_refuseDirective_memo memo).deeper
          fun _ => h.evaluate (ih (depth + 1)) hrequest d memo
      · intro request request' attrs content hrequest
        exact (Alike.pure "").deeper fun _ => h.render (ih (depth + 1)) hrequest attrs content

end Engines

/-! ## From the beginning -/

attribute [ext] Engine.Fragment

/-- Renderings that are alike give the same markup from worlds that are alike once the state of the
rendering is at its beginning, and the worlds behind them are alike. -/
theorem Alike.fromStart {rendering rendering' : RenderM String} (h : L.Alike 0 rendering rendering')
    (engine engine' : Engine) (hlimits : engine'.host.limits = engine.host.limits) {w w' : World}
    (hw : L.worlds 0 [] { w with render := .start engine.host.limits.maxDepth }
      { w' with render := .start engine.host.limits.maxDepth }) :
    (engine.fromStart rendering w).1.html = (engine'.fromStart rendering' w').1.html ∧
      L.worlds 0 [] (engine.fromStart rendering w).2 (engine'.fromStart rendering' w').2 := by
  have hrun (engine : Engine) (rendering : RenderM String) (v : World) :
      engine.fromStart rendering v =
        let result := rendering { v with render := .start engine.host.limits.maxDepth }
        (⟨result.1, result.2.render.assetList⟩, result.2) := rfl
  obtain ⟨hhtml, hafter⟩ := h [] _ _ hw
  rw [hrun, hrun, hlimits]
  exact ⟨hhtml, hafter⟩

end DynamicContent.Likeness
