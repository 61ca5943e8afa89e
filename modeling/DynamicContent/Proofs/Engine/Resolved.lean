/-
# Resolved text is stable

With handlers that are functions of their parameter and the request, each directive has a *full value*,
which it has wherever there are levels enough for what its parameter nests. As long as no directive is
refused for want of levels, every value that is kept is a full one. A text that a pass does not change is
then its own text with full values, and so every later pass leaves it alone that is refused nothing
either.

That nothing is refused while a text is resolved does not say so of the result. Values that are kept need
no level, so a text may settle with a directive for which there are too few levels once nothing is kept.
-/

import DynamicContent.Proofs.Directive.Kept
import DynamicContent.Proofs.Engine.PurePass
import DynamicContent.Proofs.Engine.Setup

namespace DynamicContent

namespace Directive

variable {knows : String → Bool} {answer : String → String → String} {d : Directive}

/-- The value of a directive with levels enough. A parameter nests no more directives than it has
characters. -/
def fullValue (knows : String → Bool) (answer : String → String → String) (d : Directive) : String :=
  valueAt knows answer d.source.length d

/-- With levels enough a value does not depend on how many there are. -/
theorem valueAt_eq_of_length_le {n m : Nat} (hn : d.source.length ≤ n) (hm : d.source.length ≤ m) :
    valueAt knows answer n d = valueAt knows answer m d := by
  have hparam := length_param_lt d
  induction n generalizing m d with
  | zero => omega
  | succ n ih =>
      cases m with
      | zero => omega
      | succ m =>
          rw [valueAt, valueAt]
          congr 1
          refine shown_congr fun e he _ => ?_
          have hshorter := length_source_le he
          exact ih (by omega) (by omega) (length_param_lt e)

/-- A full value is the answer to the parameter with full values. -/
theorem fullValue_eq (d : Directive) :
    fullValue knows answer d =
      answer d.nameText (shown knows (fullValue knows answer) (parts d.param)) := by
  have hparam := length_param_lt d
  obtain ⟨n, hn⟩ : ∃ n, d.source.length = n + 1 := Nat.exists_eq_succ_of_ne_zero (by omega)
  rw [fullValue, hn, valueAt]
  congr 1
  refine shown_congr fun e he _ => valueAt_eq_of_length_le ?_ (Nat.le_refl _)
  exact (length_source_le he).trans (by omega)

/-- A memory that holds full values only. -/
def Full (knows : String → Bool) (answer : String → String → String) (memo : Memo) : Prop :=
  ∀ d : Directive, d.IsNamed → ∀ v, memo.find? d.text = some v → v = fullValue knows answer d

theorem Full.insert {memo : Memo} (h : Full knows answer memo) (hnamed : d.IsNamed) :
    Full knows answer (memo.insert d.text (fullValue knows answer d)) := by
  intro e he v hv
  rw [SortedMap.find?_insert] at hv
  split at hv
  · next htext =>
      obtain rfl := text_inj he hnamed htext
      exact (Option.some.inj hv).symm
  · exact h e he v hv

end Directive

/-- How many directives were refused. -/
def World.refusals (world : World) : Nat :=
  (world.cache.counters.find? "weft_resolver_depth_limit_total").getD 0

namespace Engine

open Directive (Memo Part fullValue Full shown parts)

variable {engine : Engine} {request : Request} {answer : String → String → String}

/-- The passes over a text, with whether the last one changed nothing. -/
def passes (engine : Engine) (inner : Nested) (request : Request) (s : String) :
    StateT Memo RenderM (String × Bool) :=
  Directive.settle (Directive.substitute engine.knows (inner.evaluate request)) engine.passBound s

/-- Whether resolving a text ends with a pass that changes nothing. -/
def Settles (engine : Engine) (inner : Nested) (request : Request) (s : String) (memo : Memo)
    (w : World) : Prop :=
  ((engine.passes inner request s).run memo w).1.1.2 = true

/-- A memory that is empty, or was left by resolving texts without a refusal. -/
inductive Filled (engine : Engine) (inner : Nested) (request : Request) : Memo → Prop
  | empty : Filled engine inner request []
  | resolved {memo : Memo} (before : Filled engine inner request memo) (s : String) (w : World)
      (hfree : ((engine.resolveWith inner request s).run memo w).2.refusals = w.refusals) :
      Filled engine inner request ((engine.resolveWith inner request s).run memo w).1.2

/-! ## What a run gives that is refused nothing -/

section

variable {α β : Type} {P Q : α → Prop} {R : β → Prop}

/-- A run from a memory of full values that is refused nothing has some result, and leaves full values
again. Refusals are not taken back in any case. -/
def Yields (knows : String → Bool) (answer : String → String → String)
    (action : StateT Memo RenderM α) (P : α → Prop) : Prop :=
  ∀ memo w, w.refusals ≤ (action.run memo w).2.refusals ∧
    (Full knows answer memo → (action.run memo w).2.refusals = w.refusals →
      P (action.run memo w).1.1 ∧ Full knows answer (action.run memo w).1.2)

variable {knows : String → Bool} {action : StateT Memo RenderM α}

theorem Yields.pure {a : α} (h : P a) : Yields knows answer (Pure.pure a) P :=
  fun _ _ => ⟨Nat.le_refl _, fun hfull _ => ⟨h, hfull⟩⟩

/-- If the whole is refused nothing then neither part is. -/
theorem Yields.bind {next : α → StateT Memo RenderM β} (h : Yields knows answer action P)
    (hnext : ∀ a, Yields knows answer (next a) fun b => P a → R b) :
    Yields knows answer (action >>= next) R := by
  intro memo w
  obtain ⟨hle, hfirst⟩ := h memo w
  have hrun : (action >>= next).run memo w =
      (next (action.run memo w).1.1).run (action.run memo w).1.2 (action.run memo w).2 := rfl
  obtain ⟨hle', hsecond⟩ := hnext (action.run memo w).1.1 (action.run memo w).1.2 (action.run memo w).2
  rw [hrun]
  refine ⟨hle.trans hle', fun hfull hfree => ?_⟩
  -- The number of refusals only grows, so what is the same at the end is the same in between.
  obtain ⟨hP, hfull'⟩ := hfirst hfull (by omega)
  obtain ⟨hR, hfull''⟩ := hsecond hfull' (by omega)
  exact ⟨hR hP, hfull''⟩

theorem Yields.imp (h : Yields knows answer action P) (himp : ∀ a, P a → Q a) :
    Yields knows answer action Q := fun memo w =>
  ⟨(h memo w).1, fun hfull hfree => (((h memo w).2 hfull hfree).imp_left (himp _))⟩

/-- What the increase of a counter does to the number of refusals. -/
theorem refusals_count (name : String) (labels : List (String × String)) (w : World) :
    (RenderM.count name labels w).2.refusals =
      if Counters.label name labels = "weft_resolver_depth_limit_total" then w.refusals + 1
      else w.refusals := by
  change ((SortedMap.insert (Counters.label name labels)
    (((w.cache.counters.find? (Counters.label name labels)).getD 0) + 1) w.cache.counters).find?
      "weft_resolver_depth_limit_total").getD 0 = _
  rw [SortedMap.find?_insert]
  split
  · next hlabel =>
      rw [if_pos hlabel.symm, ← hlabel]
      rfl
  · next hlabel => rw [if_neg (Ne.symm hlabel), World.refusals]

/-- To count leaves the memory alone. -/
theorem yields_count (name : String) (labels : List (String × String)) :
    Yields knows answer (liftM (RenderM.count name labels)) fun _ => True := by
  intro memo w
  have hrun : (StateT.run (liftM (RenderM.count name labels) : StateT Memo RenderM Unit) memo) w =
      (((), memo), (RenderM.count name labels w).2) := rfl
  rw [hrun, refusals_count]
  refine ⟨?_, fun hfull _ => ⟨trivial, hfull⟩⟩
  split <;> omega

/-- A refusal is counted. -/
theorem yields_refuseDirective (P : String → Prop) :
    Yields knows answer (fun memo => do Pure.pure (← refuseDirective, memo)) P := by
  intro memo w
  have hrefused : (StateT.run (fun memo => do Pure.pure (← refuseDirective, memo)) memo w).2.refusals =
      w.refusals + 1 := refusals_count "weft_resolver_depth_limit_total" [] w
  rw [hrefused]
  exact ⟨Nat.le_succ _, fun _ hfree => absurd hfree (Nat.succ_ne_self _)⟩

/-- A level that is taken and given back counts nothing. -/
theorem Yields.deeper {refused granted : StateT Memo RenderM α}
    (hrefused : Yields knows answer refused P) (hgranted : Yields knows answer granted P) :
    Yields knows answer (fun memo => RenderM.deeper (refused memo) (granted memo)) P := by
  intro memo w
  have hrun : (StateT.run (fun memo => RenderM.deeper (refused memo) (granted memo)) memo) w =
      RenderM.deeper (refused memo) (granted memo) w := rfl
  rw [hrun]
  rcases Nat.lt_or_ge w.render.depth w.render.maxDepth with hfree | hfull
  · rw [RenderM.deeper_of_free hfree]
    exact hgranted memo (w.nest (w.render.depth + 1) w.render.templates)
  · rw [RenderM.deeper_of_full hfull]
    exact hrefused memo w

end

/-! ## What the engine gives -/

section

variable {knows : String → Bool}

/-- A directive that is evaluated to its full value is looked up with it. -/
theorem Yields.value {evaluate : Directive → StateT Memo RenderM String} {d : Directive}
    (hnamed : d.IsNamed) (h : Yields knows answer (evaluate d) (· = fullValue knows answer d)) :
    Yields knows answer (Directive.value evaluate d) (· = fullValue knows answer d) := by
  intro memo w
  cases hfound : memo.find? d.text with
  | some v =>
      rw [Directive.value_run_of_some hfound]
      exact ⟨Nat.le_refl _, fun hfull _ => ⟨hfull d hnamed v hfound, hfull⟩⟩
  | none =>
      obtain ⟨hle, hvalue⟩ := h memo w
      rw [Directive.value_run_of_none hfound]
      refine ⟨hle, fun hfull hfree => ?_⟩
      obtain ⟨heq, hfull'⟩ := hvalue hfull hfree
      refine ⟨heq, ?_⟩
      change Full knows answer
        (((evaluate d).run memo w).1.2.insert d.text ((evaluate d).run memo w).1.1)
      rw [heq]
      exact hfull'.insert hnamed

/-- A pass over parts shows their full values, if evaluation gives these. -/
theorem yields_replaceParts {evaluate : Directive → StateT Memo RenderM String}
    (h : ∀ d, knows d.nameText = true →
      Yields knows answer (evaluate d) (· = fullValue knows answer d)) {ps : List Part}
    (hnamed : ∀ d, .directive d ∈ ps → d.IsNamed) :
    Yields knows answer (Directive.replaceParts knows evaluate ps)
      (· = shown knows (fullValue knows answer) ps) := by
  induction ps with
  | nil => exact .pure rfl
  | cons part rest ih =>
      have hpart : Yields knows answer (Directive.replacePart knows evaluate part)
          (· = Directive.shownPart knows (fullValue knows answer) part) := by
        cases part with
        | literal run => exact .pure rfl
        | directive d =>
            simp only [Directive.replacePart, Directive.shownPart]
            split
            · next known => exact .value (hnamed d List.mem_cons_self) (h d known)
            · exact .pure rfl
      rw [Directive.replaceParts, Directive.shown_cons]
      refine hpart.bind fun first => ?_
      refine (ih fun d hd => hnamed d (List.mem_cons_of_mem part hd)).bind fun others => .pure ?_
      intro hothers hfirst
      rw [hfirst, hothers]

/-- An engine evaluates a directive to its full value, unless it is refused something. -/
theorem AnswersBy.yields_evaluate (h : engine.AnswersBy request answer) (fuel : Nat) (d : Directive)
    (known : engine.knows d.nameText = true) :
    Yields engine.knows answer ((engine.nested fuel).evaluate request d)
      (· = fullValue engine.knows answer d) := by
  induction fuel generalizing d with
  | zero => exact yields_refuseDirective _
  | succ fuel ih =>
      refine Yields.deeper (yields_refuseDirective _) ?_
      rw [Engine.evaluate, Directive.substitute, String.toList_ofList]
      refine (yields_replaceParts ih fun e he => Directive.isNamed_of_mem_parts he).bind fun param => ?_
      rw [h _ _ _ known]
      refine .pure fun hparam => ?_
      rw [hparam, Directive.fullValue_eq d]

/-- One pass of an engine shows full values. -/
theorem AnswersBy.yields_substitute (h : engine.AnswersBy request answer) (fuel : Nat) (s : String) :
    Yields engine.knows answer
      (Directive.substitute engine.knows ((engine.nested fuel).evaluate request) s)
      (· = shown engine.knows (fullValue engine.knows answer) (parts s.toList)) :=
  yields_replaceParts (h.yields_evaluate fuel) fun _ hd => Directive.isNamed_of_mem_parts hd

/-- Passes end with a text that shows its own full values if the last one changes nothing, and with the
text that they start with if this does. -/
theorem yields_settle {pass : String → StateT Memo RenderM String}
    (hpass : ∀ s, Yields knows answer (pass s)
      (· = shown knows (fullValue knows answer) (parts s.toList))) (n : Nat) (s : String) :
    Yields knows answer (Directive.settle pass n s) fun r =>
      (r.2 = true → shown knows (fullValue knows answer) (parts r.1.toList) = r.1) ∧
        (shown knows (fullValue knows answer) (parts s.toList) = s → r.1 = s) := by
  induction n generalizing s with
  | zero => exact .pure ⟨fun h => Bool.noConfusion h, fun _ => rfl⟩
  | succ n ih =>
      rw [Directive.settle]
      refine (hpass s).bind fun next => ?_
      split
      · next hsame =>
          subst hsame
          exact .pure fun hnext => ⟨fun _ => hnext.symm, fun _ => rfl⟩
      · next hchanged =>
          -- A text that shows its own full values is not changed by a pass, so this one does not.
          refine (ih next).imp fun r hr hnext => ⟨hr.1, fun hstable => ?_⟩
          exact absurd (hnext.trans hstable) hchanged

end

/-! ## Resolving again -/

/-- Resolving a text that shows its own full values gives that text, unless something is refused. -/
theorem AnswersBy.yields_resolveWith (h : engine.AnswersBy request answer) (fuel : Nat) (s : String) :
    Yields engine.knows answer (engine.resolveWith (engine.nested fuel) request s) fun text =>
      shown engine.knows (fullValue engine.knows answer) (parts s.toList) = s → text = s := by
  rw [resolveWith]
  refine (yields_settle (h.yields_substitute fuel) engine.passBound s).bind fun r => ?_
  dsimp only
  split
  · exact (yields_count _ _).bind fun _ => .pure fun _ hr => hr.2
  · exact .pure fun hr => hr.2

/-- Where a text settles, resolving it is passing over it. -/
theorem resolveWith_run_of_settles {inner : Nested} {s : String} {memo : Memo} {w : World}
    (h : engine.Settles inner request s memo w) :
    (engine.resolveWith inner request s).run memo w =
      (fun r => ((r.1.1.1, r.1.2), r.2)) ((engine.passes inner request s).run memo w) := by
  have hrun : (engine.resolveWith inner request s).run memo w =
      (fun r => StateT.run (do
        if !r.1.1.2 && Directive.startsKnown engine.knows r.1.1.1 then
          RenderM.count "weft_resolver_pass_limit_total" []
        pure r.1.1.1 : StateT Memo RenderM String) r.1.2 r.2)
        ((engine.passes inner request s).run memo w) := rfl
  rw [Settles] at h
  rw [hrun]
  dsimp only
  rw [h]
  rfl

/-- A memory that no refusal was met in filling has full values. -/
theorem AnswersBy.full_of_filled (h : engine.AnswersBy request answer) {fuel : Nat} {memo : Memo}
    (hmemo : engine.Filled (engine.nested fuel) request memo) : Full engine.knows answer memo := by
  induction hmemo with
  | empty => exact fun _ _ _ hv => by contradiction
  | resolved _ s w hfree ih => exact ((h.yields_resolveWith fuel s _ w).2 ih hfree).2

/-- With pure handlers a text that settled stays as it is if it is resolved again and nothing kept,
provided that no directive is refused either time. -/
theorem resolveFor_resolved (hpure : engine.IsPure) {fuel : Nat} {memo : Memo}
    (hmemo : engine.Filled (engine.nested fuel) request memo) {s result : String} {w w' : World}
    (hsettles : engine.Settles (engine.nested fuel) request s memo w)
    (hfree : ((engine.resolveWith (engine.nested fuel) request s).run memo w).2.refusals = w.refusals)
    (hresult : ((engine.resolveWith (engine.nested fuel) request s).run memo w).1.1 = result)
    (hfree' : (engine.resolveFor (engine.nested fuel) request result w').2.refusals = w'.refusals) :
    (engine.resolveFor (engine.nested fuel) request result w').1 = result := by
  obtain ⟨answer, hanswers⟩ := hpure.exists_answersBy request
  have hfull := hanswers.full_of_filled hmemo
  rw [resolveWith_run_of_settles hsettles] at hfree hresult
  have hpasses := yields_settle (hanswers.yields_substitute fuel) engine.passBound s memo w
  have hstable := ((hpasses.2 hfull hfree).1.1 hsettles)
  have hstable : shown engine.knows (fullValue engine.knows answer) (parts result.toList) = result :=
    hresult ▸ hstable
  have hagain := hanswers.yields_resolveWith fuel result [] w'
  exact (hagain.2 (fun _ _ _ hv => by contradiction) hfree').1 hstable

/-- An engine with no directives but those for values of the query, and a bound on the levels. -/
def queryEngine (maxDepth : Nat) : Engine :=
  Setup.engine { Setup.plain 0 with
      limits := ⟨10, maxDepth, 300⟩, handlers := [(["get"], Handler.queryValue)] }
    .empty ⟨Cache.Store.backend 0, ""⟩

theorem queryEngine_isPure (maxDepth : Nat) : (queryEngine maxDepth).IsPure := by
  refine Setup.forall_handler? (List.forall_mem_singleton.mpr ?_)
  exact ⟨fun name request => (request.query.find? name).getD "", fun _ _ => rfl⟩

/-- The world of such an engine. -/
def queryWorld (maxDepth : Nat) : World := { World.start .broken with render := .start maxDepth }

/-- A request with a value that asks for itself. -/
def loopRequest : Request :=
  { Request.anonymous with query := [("x", "y"), ("y", "\x7bget:\x7bget:x\x7d\x7d")] }

/-- A text that settles with a directive in it. -/
def loopText : String := "\x7bget:x\x7d\x7bget:\x7bget:x\x7d\x7d"

/-- What it settles as. -/
def loopResult : String := "y\x7bget:\x7bget:x\x7d\x7d"

/-- With one level more than it takes to settle this text, it is stable. -/
theorem loop_stays :
    (((queryEngine 2).resolveWith ((queryEngine 2).nested 2) loopRequest loopText).run []
        (queryWorld 2)).1.1 = loopResult ∧
      ((queryEngine 2).resolveFor ((queryEngine 2).nested 2) loopRequest loopResult
        (queryWorld 2)).1 = loopResult := by
  have hsettles : (queryEngine 2).Settles ((queryEngine 2).nested 2) loopRequest loopText []
      (queryWorld 2) := by
    unfold Settles
    decide +kernel
  have hresult : (((queryEngine 2).resolveWith ((queryEngine 2).nested 2) loopRequest loopText).run []
      (queryWorld 2)).1.1 = loopResult := by decide +kernel
  exact ⟨hresult, resolveFor_resolved (queryEngine_isPure 2) .empty hsettles (by decide +kernel) hresult
    (by decide +kernel)⟩

/-- With no more levels than it takes to settle a text, the result may be refused something, though the
text was not. -/
theorem not_resolveFor_resolved_of_unrefused :
    ¬ ∀ (engine : Engine) (fuel : Nat) (request : Request) (s : String) (w : World),
      engine.IsPure → w.levels ≤ fuel → engine.Settles (engine.nested fuel) request s [] w →
      (engine.resolveFor (engine.nested fuel) request s w).2.refusals = w.refusals →
      (engine.resolveFor (engine.nested fuel) request
          (engine.resolveFor (engine.nested fuel) request s w).1 w).1 =
        (engine.resolveFor (engine.nested fuel) request s w).1 := by
  intro h
  have hsettles : (queryEngine 1).Settles ((queryEngine 1).nested 1) loopRequest loopText []
      (queryWorld 1) := by
    unfold Settles
    decide +kernel
  have hsame := h (queryEngine 1) 1 loopRequest loopText (queryWorld 1) (queryEngine_isPure 1)
    (Nat.le_refl 1) hsettles (by decide +kernel)
  exact absurd hsame (by decide +kernel)

end Engine

end DynamicContent
