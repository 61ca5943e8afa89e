/-
# When the memory of a pass cannot be told

The engine is compared with itself without the memory of a pass: each directive, in the text or in a
parameter, is evaluated where it stands. With handlers that are functions of their parameter and the
request, the two differ only through a directive text that is met both with a level left for it and
with none, and then there are handlers with which they do.

Inside, an action of the engine is related to what it gives in every world with a number of levels
left, which is how the values of directives without an engine come in.
-/

import DynamicContent.Engine.Setup
import DynamicContent.Proofs.Directive.Telltale
import DynamicContent.Proofs.Engine.Nesting

namespace DynamicContent

/-- The levels that nesting may still go down. -/
def World.levels (world : World) : Nat := world.render.maxDepth - world.render.depth

/-- A handler whose answers depend on the parameter and the request alone, and which does nothing
else. -/
def Handler.IsPure (handler : Handler) : Prop :=
  ∃ value : String → Request → String,
    ∀ param scope, handler.answer param scope = pure (value param scope.request)

namespace Engine

open Directive (Memo Part)

/-- An engine all of whose handlers are pure. -/
def IsPure (engine : Engine) : Prop :=
  ∀ name handler, engine.handler? name = some handler → handler.IsPure

/-- One pass over a text, with a memory that is empty at first. -/
def pass (engine : Engine) (fuel : Nat) (request : Request) (s : String) : RenderM String :=
  (Directive.substitute engine.knows ((engine.nested fuel).evaluate request) s).run' []

/-- The evaluation of a directive that keeps no values: it takes one level, processes the parameter
in the same way, and has the handler answer. -/
def evaluateAfresh (engine : Engine) (request : Request) : Nat → Directive → RenderM String
  | 0, _ => refuseDirective
  | fuel + 1, d => RenderM.deeper refuseDirective do
    let param ← Directive.substituteAfresh engine.knows (engine.evaluateAfresh request fuel)
      (String.ofList d.param)
    engine.answer (engine.nested fuel) request d.nameText param

/-- One pass over a text that keeps no values. -/
def passAfresh (engine : Engine) (fuel : Nat) (request : Request) (s : String) : RenderM String :=
  Directive.substituteAfresh engine.knows (engine.evaluateAfresh request fuel) s

/-! ## What an action gives -/

/-- In every world with so many levels left an action gives one result, and it gives the levels
back. -/
def Gives {α : Type} (levels : Nat) (action : RenderM α) (a : α) : Prop :=
  ∀ w : World, w.levels = levels → (action w).1 = a ∧
    (action w).2.render.depth = w.render.depth ∧ (action w).2.render.maxDepth = w.render.maxDepth

section

variable {α β : Type} {levels : Nat}

theorem Gives.pure (a : α) : Gives levels (pure a) a := fun _ _ => ⟨rfl, rfl, rfl⟩

theorem Gives.bind {action : RenderM α} {a : α} {next : α → RenderM β} {b : β}
    (h : Gives levels action a) (hnext : Gives levels (next a) b) :
    Gives levels (action >>= next) b := by
  intro w hw
  obtain ⟨hresult, hdepth, hbound⟩ := h w hw
  have hw' : (action w).2.levels = levels := by rw [World.levels, hdepth, hbound]; exact hw
  obtain ⟨hresult', hdepth', hbound'⟩ := hnext (action w).2 hw'
  have hrun : (action >>= next) w = next a (action w).2 := by rw [← hresult]; rfl
  rw [hrun]
  exact ⟨hresult', hdepth'.trans hdepth, hbound'.trans hbound⟩

/-- Where no level is left, what is refused is given. -/
theorem Gives.deeper_zero {refused granted : RenderM α} {a : α} (h : Gives 0 refused a) :
    Gives 0 (RenderM.deeper refused granted) a := by
  intro w hw
  rw [RenderM.deeper_of_full (Nat.le_of_sub_eq_zero hw)]
  exact h w hw

/-- Where a level is left, what is granted is given with one level less. -/
theorem Gives.deeper_succ {refused granted : RenderM α} {a : α} (h : Gives levels granted a) :
    Gives (levels + 1) (RenderM.deeper refused granted) a := by
  intro w hw
  have hbelow : (w.nest (w.render.depth + 1) w.render.templates).levels = levels := by
    change w.render.maxDepth - (w.render.depth + 1) = levels
    rw [World.levels] at hw
    omega
  obtain ⟨hresult, hdepth, hbound⟩ := h _ hbelow
  rw [RenderM.deeper_of_free (by rw [World.levels] at hw; omega)]
  exact ⟨hresult, congrArg (· - 1) hdepth, hbound⟩

theorem gives_refuseDirective : Gives levels refuseDirective "" := fun _ _ => ⟨rfl, rfl, rfl⟩

/-- A refusal leaves a memory as it is. -/
theorem gives_refuseDirective_memo (memo : Memo) :
    Gives levels (do pure (← refuseDirective, memo)) ("", memo) :=
  gives_refuseDirective.bind (.pure ("", memo))

end

variable {engine : Engine} {request : Request} {answer : String → String → String} {levels : Nat}

/-- Looking up or evaluating a directive gives what it gives without an engine. -/
theorem gives_value {evaluate : Directive → StateT Memo RenderM String}
    {evaluate' : Directive → StateT Memo Id String} {d : Directive}
    (h : ∀ memo, Gives levels ((evaluate d).run memo) ((evaluate' d).run memo)) (memo : Memo) :
    Gives levels ((Directive.value evaluate d).run memo)
      ((Directive.value evaluate' d).run memo) := by
  rw [Directive.value_run]
  cases hfound : memo.find? d.text with
  | some v =>
      rw [Directive.value_run_of_some hfound]
      exact .pure (v, memo)
  | none =>
      rw [Directive.value_run_of_none hfound]
      exact (h memo).bind (.pure _)

/-- Replacing parts gives what it gives without an engine, if evaluation does. -/
theorem gives_replaceParts (knows : String → Bool)
    {evaluate : Directive → StateT Memo RenderM String}
    {evaluate' : Directive → StateT Memo Id String}
    (h : ∀ d memo, knows d.nameText = true →
      Gives levels ((evaluate d).run memo) ((evaluate' d).run memo))
    (ps : List Part) (memo : Memo) :
    Gives levels ((Directive.replaceParts knows evaluate ps).run memo)
      ((Directive.replaceParts knows evaluate' ps).run memo) := by
  induction ps generalizing memo with
  | nil => exact .pure ("", memo)
  | cons part rest ih =>
      have hpart : Gives levels ((Directive.replacePart knows evaluate part).run memo)
          ((Directive.replacePart knows evaluate' part).run memo) := by
        cases part with
        | literal run => exact .pure _
        | directive d =>
            simp only [Directive.replacePart]
            split
            · next known => exact gives_value (fun memo => h d memo known) memo
            · exact .pure _
      rw [Directive.replaceParts_run_cons, Directive.replaceParts, StateT.run_bind]
      refine hpart.bind ?_
      rw [StateT.run_bind]
      exact (ih _).bind (.pure _)

/-- Replacing parts without memory gives what is shown, if evaluation gives the values. -/
theorem gives_replaceAfresh (knows : String → Bool) {evaluate : Directive → RenderM String}
    {value : Directive → String}
    (h : ∀ d, knows d.nameText = true → Gives levels (evaluate d) (value d)) (ps : List Part) :
    Gives levels (Directive.replaceAfresh knows evaluate ps) (Directive.shown knows value ps) := by
  induction ps with
  | nil => exact .pure ""
  | cons part rest ih =>
      rw [Directive.shown_cons, Directive.replaceAfresh]
      refine Gives.bind (a := Directive.shownPart knows value part) ?_ (ih.bind (.pure _))
      cases part with
      | literal run => exact .pure _
      | directive d =>
          simp only [Directive.partAfresh, Directive.shownPart]
          split
          · next known => exact h d known
          · exact .pure _

/-! ## The two passes give what they give without an engine -/

/-- What an engine answers to directives with known names is given by a function. -/
def AnswersBy (engine : Engine) (request : Request) (answer : String → String → String) : Prop :=
  ∀ inner name param, engine.knows name = true →
    engine.answer inner request name param = pure (answer name param)

/-- A pure engine answers by a function. -/
theorem IsPure.exists_answersBy (h : engine.IsPure) (request : Request) :
    ∃ answer, engine.AnswersBy request answer := by
  have hname (name : String) : ∃ value : String → String, ∀ inner param,
      engine.knows name = true → engine.answer inner request name param = pure (value param) := by
    cases hhandler : engine.handler? name with
    | none => exact ⟨fun _ => "", fun _ _ known => by simp [knows, hhandler] at known⟩
    | some handler =>
        obtain ⟨value, hvalue⟩ := h name handler hhandler
        refine ⟨fun param => clean handler.cleaner (value (Text.trim param) request), ?_⟩
        intro inner param _
        rw [Engine.answer, hhandler]
        dsimp only
        rw [hvalue]
        rfl
  choose answer hanswer using hname
  exact ⟨answer, fun inner name param known => hanswer name inner param known⟩

/-- Evaluation in an engine that answers by a function gives what that function gives, with the
levels that are left in the world; more fuel than that does not matter. -/
theorem AnswersBy.gives_evaluate (h : engine.AnswersBy request answer) (fuel : Nat)
    (hfuel : levels ≤ fuel) (d : Directive) (known : engine.knows d.nameText = true) (memo : Memo) :
    Gives levels (((engine.nested fuel).evaluate request d).run memo)
      ((Directive.evaluateWithin engine.knows answer levels d).run memo) := by
  induction fuel generalizing levels d memo with
  | zero =>
      obtain rfl := Nat.le_zero.mp hfuel
      exact gives_refuseDirective_memo memo
  | succ fuel ih =>
      cases levels with
      | zero => exact .deeper_zero (gives_refuseDirective_memo memo)
      | succ levels =>
          have hparam := gives_replaceParts engine.knows
            (fun e memo known => ih (Nat.le_of_succ_le_succ hfuel) e known memo)
            (Directive.parts (String.ofList d.param).toList) memo
          refine .deeper_succ ?_
          rw [Directive.evaluateWithin_run_succ]
          rw [String.toList_ofList] at hparam
          change Gives levels ((engine.evaluate (engine.nested fuel) request d).run memo) _
          rw [Engine.evaluate, StateT.run_bind, Directive.substitute, String.toList_ofList]
          refine hparam.bind ?_
          change Gives levels (StateT.run (liftM (engine.answer _ request d.nameText _)) _) _
          rw [StateT.run_monadLift, h _ _ _ known]
          exact (Gives.pure _).bind (.pure _)

/-- Evaluation without memory gives the values, likewise. -/
theorem AnswersBy.gives_evaluateAfresh (h : engine.AnswersBy request answer) (fuel : Nat)
    (hfuel : levels ≤ fuel) (d : Directive) (known : engine.knows d.nameText = true) :
    Gives levels (engine.evaluateAfresh request fuel d)
      (Directive.valueAt engine.knows answer levels d) := by
  induction fuel generalizing levels d with
  | zero =>
      obtain rfl := Nat.le_zero.mp hfuel
      exact gives_refuseDirective
  | succ fuel ih =>
      cases levels with
      | zero => exact .deeper_zero gives_refuseDirective
      | succ levels =>
          have hparam := gives_replaceAfresh engine.knows
            (fun e known => ih (Nat.le_of_succ_le_succ hfuel) e known) (Directive.parts d.param)
          refine .deeper_succ ?_
          rw [Directive.substituteAfresh, String.toList_ofList]
          refine hparam.bind ?_
          rw [h _ _ _ known]
          exact .pure _

theorem AnswersBy.pass_eq (h : engine.AnswersBy request answer) {fuel : Nat} {w : World}
    (hfuel : w.levels ≤ fuel) (s : String) :
    (engine.pass fuel request s w).1 =
      ((Directive.substitute engine.knows
        (Directive.evaluateWithin engine.knows answer w.levels) s).run []).1 := by
  have hgives := gives_replaceParts engine.knows
    (fun d memo known => h.gives_evaluate fuel hfuel d known memo) (Directive.parts s.toList) []
  exact congrArg Prod.fst (hgives w rfl).1

theorem AnswersBy.passAfresh_eq (h : engine.AnswersBy request answer) {fuel : Nat} {w : World}
    (hfuel : w.levels ≤ fuel) (s : String) :
    (engine.passAfresh fuel request s w).1 =
      Directive.shown engine.knows (Directive.valueAt engine.knows answer w.levels)
        (Directive.parts s.toList) :=
  (gives_replaceAfresh engine.knows (fun d known => h.gives_evaluateAfresh fuel hfuel d known)
    (Directive.parts s.toList) w rfl).1

/-! ## The condition -/

/-- A handler that answers with a note. -/
def noteTaker (base : Nat) : Handler := ⟨fun param _ => pure (Directive.tell base param), .text⟩

/-- The engine with note takers in place of all handlers. -/
def withNoteTakers (engine : Engine) (base : Nat) : Engine :=
  { engine with handlers := engine.handlers.map fun entry => (entry.1, noteTaker base) }

theorem withNoteTakers_handler? (base : Nat) (name : String) :
    (engine.withNoteTakers base).handler? name =
      (engine.handler? name).map fun _ => noteTaker base := by
  rw [handler?, withNoteTakers, SortedMap.find?_map_value (fun _ => noteTaker base), handler?]

theorem withNoteTakers_knows (base : Nat) (name : String) :
    (engine.withNoteTakers base).knows name = engine.knows name := by
  rw [knows, withNoteTakers_handler?, Option.isSome_map, knows]

theorem withNoteTakers_isPure (base : Nat) : (engine.withNoteTakers base).IsPure := by
  intro name handler hhandler
  rw [withNoteTakers_handler?] at hhandler
  obtain ⟨-, -, rfl⟩ := Option.map_eq_some_iff.mp hhandler
  exact ⟨fun param _ => Directive.tell base param, fun _ _ => rfl⟩

theorem withNoteTakers_answersBy {base : Nat} (hbase : 0 < base) :
    (engine.withNoteTakers base).AnswersBy request (Directive.byNote base) := by
  intro inner name param known
  obtain ⟨handler, hhandler⟩ := Option.isSome_iff_exists.mp known
  have htaker : handler = noteTaker base := by
    rw [withNoteTakers_handler?] at hhandler
    obtain ⟨-, -, rfl⟩ := Option.map_eq_some_iff.mp hhandler
    rfl
  rw [Engine.answer, hhandler, htaker]
  change (pure (Html.plainText (Directive.tell base (Text.trim param))) : RenderM String) = _
  rw [Directive.plainText_tell, Directive.tell_trim hbase, Directive.byNote]

/-- A pass with memory and a pass that evaluates each directive where it stands give the same text
with all pure handlers of some names exactly if no directive with such a name is met both with no
level left for it and with some. -/
theorem pass_eq_passAfresh_iff_steady (engine : Engine) (fuel : Nat) (request : Request)
    (s : String) (w : World) (hfuel : w.levels ≤ fuel) :
    (∀ other : Engine, other.IsPure → (∀ name, other.knows name = engine.knows name) →
        (other.pass fuel request s w).1 = (other.passAfresh fuel request s w).1) ↔
      Directive.Steady engine.knows w.levels s.toList := by
  constructor
  · intro hsame
    obtain ⟨base, hshort⟩ : ∃ base, s.toList.length < base := ⟨_, Nat.lt_succ_self _⟩
    have hknows : (engine.withNoteTakers base).knows = engine.knows :=
      funext (withNoteTakers_knows base)
    have hanswers : (engine.withNoteTakers base).AnswersBy request (Directive.byNote base) :=
      withNoteTakers_answersBy (by omega)
    have heq := hsame (engine.withNoteTakers base) (withNoteTakers_isPure base)
      (withNoteTakers_knows base)
    rw [hanswers.pass_eq hfuel, hanswers.passAfresh_eq hfuel, hknows] at heq
    exact Directive.steady_of_substitute_eq hshort heq
  · intro steady other hpure hknows
    obtain ⟨answer, hanswers⟩ := hpure.exists_answersBy request
    have hknows' : other.knows = engine.knows := funext hknows
    rw [hanswers.pass_eq hfuel, hanswers.passAfresh_eq hfuel, hknows']
    exact Directive.substitute_eq_shown_of_steady s steady

/-- With one level, a directive whose text was met in a parameter before is not what it would be. -/
theorem pass_eq_passAfresh_iff_steady_one_level :
    let engine := (Setup.plain 0).engine .empty ⟨Cache.Store.backend 0, ""⟩
    let w : World := { World.start .broken with render := .start 1 }
    w.levels ≤ 1 ∧
      ¬ ∀ other : Engine, other.IsPure → (∀ name, other.knows name = engine.knows name) →
        (other.pass 1 .anonymous "\x7bget:\x7bget:a\x7d\x7d\x7bget:a\x7d" w).1 =
          (other.passAfresh 1 .anonymous "\x7bget:\x7bget:a\x7d\x7d\x7bget:a\x7d" w).1 := by
  intro engine w
  have hlevels : w.levels ≤ 1 := le_refl 1
  refine ⟨hlevels, fun hsame => ?_⟩
  have steady := (pass_eq_passAfresh_iff_steady engine 1 .anonymous _ w hlevels).mp hsame
  have known : engine.knows "get" = true := by decide +kernel
  have inner : Directive.Reaches engine.knows 0 "\x7bget:a\x7d".toList 0 ⟨['g', 'e', 't'], ['a']⟩ :=
    .here (by decide +kernel) known
  have nested : Directive.Reaches engine.knows 1 "\x7bget:\x7bget:a\x7d\x7d\x7bget:a\x7d".toList 0
      ⟨['g', 'e', 't'], ['a']⟩ :=
    .inside (d := ⟨['g', 'e', 't'], "\x7bget:a\x7d".toList⟩) (by decide +kernel) known inner
  exact steady _ nested 0 (.here (by decide +kernel) known)

end Engine

end DynamicContent
