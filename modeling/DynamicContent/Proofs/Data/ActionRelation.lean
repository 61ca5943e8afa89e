/-
# Relations between actions

What processes a text is written for actions of any kind: a pass over directives, the expansion of
shortcodes, the texts in attributes. So it does not distinguish actions that are alike in whatever
sense, as long as putting actions together keeps them alike. Such a sense is an `ActionRelation`,
and here is what each piece of text processing makes of one.
-/

import DynamicContent.Directive.Substitution
import DynamicContent.Element.Normalize
import DynamicContent.Shortcode.Piece

namespace DynamicContent

/-- A relation between actions that hold the same results, kept by putting actions together. -/
structure ActionRelation (m : Type → Type) [Monad m] where
  rel : {α : Type} → m α → m α → Prop
  pure_rel : ∀ {α : Type} (a : α), rel (pure a) (pure a)
  bind_rel : ∀ {α β : Type} {x y : m α} {f g : α → m β},
    rel x y → (∀ a, rel (f a) (g a)) → rel (x >>= f) (y >>= g)

namespace ActionRelation

variable {m : Type → Type} [Monad m] (R : ActionRelation m) {α β : Type}

theorem map [LawfulMonad m] {x y : m α} (f : α → β) (h : R.rel x y) :
    R.rel (f <$> x) (f <$> y) := by
  rw [map_eq_pure_bind, map_eq_pure_bind]
  exact R.bind_rel h fun a => R.pure_rel (f a)

/-- The relation between actions with a further state that are related from every such state. -/
def withState (σ : Type) : ActionRelation (StateT σ m) where
  rel x y := ∀ s, R.rel (x.run s) (y.run s)
  pure_rel a s := R.pure_rel (a, s)
  bind_rel hx hf s := R.bind_rel (hx s) fun p => hf p.1 p.2

theorem run' [LawfulMonad m] {σ : Type} {x y : StateT σ m α} (h : (R.withState σ).rel x y) (s : σ) :
    R.rel (x.run' s) (y.run' s) :=
  R.map Prod.fst (h s)

/-- An action that knows nothing of the further state leaves it as it is. -/
theorem lift {σ : Type} {x y : m α} (h : R.rel x y) :
    (R.withState σ).rel (StateT.lift x) (StateT.lift y) :=
  fun s => R.bind_rel h fun a => R.pure_rel (a, s)

section Directives

open Directive

variable {knows : String → Bool}

theorem value {evaluate evaluate' : Directive → StateT Memo m String} {d : Directive}
    (h : (R.withState Memo).rel (evaluate d) (evaluate' d)) :
    (R.withState Memo).rel (Directive.value evaluate d) (Directive.value evaluate' d) := by
  refine (R.withState Memo).bind_rel (fun memo => R.pure_rel (memo, memo)) fun memo => ?_
  split
  · exact (R.withState Memo).pure_rel _
  · exact (R.withState Memo).bind_rel h fun fresh =>
      (R.withState Memo).bind_rel (fun memo => R.pure_rel _) fun _ =>
        (R.withState Memo).pure_rel fresh

/-- A pass respects a relation, if evaluation does. -/
theorem substitute {evaluate evaluate' : Directive → StateT Memo m String}
    (h : ∀ d, (R.withState Memo).rel (evaluate d) (evaluate' d)) (s : String) :
    (R.withState Memo).rel (Directive.substitute knows evaluate s)
      (Directive.substitute knows evaluate' s) := by
  unfold Directive.substitute
  induction parts s.toList with
  | nil => exact (R.withState Memo).pure_rel ""
  | cons part rest ih =>
      refine (R.withState Memo).bind_rel ?_ fun first =>
        (R.withState Memo).bind_rel ih fun others => (R.withState Memo).pure_rel (first ++ others)
      cases part with
      | literal run => exact (R.withState Memo).pure_rel _
      | directive d =>
          simp only [Directive.replacePart]
          split
          · exact R.value (h d)
          · exact (R.withState Memo).pure_rel _

/-- Repeated passes respect a relation, if a pass does. -/
theorem settle {pass pass' : String → m String} (h : ∀ s, R.rel (pass s) (pass' s)) (n : Nat)
    (s : String) : R.rel (Directive.settle pass n s) (Directive.settle pass' n s) := by
  induction n generalizing s with
  | zero => exact R.pure_rel (s, false)
  | succ n ih =>
      refine R.bind_rel (h s) fun next => ?_
      split
      · exact R.pure_rel (s, true)
      · exact ih next

end Directives

/-- The expansion of shortcodes respects a relation, if what is done with each piece does. -/
theorem expand {tag s : String} {literal literal' : String → m String}
    {render render' : Attributes → String → m String}
    (hliteral : ∀ t, R.rel (literal t) (literal' t))
    (hrender : ∀ attrs content, R.rel (render attrs content) (render' attrs content)) :
    R.rel (Shortcode.expand tag s literal render) (Shortcode.expand tag s literal' render') := by
  unfold Shortcode.expand
  induction Shortcode.pieces tag.toList s.toList with
  | nil => exact R.pure_rel ""
  | cons piece rest ih =>
      refine R.bind_rel ?_ fun first => R.bind_rel ih fun others => R.pure_rel (first ++ others)
      cases piece with
      | literal run => exact hliteral _
      | escaped source => exact R.pure_rel _
      | shortcode opening enclosed => exact hrender _ _

section Attributes

variable {process process' : String → m String}

mutual

theorem processValue (h : ∀ s, R.rel (process s) (process' s)) (v : AttributeValue) :
    R.rel (v.processText process) (v.processText process') := by
  cases v with
  | text t => exact R.bind_rel (h t) fun s => R.pure_rel (AttributeValue.text s)
  | list items =>
      exact R.bind_rel (processValues h items) fun vs => R.pure_rel (AttributeValue.list vs)
  | flag value => exact R.pure_rel (AttributeValue.flag value)
  | int n => exact R.pure_rel (AttributeValue.int n)

theorem processValues (h : ∀ s, R.rel (process s) (process' s)) (vs : List AttributeValue) :
    R.rel (AttributeValue.processTexts process vs) (AttributeValue.processTexts process' vs) := by
  cases vs with
  | nil => exact R.pure_rel []
  | cons v vs =>
      exact R.bind_rel (processValue h v) fun first =>
        R.bind_rel (processValues h vs) fun others => R.pure_rel (first :: others)

end

/-- Processing the texts in attributes respects a relation, if processing a text does. -/
theorem processAttributes (h : ∀ s, R.rel (process s) (process' s)) (attrs : Attributes) :
    R.rel (attrs.processText process) (attrs.processText process') := by
  unfold Attributes.processText
  refine R.bind_rel ?_ fun entries => R.pure_rel (Attributes.mk entries)
  induction attrs.entries with
  | nil => exact R.pure_rel []
  | cons entry rest ih =>
      exact R.bind_rel (R.processValue h entry.2) fun first =>
        R.bind_rel ih fun others => R.pure_rel ((entry.1, first) :: others)

end Attributes

/-- Answering what may be a call respects a relation, if answering does. -/
theorem answerCall {answer answer' : String → String → m String}
    (hanswer : ∀ name param, R.rel (answer name param) (answer' name param)) (resolved : String) :
    R.rel (match Element.callOf? resolved with
        | some (name, param) => answer name param
        | none => pure resolved)
      (match Element.callOf? resolved with
        | some (name, param) => answer' name param
        | none => pure resolved) := by
  split
  · exact hanswer _ _
  · exact R.pure_rel resolved

/-- Processing a text of an attribute respects a relation, if resolving and answering do. -/
theorem processText {resolve resolve' : String → m String}
    {answer answer' : String → String → m String}
    (hresolve : ∀ s, R.rel (resolve s) (resolve' s))
    (hanswer : ∀ name param, R.rel (answer name param) (answer' name param)) (s : String) :
    R.rel (Element.processText resolve answer s) (Element.processText resolve' answer' s) := by
  unfold Element.processText
  dsimp only
  split
  · exact R.bind_rel (hresolve s) (R.answerCall hanswer)
  · exact R.bind_rel (R.pure_rel s) (R.answerCall hanswer)

end ActionRelation

end DynamicContent
