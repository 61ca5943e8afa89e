/-
# Ordinary text stays as it is

Most of a page is no markup, though it may have brackets and braces. Where no shortcode opens, a text
is one literal run, and where no directive has a name that is known, a pass copies it, with whatever
stands in the directives that nobody knows. So the first pass is the last one, and that is all that
happens: nothing is asked of the cache, nothing is counted and no asset is needed.

Nothing is assumed of the engine or of the name of its shortcodes.
-/

import DynamicContent.Proofs.Directive.Scan
import DynamicContent.Proofs.Engine.Setup
import DynamicContent.Proofs.Shortcode.Written
import Mathlib.Data.List.Infix

namespace DynamicContent

namespace Shortcode

variable {tag : List Char}

/-- No shortcode opens in a text: behind a bracket and the name of a tag there is never a blank, a
closing bracket or a slash. -/
def NeverOpens (tag cs : List Char) : Prop :=
  ∀ front c behind, cs = front ++ '[' :: (tag ++ c :: behind) →
    Text.isBlank c = false ∧ c ≠ ']' ∧ c ≠ '/'

/-- The name of a tag does not end behind a bracket. -/
theorem NeverOpens.endsName_eq_false {cs after : List Char} (h : NeverOpens tag cs)
    (front : List Char) (hsplit : cs = front ++ '[' :: (tag ++ after)) : endsName after = false := by
  cases after with
  | nil => rfl
  | cons c behind =>
      obtain ⟨hblank, hclose, hslash⟩ := h front c behind hsplit
      simp [endsName, hblank, hclose, hslash]

/-- Whether a shortcode opens is to be seen in front of each end of a text. -/
theorem neverOpens_iff {cs : List Char} : NeverOpens tag cs ↔
    ∀ back ∈ cs.tails, ∀ after ∈ Text.afterStart? ('[' :: tag) back, endsName after = false := by
  constructor
  · intro h back hback after hafter
    obtain ⟨front, hsplit⟩ := (List.mem_tails _ _).mp hback
    refine h.endsName_eq_false front ?_
    rw [← hsplit, Text.afterStart?_eq_some_iff.mp hafter, List.cons_append]
  · intro h front c behind hsplit
    have hback : '[' :: (tag ++ c :: behind) ∈ cs.tails :=
      (List.mem_tails _ _).mpr ⟨front, hsplit.symm⟩
    have hends := h _ hback (c :: behind) (Text.afterStart?_eq_some_iff.mpr (by simp))
    simpa [endsName, and_assoc] using hends

instance (tag cs : List Char) : Decidable (NeverOpens tag cs) :=
  decidable_of_iff _ neverOpens_iff.symm

/-- Where no shortcode opens, nothing is read. -/
theorem NeverOpens.pieceAt?_eq_none {cs front back : List Char} (h : NeverOpens tag cs)
    (hsplit : cs = front ++ back) : pieceAt? tag back = none := by
  unfold pieceAt?
  split
  · next rest =>
      have hescaped : escapedAt? tag ('[' :: rest) = none := by
        unfold escapedAt?
        cases hafter : Text.afterStart? ('[' :: '[' :: tag) ('[' :: rest) with
        | none => rfl
        | some after =>
            have hends : endsName after = false := by
              refine h.endsName_eq_false (front ++ ['[']) ?_
              rw [hsplit, Text.afterStart?_eq_some_iff.mp hafter]
              simp
            simp [hends]
      have hshortcode : shortcodeAt? tag ('[' :: rest) = none := by
        unfold shortcodeAt?
        cases hafter : Text.afterStart? ('[' :: tag) ('[' :: rest) with
        | none => rfl
        | some after =>
            have hends : endsName after = false := by
              refine h.endsName_eq_false front ?_
              rw [hsplit, Text.afterStart?_eq_some_iff.mp hafter, List.cons_append]
            simp [hends]
      rw [hescaped, hshortcode]
      rfl
  · rfl

/-- Where no shortcode opens, a text is one literal run. -/
theorem NeverOpens.pieces_eq {cs : List Char} (h : NeverOpens tag cs) :
    pieces tag cs = flush cs.reverse := by
  have hunread : piecesFrom tag [] 0 (cs ++ []) = piecesFrom tag (cs.reverse ++ []) 0 [] := by
    refine piecesFrom_unread ?_ []
    intro front back hsplit _
    rw [List.append_nil]
    exact h.pieceAt?_eq_none hsplit
  rw [List.append_nil, List.append_nil] at hunread
  rw [pieces, hunread, piecesFrom]

end Shortcode

namespace Engine

variable {engine : Engine} {inner : Nested} {request : Request} {s : String}

/-- A text in which no directive is known is resolved by copying it. -/
theorem resolveWith_of_unknown
    (h : ∀ d ∈ Directive.scan s.toList, engine.knows d.nameText = false) :
    engine.resolveWith inner request s = pure s := by
  have hbound : 0 < engine.passBound := Nat.le_max_left 1 _
  have hpass : Directive.substitute engine.knows (inner.evaluate request) s = pure s :=
    Directive.substitute_of_unknown h
  dsimp only [resolveWith]
  rw [Directive.settle_of_pass_eq_pure hpass hbound, pure_bind]
  rfl

theorem resolveFor_of_unknown
    (h : ∀ d ∈ Directive.scan s.toList, engine.knows d.nameText = false) :
    engine.resolveFor inner request s = pure s := by
  rw [resolveFor, resolveWith_of_unknown h]
  rfl

/-- Where besides no shortcode opens, a text is expanded by copying it. -/
theorem expandFor_of_unknown
    (h : ∀ d ∈ Directive.scan s.toList, engine.knows d.nameText = false)
    (hopens : Shortcode.NeverOpens engine.host.tag.toList s.toList) :
    engine.expandFor inner request s = pure s := by
  have hrun : Shortcode.expandRun (engine.resolveWith inner request) s = pure s := by
    rw [Shortcode.expandRun, resolveWith_of_unknown h]
    by_cases hempty : s = ""
    · rw [hempty]
      rfl
    · rw [if_neg (by simpa using hempty)]
  rw [expandFor, Shortcode.expand, hopens.pieces_eq, Shortcode.expandPieces_flush, hrun]
  rfl

/-- A text comes back as it is, needs no assets, and leaves the world alone but for the state of the
rendering, if no directive that a scan finds in it has a handler and, where shortcodes are expanded, no
shortcode opens. -/
theorem untouched_of_unknown (engine : Engine) (request : Request) (s : String) (w : World)
    (hunknown : ∀ d ∈ Directive.scan s.toList, engine.handler? d.nameText = none) :
    engine.resolveFragment request s w =
        (⟨s, []⟩, { w with render := .start engine.host.limits.maxDepth }) ∧
      (Shortcode.NeverOpens engine.host.tag.toList s.toList →
        engine.expandFragment request s w =
          (⟨s, []⟩, { w with render := .start engine.host.limits.maxDepth })) := by
  have h : ∀ d ∈ Directive.scan s.toList, engine.knows d.nameText = false := by
    intro d hd
    rw [knows, hunknown d hd]
    rfl
  constructor
  · rw [resolveFragment, resolveFor_of_unknown h]
    rfl
  · intro hopens
    rw [expandFragment, expandFor_of_unknown h hopens]
    rfl

/-- Accents, a known directive in one that nobody knows, and braces and brackets of which none begins
anything. -/
theorem untouched_of_unknown_nested :
    let engine := (Setup.plain 0).engine .empty ⟨Cache.Store.backend 0, ""⟩
    let w := World.start (.memory (.empty 10))
    let s := "\xe9t\xe9 \x7bmath:\x7bget:q\x7d\x7d \x7bx:1\x7d \x7d\x7b [wefts] [[ [/weft] \x7bget:q"
    engine.expandFragment .anonymous s w = (⟨s, []⟩, { w with render := .start 10 }) := by
  intro engine w s
  have hscan : Directive.scan s.toList = [⟨"math".toList, "\x7bget:q\x7d".toList⟩] := by
    rw [← Directive.filterMap_parts]
    decide +kernel
  have hunknown : ∀ d ∈ Directive.scan s.toList, engine.handler? d.nameText = none := by
    intro d hd
    rw [hscan, List.mem_singleton] at hd
    rw [hd]
    exact Option.isNone_iff_eq_none.mp (by decide +kernel)
  have hopens : Shortcode.NeverOpens engine.host.tag.toList s.toList := by
    rw [Setup.engine_host]
    decide +kernel
  exact (untouched_of_unknown engine .anonymous s w hunknown).2 hopens

end Engine

end DynamicContent
