/-
# How plain the answer to a directive is

Whatever a handler of text answers is cleaned before it is put into a page, and no step of a
rendering cleans the text around directives again. A value of the request may be anything, so what
cleaning promises about any text is all that is promised about an answer.

The promise about blanks is kept always. The one about markup is not: a tag may be written around
another one, and only the inner one is removed. The answer is plain just if no element begins in it,
and this is so at least where nothing was left of the markup that could begin one.
-/

import DynamicContent.Engine.Setup
import DynamicContent.Proofs.Html.PlainText

namespace DynamicContent

namespace Engine

/-- For each handler of text: no blank of its answer is more than a space between two other
characters. To clean the answer again, or to remove its markup again, changes nothing just if no
element begins in it; and none does where removing the markup of the raw answer left no `<`. -/
theorem answer_plain_iff_tagless (engine : Engine) (inner : Nested) (request : Request)
    (name param : String) (handler : Handler) (hhandler : engine.handler? name = some handler)
    (htext : handler.cleaner = .text) (w : World) :
    let raw := (handler.answer (Text.trim param) (engine.scope inner request) w).1
    let r := (engine.answer inner request name param w).1
    Html.IsSpaced false r.toList ∧
      (Html.plainText r = r ↔ Html.Tagless r.toList) ∧
      (Html.strip r = r ↔ Html.Tagless r.toList) ∧
      ('<' ∉ (Html.strip raw).toList → Html.plainText r = r) := by
  intro raw r
  have hr : r = Html.plainText raw := by
    change (engine.answer inner request name param w).1 = _
    rw [answer, hhandler]
    change clean handler.cleaner raw = _
    rw [htext]
    rfl
  have hspaced : Html.IsSpaced false r.toList := by
    rw [hr]
    exact Html.isSpaced_plainText raw
  have hplain : Html.plainText r = r ↔ Html.Tagless r.toList := by
    rw [Html.plainText_eq_self_iff]
    exact and_iff_right hspaced
  refine ⟨hspaced, hplain, Html.strip_eq_self_iff r, fun hnone => ?_⟩
  rw [Html.strip, String.toList_ofList] at hnone
  refine hplain.mpr (.of_not_mem ?_)
  rw [hr]
  exact Html.not_mem_plainText hnone

/-- A script written around the tags of another element is a value of the request whose answer is a
script. -/
theorem answer_plain_iff_tagless_joined :
    let engine := (Setup.plain 0).engine .empty ⟨Cache.Store.backend 0, ""⟩
    let request : Request := { Request.anonymous with
      query := [("a", "<<b>script>alert(1)<<b>/script>")] }
    let r := (engine.answer engine.outermost request "get" "a" (.start .broken)).1
    engine.handler? "get" = some Handler.queryValue ∧ Handler.queryValue.cleaner = .text ∧
      r = "<script>alert(1)</script>" ∧ Html.plainText r = "" ∧ ¬ Html.Tagless r.toList := by
  intro engine request r
  have hhandler : engine.handler? "get" = some Handler.queryValue := rfl
  have hr : r = "<script>alert(1)</script>" := by decide +kernel
  have hempty : Html.plainText r = "" := by
    rw [hr]
    decide +kernel
  have htagless := (answer_plain_iff_tagless engine engine.outermost request "get" "a" _ hhandler
    rfl (.start .broken)).2.1
  refine ⟨hhandler, rfl, hr, hempty, fun h => ?_⟩
  have hplain : Html.plainText r = r := htagless.mpr h
  rw [hempty, hr] at hplain
  exact absurd hplain (by decide)

end Engine

end DynamicContent
