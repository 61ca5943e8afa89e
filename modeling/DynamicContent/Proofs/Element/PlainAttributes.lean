/-
# Attributes that stand for themselves

A text that has no brace and does not begin like a shortcode or the call of a function is what it
says. Attributes all of whose texts are such are handed to a renderer as they are: nothing is
asked of any handler for them.
-/

import DynamicContent.Element.Normalize

namespace DynamicContent

namespace Element

/-- Whether a text among attributes stands for itself. -/
def isPlainText (s : String) : Bool := !s.toList.contains '\x7b' && (callOf? s).isNone

end Element

mutual

/-- Whether all texts in a value stand for themselves. -/
def AttributeValue.isPlain : AttributeValue → Bool
  | .text t => Element.isPlainText t
  | .list items => AttributeValue.arePlain items
  | .flag _ => true
  | .int _ => true

/-- Whether all texts in some values stand for themselves. -/
def AttributeValue.arePlain : List AttributeValue → Bool
  | [] => true
  | v :: vs => v.isPlain && AttributeValue.arePlain vs

end

/-- Attributes all of whose texts stand for themselves. -/
def Attributes.IsPlain (attrs : Attributes) : Prop :=
  ∀ entry ∈ attrs.entries, entry.2.isPlain = true

instance (attrs : Attributes) : Decidable attrs.IsPlain :=
  inferInstanceAs (Decidable (∀ entry ∈ attrs.entries, entry.2.isPlain = true))

/-! ## Defaults -/

namespace Attributes

theorem forall_mem_put {name : String} {v : AttributeValue} (hv : v.isPlain = true)
    {entries : List (String × AttributeValue)} (h : ∀ entry ∈ entries, entry.2.isPlain = true) :
    ∀ entry ∈ put name v entries, entry.2.isPlain = true := by
  induction entries with
  | nil => exact List.forall_mem_singleton.mpr hv
  | cons entry rest ih =>
      rw [List.forall_mem_cons] at h
      rw [put]
      split
      · exact List.forall_mem_cons.mpr ⟨hv, h.2⟩
      · exact List.forall_mem_cons.mpr ⟨h.1, ih h.2⟩

/-- Plain attributes with plain defaults are plain. -/
theorem IsPlain.withDefaults {attrs defaults : Attributes} (h : attrs.IsPlain)
    (hdefaults : defaults.IsPlain) : (attrs.withDefaults defaults).IsPlain := by
  obtain ⟨entries⟩ := attrs
  rw [IsPlain] at h
  rw [Attributes.withDefaults]
  induction entries generalizing defaults with
  | nil => exact hdefaults
  | cons entry rest ih =>
      rw [List.forall_mem_cons] at h
      exact ih (forall_mem_put h.1 hdefaults) h.2

end Attributes

/-! ## Processing -/

section

variable {m : Type → Type} [Monad m] [LawfulMonad m]

/-- A plain text is neither resolved nor answered. -/
theorem Element.processText_of_plain (resolve : String → m String)
    (answer : String → String → m String) {s : String} (h : isPlainText s = true) :
    processText resolve answer s = pure s := by
  rw [isPlainText, Bool.and_eq_true, Bool.not_eq_true', Option.isNone_iff_eq_none] at h
  simp only [processText, h.1, if_neg Bool.false_ne_true, pure_bind, h.2]

variable {process : String → m String}

mutual

theorem AttributeValue.processText_of_plain
    (hprocess : ∀ s, Element.isPlainText s = true → process s = pure s) (v : AttributeValue)
    (h : v.isPlain = true) : v.processText process = pure v := by
  cases v with
  | text t => rw [processText, hprocess t h, pure_bind]
  | list items => rw [processText, processTexts_of_plain hprocess items h, pure_bind]
  | flag value => rw [processText]
  | int n => rw [processText]

theorem AttributeValue.processTexts_of_plain
    (hprocess : ∀ s, Element.isPlainText s = true → process s = pure s)
    (vs : List AttributeValue) (h : arePlain vs = true) : processTexts process vs = pure vs := by
  cases vs with
  | nil => rw [processTexts]
  | cons v vs =>
      rw [arePlain, Bool.and_eq_true] at h
      rw [processTexts, processText_of_plain hprocess v h.1, pure_bind,
        processTexts_of_plain hprocess vs h.2, pure_bind]

end

/-- Plain attributes stay as they are if plain texts do. -/
theorem Attributes.IsPlain.processText_eq
    (hprocess : ∀ s, Element.isPlainText s = true → process s = pure s) {attrs : Attributes}
    (h : attrs.IsPlain) : attrs.processText process = pure attrs := by
  have hentries (entries : List (String × AttributeValue))
      (h : ∀ entry ∈ entries, entry.2.isPlain = true) :
      processEntries process entries = pure entries := by
    induction entries with
    | nil => rfl
    | cons entry rest ih =>
        rw [List.forall_mem_cons] at h
        rw [processEntries, entry.2.processText_of_plain hprocess h.1, pure_bind, ih h.2, pure_bind]
  rw [Attributes.processText, hentries attrs.entries h, pure_bind]

end

end DynamicContent
