/-
# What normalization leaves alone

A renderer gets attributes that are merged with its defaults and have their texts processed. For that
anything may be asked of the handlers and renderers of an engine, and what they answer is not known here.
Whatever it is, it can only come to stand in the place of a text: names and their order are those of the
merged attributes, flags and integers stay, and lists keep their lengths and the lists inside. A text that
holds no brace and announces no shortcode or call stays as well.

All texts are processed with one memory of values, so what is said of an action here is said of it from
any memory and in any world.
-/

import DynamicContent.Engine.Setup
import DynamicContent.Proofs.Attribute.OrderedMap
import DynamicContent.Proofs.Element.PlainAttributes

namespace DynamicContent

/-! ## Values with other texts -/

/-- The second value is the first one with texts in the places of its texts, each of which is related to
the one whose place it takes. -/
inductive AttributeValue.IsRetexted (r : String → String → Prop) :
    AttributeValue → AttributeValue → Prop
  | flag (value : Bool) : IsRetexted r (.flag value) (.flag value)
  | int (n : Int) : IsRetexted r (.int n) (.int n)
  | text {s t : String} (h : r s t) : IsRetexted r (.text s) (.text t)
  | list {vs ws : List AttributeValue} (h : List.Forall₂ (IsRetexted r) vs ws) :
      IsRetexted r (.list vs) (.list ws)

namespace AttributeValue

variable {r : String → String → Prop} {w : AttributeValue}

theorem isRetexted_flag {value : Bool} : IsRetexted r (.flag value) w ↔ w = .flag value := by
  constructor
  · rintro ⟨⟩
    rfl
  · rintro rfl
    exact .flag value

theorem isRetexted_int {n : Int} : IsRetexted r (.int n) w ↔ w = .int n := by
  constructor
  · rintro ⟨⟩
    rfl
  · rintro rfl
    exact .int n

theorem isRetexted_text {s : String} :
    IsRetexted r (.text s) w ↔ ∃ t, r s t ∧ w = .text t := by
  constructor
  · intro h
    cases h with
    | text h => exact ⟨_, h, rfl⟩
  · rintro ⟨t, h, rfl⟩
    exact .text h

theorem isRetexted_list {vs : List AttributeValue} :
    IsRetexted r (.list vs) w ↔ ∃ ws, List.Forall₂ (IsRetexted r) vs ws ∧ w = .list ws := by
  constructor
  · intro h
    cases h with
    | list h => exact ⟨_, h, rfl⟩
  · rintro ⟨ws, h, rfl⟩
    exact .list h

end AttributeValue

namespace Attributes

variable {entries others : List (String × AttributeValue)} {r : String → String → Prop}

/-- Entries with the same names, whose values differ in their texts at most. -/
abbrev AreRetexted (r : String → String → Prop) :
    List (String × AttributeValue) → List (String × AttributeValue) → Prop :=
  List.Forall₂ fun entry other => other.1 = entry.1 ∧ entry.2.IsRetexted r other.2

theorem AreRetexted.names (h : AreRetexted r entries others) :
    names ⟨others⟩ = names ⟨entries⟩ := by
  induction h with
  | nil => rfl
  | cons hentry _ ih => rw [names_cons, names_cons, hentry.1, ih]

theorem AreRetexted.get? (h : AreRetexted r entries others) (name : String) :
    Option.Rel (AttributeValue.IsRetexted r) (Attributes.get? ⟨entries⟩ name)
      (Attributes.get? ⟨others⟩ name) := by
  induction h with
  | nil => exact .none
  | cons hentry _ ih =>
      simp only [Attributes.get?] at ih ⊢
      rw [List.find?_cons, List.find?_cons, hentry.1]
      split
      · exact .some hentry.2
      · exact ih

end Attributes

/-! ## Processing -/

namespace Element

/-- Whether a text announces a shortcode or a call, behind blanks and in any letter case. -/
def announcesCall (s : String) : Bool :=
  let start := Text.asciiLower (Text.trimStart s)
  Text.startsWith start "sc:" || Text.startsWith start "fn:"

/-- A text without a brace that announces nothing is the same as before. -/
def KeepsPlain (s t : String) : Prop := '{' ∉ s.toList → announcesCall s = false → t = s

theorem announcesCall_of_callOf? {s : String} {call : String × String} (h : callOf? s = some call) :
    announcesCall s = true := by
  have hstart : (Text.asciiLower (Text.trimStart s)).toList =
      (Text.trimStartChars s.toList).map Char.toLower := by
    rw [Text.asciiLower, Text.trimStart, String.toList_ofList, String.toList_ofList]
  have hshortcode : "sc:".toList = ['s', 'c', ':'] := rfl
  have hfunction : "fn:".toList = ['f', 'n', ':'] := rfl
  have hcolon : ':'.toLower = ':' := rfl
  rw [callOf?] at h
  rw [announcesCall, Text.startsWith, Text.startsWith, hstart, hshortcode, hfunction]
  split at h
  · next a b rest hchars =>
      rw [hchars, List.map_cons, List.map_cons, List.map_cons, hcolon]
      split at h
      · next ha hb => simp [ha, hb]
      · next ha hb => simp [ha, hb]
      · exact absurd h.symm (Option.some_ne_none call)
  · exact absurd h.symm (Option.some_ne_none call)

theorem isPlainText_of_not_announces {s : String} (hbrace : '{' ∉ s.toList)
    (hcall : announcesCall s = false) : isPlainText s = true := by
  have hnone : callOf? s = none := by
    rw [Option.eq_none_iff_forall_ne_some]
    intro call hsome
    rw [announcesCall_of_callOf? hsome] at hcall
    contradiction
  rw [isPlainText, hnone, Bool.and_eq_true, Bool.not_eq_true', List.contains_eq_mem]
  exact ⟨decide_eq_false hbrace, rfl⟩

end Element

namespace Engine

open Directive (Memo)
open AttributeValue (IsRetexted isRetexted_flag isRetexted_int isRetexted_text isRetexted_list)
open Attributes (AreRetexted)
open Element (KeepsPlain)

section

variable {α β : Type} {P : α → Prop} {Q : β → Prop}

/-- Every result of an action, from any memory and in any world, is of some kind. -/
def Always (action : StateT Memo RenderM α) (P : α → Prop) : Prop :=
  ∀ memo w, P (action.run memo w).1.1

theorem Always.pure {a : α} (h : P a) : Always (Pure.pure a) P := fun _ _ => h

theorem Always.bind {action : StateT Memo RenderM α} {next : α → StateT Memo RenderM β}
    (h : Always action P) (hnext : ∀ a, P a → Always (next a) Q) : Always (action >>= next) Q := by
  intro memo w
  have ha := h memo w
  exact hnext _ ha (action.run memo w).1.2 (action.run memo w).2

end

section

variable {process : String → StateT Memo RenderM String} {r : String → String → Prop}

mutual

theorem always_processText (h : ∀ s, Always (process s) (r s)) (v : AttributeValue) :
    Always (v.processText process) (v.IsRetexted r) := by
  cases v with
  | text t =>
      rw [AttributeValue.processText]
      refine (h t).bind ?_
      intro s hs
      exact .pure (.text hs)
  | list items =>
      rw [AttributeValue.processText]
      refine (always_processTexts h items).bind ?_
      intro others hothers
      exact .pure (.list hothers)
  | flag value => exact .pure (.flag value)
  | int n => exact .pure (.int n)

theorem always_processTexts (h : ∀ s, Always (process s) (r s)) (vs : List AttributeValue) :
    Always (AttributeValue.processTexts process vs) (List.Forall₂ (IsRetexted r) vs) := by
  cases vs with
  | nil => exact .pure .nil
  | cons v vs =>
      rw [AttributeValue.processTexts]
      refine (always_processText h v).bind ?_
      intro first hfirst
      refine (always_processTexts h vs).bind ?_
      intro others hothers
      exact .pure (.cons hfirst hothers)

end

theorem always_processEntries (h : ∀ s, Always (process s) (r s))
    (entries : List (String × AttributeValue)) :
    Always (Attributes.processEntries process entries) (AreRetexted r entries) := by
  induction entries with
  | nil => exact .pure .nil
  | cons entry rest ih =>
      rw [Attributes.processEntries]
      refine (always_processText h entry.2).bind ?_
      intro first hfirst
      refine ih.bind ?_
      intro others hothers
      exact .pure (.cons ⟨rfl, hfirst⟩ hothers)

/-- A plain text is neither resolved nor answered, and of others nothing is said. -/
theorem always_elementText (resolve : String → StateT Memo RenderM String)
    (answer : String → String → StateT Memo RenderM String) (s : String) :
    Always (Element.processText resolve answer s) (KeepsPlain s) := by
  intro memo w hbrace hcall
  rw [Element.processText_of_plain resolve answer
    (Element.isPlainText_of_not_announces hbrace hcall)]
  rfl

end

variable {attrs defaults : Attributes}

/-- The entries that normalization gives are the merged ones with other texts. -/
theorem normalize_entries (engine : Engine) (inner : Nested) (request : Request)
    (attrs defaults : Attributes) (tag content : String) (w : World) :
    AreRetexted KeepsPlain (attrs.withDefaults defaults).entries
      (engine.normalize inner request attrs defaults tag content w).1.entries := by
  have hprocess := always_processEntries (r := KeepsPlain)
    (always_elementText (engine.resolveWith inner request) fun name param =>
      engine.answer inner request name param) (attrs.withDefaults defaults).entries
  exact hprocess [] (engine.announce .beforeNormalize tag attrs content w).2

/-- Whatever an engine has registered, normalization does no more than to fill in defaults and to replace
texts. The names are those of the defaults in their order and then those that only the attributes have in
theirs. Under each name there is the explicit value, or else the default, with other texts at most: flags
and integers are the same, and a list has as many items as before, of the same kinds. A text without a
brace that announces no shortcode or call is not replaced. -/
theorem normalize_frame (engine : Engine) (inner : Nested) (request : Request)
    (hattrs : attrs.IsMap) (hdefaults : defaults.IsMap) (tag content : String) (w : World) :
    let normal := (engine.normalize inner request attrs defaults tag content w).1
    normal.names = defaults.names ++ attrs.names.filter (· ∉ defaults.names) ∧
      ∀ name, Option.Rel (IsRetexted KeepsPlain) ((attrs.get? name).or (defaults.get? name))
        (normal.get? name) := by
  intro normal
  have hretexted := engine.normalize_entries inner request attrs defaults tag content w
  constructor
  · calc
      normal.names = (attrs.withDefaults defaults).names := hretexted.names
      _ = defaults.names ++ attrs.names.filter (· ∉ defaults.names) :=
        hattrs.names_withDefaults defaults
  · intro name
    rw [← hattrs.get?_withDefaults hdefaults]
    exact hretexted.get? name

/-- The default that is lacking stands in front, an explicit text wins over its default, and of a list
only the text with a directive may have changed. -/
theorem normalize_frame_nested :
    let items (t : String) : AttributeValue :=
      .list [.flag true, .int 7, .list [.text " a "], .text t]
    let attrs : Attributes := ⟨[("class", .text "b"), ("items", items "\x7bget:x\x7d")]⟩
    let defaults : Attributes := ⟨[("before", .text ""), ("class", .text "plain")]⟩
    let engine := (Setup.plain 0).engine Site.empty ⟨Cache.Store.backend 0, ""⟩
    let normal := (engine.normalize engine.outermost Request.anonymous attrs defaults "qr" ""
      (World.start .broken)).1
    (attrs.IsMap ∧ defaults.IsMap) ∧ normal.names = ["before", "class", "items"] ∧
      normal.get? "CLASS" = some (.text "b") ∧ ∃ t, normal.get? "items" = some (items t) := by
  intro items attrs defaults engine
  have hattrs : attrs.IsMap := ⟨by decide +kernel, by decide +kernel, by decide +kernel⟩
  have hdefaults : defaults.IsMap := ⟨by decide +kernel, by decide +kernel, by decide +kernel⟩
  obtain ⟨hnames, hget⟩ := normalize_frame engine engine.outermost Request.anonymous hattrs hdefaults
    "qr" "" (World.start .broken)
  generalize (engine.normalize engine.outermost Request.anonymous attrs defaults "qr" ""
    (World.start .broken)).1 = normal at hnames hget ⊢
  have hclass : Option.Rel (IsRetexted KeepsPlain) (some (.text "b")) (normal.get? "CLASS") := by
    have hlower : Text.asciiLower "CLASS" = "class" := by decide +kernel
    have hfound := hget "CLASS"
    rwa [hattrs.get?_eq, hlower, Attributes.lookup_cons_eq, if_pos rfl, Option.some_or] at hfound
  have hitems : Option.Rel (IsRetexted KeepsPlain) (some (items "\x7bget:x\x7d"))
      (normal.get? "items") := by
    have hlower : Text.asciiLower "items" = "items" := by decide +kernel
    have hfound := hget "items"
    rwa [hattrs.get?_eq, hlower, Attributes.lookup_cons_eq, if_neg (by decide),
      Attributes.lookup_cons_eq, if_pos rfl, Option.some_or] at hfound
  refine ⟨⟨hattrs, hdefaults⟩, hnames.trans (by decide +kernel), ?_, ?_⟩
  · generalize normal.get? "CLASS" = found at hclass ⊢
    cases hclass with
    | some h =>
        obtain ⟨t, hkept, rfl⟩ := isRetexted_text.mp h
        rw [hkept (by decide +kernel) (by decide +kernel)]
  · generalize normal.get? "items" = found at hitems ⊢
    cases hitems with
    | some h =>
        simp only [items, isRetexted_list, isRetexted_flag, isRetexted_int, isRetexted_text,
          List.forall₂_cons_left_iff, List.forall₂_nil_left_iff, ↓existsAndEq, and_true,
          true_and] at h
        obtain ⟨t, kept, ⟨hkept, -⟩, rfl⟩ := h
        obtain rfl := hkept (by decide +kernel) (by decide +kernel)
        exact ⟨t, rfl⟩

end Engine

end DynamicContent
