/-
# What removing markup leaves

Removing the tags of elements is one pass over a text, and what a pass leaves is read by nobody. So
the characters around a removed tag may form a tag that was not there before, and the next pass
would remove that one.

Which texts a pass leaves as they are can be said without the pass: those in which no element
begins. As long as none does, no element is open either, and everything stays that is removed only
inside of elements: end tags that close nothing, comments, and whatever else begins like a tag.
-/

import DynamicContent.Html.Strip
import DynamicContent.Proofs.Html.Token

namespace DynamicContent.Html

/-- A text in which no element begins: reading it part by part gives no start tag. -/
inductive Tagless : List Char → Prop
  | text {cs : List Char} (read : takeData cs = (cs, [])) : Tagless cs
  | markup {cs text inside rest : List Char} {c : Char} {markup : Markup}
      (read : takeData cs = (text, c :: inside)) (taken : takeMarkup false inside = (markup, rest))
      (noStart : ∀ tag, markup ≠ .startTag tag) (more : Tagless rest) : Tagless cs

/-! ## One part of a text -/

/-- What is kept of a part. -/
def keptIf (keep : Bool) (part : List Char) : List Char := if keep then part else []

theorem keptIf_sublist (keep : Bool) (part : List Char) : (keptIf keep part).Sublist part := by
  cases keep with
  | true => exact .refl part
  | false => exact List.nil_sublist part

/-- What markup does to a reading, and whether its source is kept; `none` if it is ambiguous. -/
def Reading.after? (r : Reading) : Markup → Option (Reading × Bool)
  | .startTag tag => (r.startTag? tag).map fun r' => (r', false)
  | .endTag tag =>
    some ((r.endTag tag.name).1, !(r.endTag tag.name).2 && (r.endTag tag.name).1.keepsText)
  | .comment _ => some (r, r.opened.isEmpty && r.keepsText)
  | _ => some (r, r.keepsText)

section

variable {n : Nat} {r : Reading} {cs text inside rest out : List Char} {c : Char} {markup : Markup}

/-- Nothing is read of an empty text. -/
theorem takeText_nil (mode : TextMode) (name : String) : takeText mode name [] = ([], []) := by
  cases mode <;> rfl

/-- Where no markup follows, the rest of a text is text. -/
theorem stripFrom_text (read : takeText r.mode r.lastStart cs = (text, [])) :
    stripFrom (n + 1) r cs = some (keptIf r.keepsText text) := by
  cases cs with
  | nil =>
      rw [takeText_nil, Prod.mk.injEq] at read
      rw [← read.1]
      cases r.keepsText <;> rfl
  | cons d cs =>
      rw [stripFrom, read]
      · rfl
      · simp

/-- Text before markup is kept or not, and so is the markup, and what follows is read on. -/
theorem stripFrom_markup (read : takeText r.mode r.lastStart cs = (text, c :: inside))
    (taken : takeMarkup (r.current != .html) inside = (markup, rest)) :
    stripFrom (n + 1) r cs = (r.after? markup).bind fun after =>
      (stripFrom n after.1 rest).map fun others =>
        keptIf r.keepsText text ++
          keptIf after.2 ((c :: inside).take ((c :: inside).length - rest.length)) ++ others := by
  cases cs with
  | nil => simp [takeText_nil] at read
  | cons d cs =>
      rw [stripFrom, read]
      · dsimp only
        rw [taken]
        cases markup with
        | startTag tag =>
          simp only [Reading.after?]
          cases r.startTag? tag <;> rfl
        | _ => rfl
      · simp

/-- Markup and what follows it are what was to be read. -/
theorem take_append_of_takeMarkup {foreign : Bool}
    (taken : takeMarkup foreign inside = (markup, rest)) (c : Char) :
    (c :: inside).take ((c :: inside).length - rest.length) ++ rest = c :: inside := by
  have hsuffix := takeMarkup_suffix foreign inside
  rw [taken] at hsuffix
  obtain ⟨front, hfront⟩ := hsuffix.trans (List.suffix_cons c inside)
  simp [← hfront]

/-! ## All parts -/

/-- Removing markup leaves some of the characters in their order. -/
theorem stripFrom_sublist (hout : stripFrom n r cs = some out) : out.Sublist cs := by
  induction n generalizing r cs out with
  | zero =>
      obtain rfl : [] = out := by simpa [stripFrom] using hout
      exact List.nil_sublist cs
  | succ n ih =>
      have hcs := takeText_append r.mode r.lastStart cs
      generalize hread : takeText r.mode r.lastStart cs = read at hcs
      obtain ⟨text, behind⟩ := read
      cases behind with
      | nil =>
          rw [stripFrom_text hread, Option.some.injEq] at hout
          simp only [List.append_nil] at hcs
          rw [← hout, ← hcs]
          exact keptIf_sublist _ _
      | cons c inside =>
          generalize htaken : takeMarkup (r.current != .html) inside = taken
          obtain ⟨markup, rest⟩ := taken
          rw [stripFrom_markup hread htaken] at hout
          simp only [Option.bind_eq_some_iff, Option.map_eq_some_iff] at hout
          obtain ⟨⟨r', keep⟩, -, others, hothers, rfl⟩ := hout
          have hsplit : cs =
              text ++ (c :: inside).take ((c :: inside).length - rest.length) ++ rest := by
            rw [List.append_assoc, take_append_of_takeMarkup htaken]
            exact hcs.symm
          rw [hsplit]
          exact ((keptIf_sublist _ _).append (keptIf_sublist _ _)).append (ih hothers)

/-- A reading outside of every element. -/
structure Reading.IsOutside (r : Reading) : Prop where
  opened : r.opened = []
  namespaces : r.namespaces = [.html]
  mode : r.mode = .data

theorem Reading.IsOutside.keepsText (h : r.IsOutside) : r.keepsText = true := by
  rw [Reading.keepsText, h.opened]
  rfl

theorem Reading.IsOutside.current (h : r.IsOutside) : (r.current != .html) = false := by
  rw [Reading.current, h.namespaces]
  rfl

/-- Outside of every element all markup is kept that does not begin one. -/
theorem Reading.IsOutside.exists_after (h : r.IsOutside) (noStart : ∀ tag, markup ≠ .startTag tag) :
    ∃ r', r'.IsOutside ∧ r.after? markup = some (r', true) := by
  have hkeeps := h.keepsText
  cases markup with
  | startTag tag => exact absurd rfl (noStart tag)
  | endTag tag =>
      let r' : Reading := { r with enclosure := r.enclosure.afterEnd tag.name, mode := .data }
      have houtside : r'.IsOutside := ⟨h.opened, h.namespaces, rfl⟩
      have hend : r.endTag tag.name = (r', false) := by
        simp [Reading.endTag, Reading.exitNamespace, h.namespaces, h.opened, r']
      refine ⟨r', houtside, ?_⟩
      rw [Reading.after?, hend, houtside.keepsText]
      rfl
  | comment content => exact ⟨r, h, by simp [Reading.after?, h.opened, hkeeps]⟩
  | _ => exact ⟨r, h, by simp [Reading.after?, hkeeps]⟩

/-- Behind markup there is less to read. -/
theorem length_lt_of_takeMarkup {foreign : Bool} (hcs : text ++ c :: inside = cs)
    (taken : takeMarkup foreign inside = (markup, rest)) :
    text.length + rest.length < cs.length := by
  have hsuffix := takeMarkup_suffix foreign inside
  rw [taken] at hsuffix
  have hlength : rest.length ≤ inside.length := hsuffix.length_le
  rw [← hcs, List.length_append, List.length_cons]
  omega

/-- Outside of every element a text in which none begins stays as it is. -/
theorem Tagless.stripFrom_eq (htagless : Tagless cs) (houtside : r.IsOutside)
    (hroom : cs.length < n) : stripFrom n r cs = some cs := by
  induction htagless generalizing r n with
  | @text cs read =>
      obtain ⟨n, rfl⟩ : ∃ m, n = m + 1 := ⟨n - 1, by omega⟩
      have hread : takeText r.mode r.lastStart cs = (cs, []) := by rw [houtside.mode]; exact read
      rw [stripFrom_text hread, houtside.keepsText]
      rfl
  | @markup cs text inside rest c markup read taken noStart more ih =>
      obtain ⟨n, rfl⟩ : ∃ m, n = m + 1 := ⟨n - 1, by omega⟩
      have hread : takeText r.mode r.lastStart cs = (text, c :: inside) := by
        rw [houtside.mode]
        exact read
      have htaken : takeMarkup (r.current != .html) inside = (markup, rest) := by
        rw [houtside.current]
        exact taken
      have hcs : text ++ c :: inside = cs := by
        have happend := takeText_append r.mode r.lastStart cs
        rwa [hread] at happend
      have hless := length_lt_of_takeMarkup hcs taken
      obtain ⟨r', houtside', hafter⟩ := houtside.exists_after noStart
      rw [stripFrom_markup hread htaken, hafter, Option.bind_some, ih houtside' (by omega),
        Option.map_some, houtside.keepsText]
      simp only [keptIf, if_true]
      rw [List.append_assoc, take_append_of_takeMarkup taken, hcs]

/-- Outside of every element a text in which one begins becomes shorter. -/
theorem length_stripFrom_lt (hbegins : ¬ Tagless cs) (houtside : r.IsOutside)
    (hout : stripFrom n r cs = some out) : out.length < cs.length := by
  induction n generalizing r cs out with
  | zero =>
      obtain rfl : [] = out := by simpa [stripFrom] using hout
      refine List.length_pos_of_ne_nil ?_
      rintro rfl
      exact hbegins (.text rfl)
  | succ n ih =>
      have hcs := takeText_append r.mode r.lastStart cs
      generalize hread : takeText r.mode r.lastStart cs = read at hcs
      obtain ⟨text, behind⟩ := read
      have hdata : takeData cs = (text, behind) := by rw [← hread, houtside.mode]; rfl
      cases behind with
      | nil =>
          simp only [List.append_nil] at hcs
          rw [hcs] at hdata
          exact absurd (.text hdata) hbegins
      | cons c inside =>
          generalize htaken : takeMarkup false inside = taken
          obtain ⟨markup, rest⟩ := taken
          have htaken' : takeMarkup (r.current != .html) inside = (markup, rest) := by
            rw [houtside.current]
            exact htaken
          have hless : text.length + rest.length < cs.length := length_lt_of_takeMarkup hcs htaken
          have hsource := congrArg List.length (take_append_of_takeMarkup htaken c)
          have hlength := congrArg List.length hcs
          simp only [List.length_append] at hsource hlength
          rw [stripFrom_markup hread htaken', houtside.keepsText] at hout
          simp only [Option.bind_eq_some_iff, Option.map_eq_some_iff] at hout
          obtain ⟨⟨r', keep⟩, hafter, others, hothers, rfl⟩ := hout
          simp only [keptIf, if_true, List.length_append]
          by_cases hstart : ∃ tag, markup = .startTag tag
          · -- The tag is gone, and nothing comes in its place.
            obtain ⟨tag, rfl⟩ := hstart
            obtain ⟨_, _, hpair⟩ := Option.map_eq_some_iff.mp hafter
            obtain rfl : false = keep := congrArg Prod.snd hpair
            have hshort : others.length ≤ rest.length := (stripFrom_sublist hothers).length_le
            simp only [Bool.false_eq_true, if_false, List.length_nil]
            omega
          · -- The markup stays, so the first element begins behind it.
            rw [not_exists] at hstart
            obtain ⟨r'', houtside', hafter'⟩ := houtside.exists_after hstart
            obtain ⟨rfl, rfl⟩ : r'' = r' ∧ true = keep := by
              simpa using hafter'.symm.trans hafter
            have hshort := ih (fun hmore => hbegins (.markup hdata htaken hstart hmore)) houtside'
              hothers
            simp only [if_true]
            omega

end

/-! ## A whole text -/

/-- A text without `<` is text only. -/
theorem Tagless.of_not_mem {cs : List Char} (h : '<' ∉ cs) : Tagless cs := by
  have hread : takeData cs = (cs, []) := by
    induction cs with
    | nil => rfl
    | cons c cs ih =>
        rw [List.mem_cons, not_or] at h
        have hc : (c == '<') = false := beq_false_of_ne fun heq => h.1 heq.symm
        rw [takeData, hc, ih h.2]
        rfl
  exact .text hread

theorem isOutside_start : Reading.start.IsOutside := ⟨rfl, rfl, rfl⟩

/-- Removing markup leaves some of the characters in their order. -/
theorem stripChars_sublist (cs : List Char) : (stripChars cs).Sublist cs := by
  unfold stripChars
  split
  · cases hout : stripFrom (cs.length + 1) .start cs with
    | none => exact List.nil_sublist cs
    | some out => exact stripFrom_sublist hout
  · exact .refl cs

/-- Removing markup leaves just those texts as they are in which no element begins. -/
theorem stripChars_eq_self_iff {cs : List Char} : stripChars cs = cs ↔ Tagless cs := by
  by_cases hmem : '<' ∈ cs
  · rw [stripChars, if_pos (List.contains_iff_mem.mpr hmem)]
    constructor
    · intro hkept
      by_contra hbegins
      cases hout : stripFrom (cs.length + 1) .start cs with
      | none =>
          rw [hout] at hkept
          rw [← show [] = cs from hkept] at hbegins
          exact hbegins (.text rfl)
      | some out =>
          rw [hout] at hkept
          have hshort := length_stripFrom_lt hbegins isOutside_start hout
          rw [show out = cs from hkept] at hshort
          exact lt_irrefl _ hshort
    · intro htagless
      rw [htagless.stripFrom_eq isOutside_start (Nat.lt_succ_self _)]
      rfl
  · rw [stripChars, if_neg (by simpa using hmem)]
    exact iff_of_true rfl (.of_not_mem hmem)

end DynamicContent.Html
