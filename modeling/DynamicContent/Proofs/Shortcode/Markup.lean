/-
# What a piece of markup is

The reader of shortcodes decides at each bracket whether an escaped tag or a shortcode begins there.
This file says what it decides without following it: `IsOpening` is the grammar of what stands in an
opening tag, and `Piece.Marks` says which pieces can stand before a given text.
`pieceAt?_eq_some_iff` is the agreement of the two, and the only place where the reader's own steps
are followed.
-/

import DynamicContent.Proofs.Text.Casing
import DynamicContent.Shortcode.Piece

namespace DynamicContent.Shortcode

/-- Letters, digits, `_` and `-` are no brackets, and that is all that matters of the name of a tag.
-/
def IsTag (tag : List Char) : Prop := ∀ c ∈ tag, c ≠ '[' ∧ c ≠ ']'

/-- What can stand between the name of an opening tag and the bracket that ends it: outside of
quotes there is no bracket, and each quote is closed. -/
inductive IsOpening : List Char → Prop
  | nil : IsOpening []
  | plain {c : Char} {cs : List Char} (noQuote : isQuote c = false) (noOpen : c ≠ '[')
      (noClose : c ≠ ']') (more : IsOpening cs) : IsOpening (c :: cs)
  | quoted {q : Char} {value cs : List Char} (opens : isQuote q = true) (inside : q ∉ value)
      (more : IsOpening cs) : IsOpening (q :: (value ++ q :: cs))

/-- The name of a tag ends before a text: a blank follows, a slash, or the end of the tag. -/
def NameEnds (cs : List Char) : Prop :=
  ∃ c rest, cs = c :: rest ∧ (Text.isBlank c = true ∨ c = ']' ∨ c = '/')

/-- An opening tag closes itself: a slash stands at its end, and only blanks behind that. What stands in
front of the slash are the attributes. -/
def ClosesItself (opening raw : List Char) : Prop :=
  ∃ blanks, (∀ c ∈ blanks, Text.isBlank c = true) ∧ opening = raw ++ '/' :: blanks

/-- An opening tag does not close itself: only blanks stand behind the attributes, at whose end there is
neither a blank nor a slash. -/
def StaysOpen (opening raw : List Char) : Prop :=
  ∃ blanks, (∀ c ∈ blanks, Text.isBlank c = true) ∧ opening = raw ++ blanks ∧
    ∀ c ∈ raw.getLast?, Text.isBlank c = false ∧ c ≠ '/'

theorem endsName_eq_true_iff {cs : List Char} : endsName cs = true ↔ NameEnds cs := by
  cases cs with
  | nil => simp [endsName, NameEnds]
  | cons c cs => simp [endsName, NameEnds, or_assoc]

/-- The reader takes an opening tag for one that closes itself if it is one, and for the same attributes. -/
theorem openingParts_eq_true_iff {opening raw : List Char} :
    openingParts opening = (raw, true) ↔ ClosesItself opening raw := by
  rw [openingParts]
  constructor
  · intro hparts
    split at hparts
    · next hlast =>
        obtain ⟨rfl, -⟩ := Prod.mk.inj hparts
        obtain ⟨blanks, hblanks, hopening, -⟩ := Text.trimEndChars_eq_iff.mp (rfl (a := Text.trimEndChars opening))
        refine ⟨blanks, hblanks, ?_⟩
        conv_lhs => rw [hopening, ← List.dropLast_append_getLast? _ hlast]
        simp
    · simp at hparts
  · rintro ⟨blanks, hblanks, rfl⟩
    have htrim : Text.trimEndChars (raw ++ '/' :: blanks) = raw ++ ['/'] :=
      Text.trimEndChars_eq_iff.mpr ⟨blanks, hblanks, by simp, by simp; decide⟩
    simp [htrim]

theorem openingParts_eq_false_iff {opening raw : List Char} :
    openingParts opening = (raw, false) ↔ StaysOpen opening raw := by
  rw [openingParts]
  constructor
  · intro hparts
    split at hparts
    · simp at hparts
    · next hlast =>
        obtain ⟨hraw, -⟩ := Prod.mk.inj hparts
        obtain ⟨blanks, hblanks, hopening, hend⟩ := Text.trimEndChars_eq_iff.mp hraw
        refine ⟨blanks, hblanks, hopening, fun c hc => ⟨hend c hc, ?_⟩⟩
        rintro rfl
        exact hlast (hraw ▸ hc)
  · rintro ⟨blanks, hblanks, rfl, hend⟩
    have htrim : Text.trimEndChars (raw ++ blanks) = raw :=
      Text.trimEndChars_eq_iff.mpr ⟨blanks, hblanks, rfl, fun c hc => (hend c hc).1⟩
    have hlast : raw.getLast? ≠ some '/' := fun hlast => (hend '/' hlast).2 rfl
    rw [htrim, if_neg hlast]

/-- A quote is no bracket. -/
theorem ne_bracket_of_isQuote {q : Char} (hquote : isQuote q = true) : q ≠ '[' ∧ q ≠ ']' := by
  constructor <;> rintro rfl <;> simp [isQuote] at hquote

/-- Inside a quote the search goes on to the next such quote, and behind it as outside of quotes. -/
theorem takeOpening?_quoted (q : Char) (value cs : List Char) (inside : q ∉ value) :
    takeOpening? (some q) (value ++ q :: cs) =
      (takeOpening? none cs).map fun (opening, rest) => (value ++ q :: opening, rest) := by
  induction value with
  | nil => simp [takeOpening?]
  | cons c value ih =>
      have hc : c ≠ q := fun h => inside (by simp [h])
      have hvalue : q ∉ value := fun h => inside (List.mem_cons_of_mem c h)
      rw [List.cons_append, takeOpening?, if_neg hc, ih hvalue, Option.map_map]
      rfl

/-- Inside a quote that the search gets out of, the quote is closed. -/
theorem exists_quoted_of_takeOpening? {q : Char} {cs opening rest : List Char}
    (hfound : takeOpening? (some q) cs = some (opening, rest)) :
    ∃ value more after, q ∉ value ∧ cs = value ++ q :: after ∧ opening = value ++ q :: more ∧
      takeOpening? none after = some (more, rest) := by
  induction cs generalizing opening with
  | nil => simp [takeOpening?] at hfound
  | cons c cs ih =>
      simp only [takeOpening?, Option.map_eq_some_iff, Prod.exists, Prod.mk.injEq] at hfound
      obtain ⟨inner, back, hinner, rfl, rfl⟩ := hfound
      by_cases hc : c = q
      · subst hc
        rw [if_pos rfl] at hinner
        exact ⟨[], inner, cs, by simp, rfl, rfl, hinner⟩
      · rw [if_neg hc] at hinner
        obtain ⟨value, more, after, hvalue, rfl, rfl, hmore⟩ := ih hinner
        exact ⟨c :: value, more, after, by simp [hvalue, Ne.symm hc], rfl, rfl, hmore⟩

/-- The search for the end of an opening tag finds what the grammar says, and what follows. -/
theorem takeOpening?_eq_some_iff {cs opening rest : List Char} :
    takeOpening? none cs = some (opening, rest) ↔
      IsOpening opening ∧ cs = opening ++ ']' :: rest := by
  constructor
  · intro hfound
    -- A quoted value is passed over whole, so the recursion is on the length.
    induction hlength : cs.length using Nat.strong_induction_on generalizing cs opening with
    | _ length ih =>
      cases cs with
      | nil => simp [takeOpening?] at hfound
      | cons c cs =>
          simp only [takeOpening?] at hfound
          split at hfound
          · next hclose =>
              subst hclose
              simp only [Option.some.injEq, Prod.mk.injEq] at hfound
              obtain ⟨rfl, rfl⟩ := hfound
              exact ⟨.nil, rfl⟩
          · next hclose =>
              split at hfound
              · contradiction
              · next hopen =>
                  simp only [Option.map_eq_some_iff, Prod.exists, Prod.mk.injEq] at hfound
                  obtain ⟨inner, back, hinner, rfl, rfl⟩ := hfound
                  cases hquote : isQuote c with
                  | false =>
                      rw [hquote, if_neg (by simp)] at hinner
                      obtain ⟨hmore, rfl⟩ := ih cs.length (by simp [← hlength]) hinner rfl
                      exact ⟨.plain hquote hopen hclose hmore, rfl⟩
                  | true =>
                      rw [hquote, if_pos rfl] at hinner
                      obtain ⟨value, more, after, hvalue, rfl, rfl, hafter⟩ :=
                        exists_quoted_of_takeOpening? hinner
                      obtain ⟨hmore, rfl⟩ :=
                        ih after.length (by simp [← hlength]; omega) hafter rfl
                      exact ⟨.quoted hquote hvalue hmore, by simp⟩
  · rintro ⟨hopening, rfl⟩
    induction hopening with
    | nil => simp [takeOpening?]
    | plain noQuote noOpen noClose more ih =>
        simp [takeOpening?, noQuote, noOpen, noClose, ih]
    | quoted opens inside more ih =>
        obtain ⟨noOpen, noClose⟩ := ne_bracket_of_isQuote opens
        simp [takeOpening?, opens, noOpen, noClose, takeOpening?_quoted _ _ _ inside, ih]

/-- Whether the name of a tag ends is seen from the one character behind it. -/
theorem endsName_append_cons (cs after : List Char) (c : Char) :
    endsName (cs ++ c :: after) = endsName (cs ++ [c]) := by
  cases cs <;> rfl

/-- A piece of markup that can stand before `after`: an escaped tag, which ends at the first `]]`;
or an opening tag, which closes itself, or has no closing tag behind it, or is one with everything
up to the first closing tag. -/
inductive Piece.Marks (tag after : List Char) : Piece → Prop
  | escaped {inner : List Char} (named : NameEnds (inner ++ [']', ']']))
      (first : Text.IsFirst [']', ']'] ('[' :: '[' :: (tag ++ inner))) :
      Marks tag after (.escaped ('[' :: '[' :: (tag ++ inner) ++ [']', ']']))
  | selfClosing {opening raw : List Char} (named : NameEnds (opening ++ [']']))
      (opens : IsOpening opening) (closed : ClosesItself opening raw) :
      Marks tag after (.shortcode opening none)
  | alone {opening raw : List Char} (named : NameEnds (opening ++ [']']))
      (opens : IsOpening opening) (open_ : StaysOpen opening raw)
      (absent : ¬ closingTag tag <:+: after) : Marks tag after (.shortcode opening none)
  | enclosing {opening raw content : List Char} (named : NameEnds (opening ++ [']']))
      (opens : IsOpening opening) (open_ : StaysOpen opening raw)
      (first : Text.IsFirst (closingTag tag) content) :
      Marks tag after (.shortcode opening (some content))

variable {tag cs : List Char} {piece : Piece}

/-- The end of an escaped tag is behind its name, which has no bracket. -/
theorem exists_inner_of_escaped (htag : IsTag tag) {after before rest : List Char}
    (hsplit : '[' :: '[' :: (tag ++ after) = before ++ [']', ']'] ++ rest) :
    ∃ inner, before = '[' :: '[' :: (tag ++ inner) ∧ after = inner ++ [']', ']'] ++ rest := by
  have hsplit : ('[' :: '[' :: tag) ++ after = before ++ ([']', ']'] ++ rest) := by
    simpa using hsplit
  obtain ⟨inner, hbefore, hafter⟩ | ⟨more, hname, hrest⟩ := List.append_eq_append_iff.mp hsplit
  · exact ⟨inner, by simpa using hbefore, by simpa using hafter⟩
  · cases more with
    | nil => exact ⟨[], by simpa using hname.symm, by simpa using hrest.symm⟩
    | cons c more =>
        have hc : c = ']' := by
          simp only [List.cons_append, List.cons.injEq] at hrest
          exact hrest.1.symm
        have hmem : c ∈ '[' :: '[' :: tag := by simp [hname]
        simp only [hc, List.mem_cons] at hmem
        rcases hmem with hmem | hmem | hmem
        · contradiction
        · contradiction
        · exact absurd rfl (htag _ hmem).2

/-- An escaped tag is read where one stands. -/
theorem escapedAt?_eq_some_iff (htag : IsTag tag) :
    escapedAt? tag cs = some piece ↔
      ∃ inner after, NameEnds (inner ++ [']', ']']) ∧
        Text.IsFirst [']', ']'] ('[' :: '[' :: (tag ++ inner)) ∧
        piece = .escaped ('[' :: '[' :: (tag ++ inner) ++ [']', ']']) ∧
        cs = '[' :: '[' :: (tag ++ inner) ++ [']', ']'] ++ after := by
  constructor
  · intro hread
    simp only [escapedAt?, Option.bind_eq_bind, Option.bind_eq_some_iff,
      Text.afterStart?_eq_some_iff, Option.ite_none_right_eq_some, Prod.exists,
      Text.cutChars_eq_some_iff, Option.some.injEq] at hread
    obtain ⟨after, hcs, hname, before, rest, ⟨hsplit, hfirst⟩, rfl⟩ := hread
    obtain ⟨inner, rfl, rfl⟩ := exists_inner_of_escaped htag (by simpa [hcs] using hsplit)
    refine ⟨inner, rest, endsName_eq_true_iff.mp ?_, hfirst, rfl, hsplit⟩
    simpa [endsName_append_cons inner (']' :: rest), endsName_append_cons inner [']']] using hname
  · rintro ⟨inner, after, hname, hfirst, rfl, rfl⟩
    have hstart : Text.afterStart? ('[' :: '[' :: tag)
        ('[' :: '[' :: (tag ++ inner) ++ [']', ']'] ++ after) =
          some (inner ++ [']', ']'] ++ after) :=
      Text.afterStart?_eq_some_iff.mpr (by simp)
    have hcut := Text.cutChars_eq_some_iff.mpr
      ⟨rfl (a := '[' :: '[' :: (tag ++ inner) ++ [']', ']'] ++ after), hfirst⟩
    have hends : endsName (inner ++ [']', ']'] ++ after) = true := by
      simpa [endsName_append_cons inner (']' :: after), endsName_append_cons inner [']']]
        using endsName_eq_true_iff.mpr hname
    simp only [escapedAt?, hstart, hcut, hends, Option.bind_eq_bind, Option.bind_some, if_true]

/-- A shortcode is read where one stands. -/
theorem shortcodeAt?_eq_some_iff :
    shortcodeAt? tag cs = some piece ↔
      ∃ opening enclosed after, piece = .shortcode opening enclosed ∧
        piece.Marks tag after ∧ cs = piece.source tag ++ after := by
  constructor
  · intro hread
    simp only [shortcodeAt?, Option.bind_eq_bind, Option.bind_eq_some_iff,
      Text.afterStart?_eq_some_iff, Option.ite_none_right_eq_some, Prod.exists,
      takeOpening?_eq_some_iff] at hread
    obtain ⟨after, hcs, hname, opening, rest, ⟨hopening, rfl⟩, hpiece⟩ := hread
    rw [endsName_append_cons, endsName_eq_true_iff] at hname
    obtain ⟨⟨raw, closed⟩, hparts⟩ : ∃ parts, openingParts opening = parts := ⟨_, rfl⟩
    rw [hparts] at hpiece
    cases closed with
    | true =>
        have hclosed := openingParts_eq_true_iff.mp hparts
        rw [if_pos rfl, Option.some.injEq] at hpiece
        subst hpiece
        exact ⟨opening, none, rest, rfl, .selfClosing hname hopening hclosed,
          by simp [hcs, Piece.source]⟩
    | false =>
        have hopen := openingParts_eq_false_iff.mp hparts
        rw [if_neg (by simp), Option.some.injEq] at hpiece
        subst hpiece
        cases hcut : Text.cutChars (closingTag tag) rest with
        | none =>
            exact ⟨opening, none, rest, rfl,
              .alone hname hopening hopen (Text.cutChars_eq_none_iff.mp hcut),
              by simp [hcs, Piece.source]⟩
        | some parts =>
            obtain ⟨content, behind⟩ := parts
            obtain ⟨rfl, hfirst⟩ := Text.cutChars_eq_some_iff.mp hcut
            exact ⟨opening, some content, behind, rfl, .enclosing hname hopening hopen hfirst,
              by simp [hcs, Piece.source]⟩
  · rintro ⟨opening, enclosed, after, rfl, hmarks, rfl⟩
    have hstart (more : List Char) :
        Text.afterStart? ('[' :: tag) ('[' :: (tag ++ more)) = some more :=
      Text.afterStart?_eq_some_iff.mpr rfl
    have hopens (more : List Char) (hopening : IsOpening opening) :
        takeOpening? none (opening ++ ']' :: more) = some (opening, more) :=
      takeOpening?_eq_some_iff.mpr ⟨hopening, rfl⟩
    cases hmarks with
    | selfClosing named opens closed =>
        simp [shortcodeAt?, Piece.source, hstart, endsName_append_cons,
          endsName_eq_true_iff.mpr named, hopens after opens, openingParts_eq_true_iff.mpr closed]
    | alone named opens open_ absent =>
        simp [shortcodeAt?, Piece.source, hstart, endsName_append_cons,
          endsName_eq_true_iff.mpr named, hopens after opens, openingParts_eq_false_iff.mpr open_,
          Text.cutChars_eq_none_iff.mpr absent]
    | @enclosing _ _ content named opens open_ first =>
        have hcut := Text.cutChars_eq_some_iff.mpr
          ⟨rfl (a := content ++ closingTag tag ++ after), first⟩
        simp only [List.append_assoc] at hcut
        simp [shortcodeAt?, Piece.source, hstart, endsName_append_cons,
          endsName_eq_true_iff.mpr named, hopens _ opens, openingParts_eq_false_iff.mpr open_, hcut]

/-- No text begins both with an escaped tag and with a shortcode. -/
theorem escapedAt?_eq_none_of_shortcodeAt? (htag : IsTag tag)
    (hread : shortcodeAt? tag cs = some piece) : escapedAt? tag cs = none := by
  rw [Option.eq_none_iff_forall_ne_some]
  intro escaped hescaped
  obtain ⟨inner, after, -, -, -, rfl⟩ := (escapedAt?_eq_some_iff htag).mp hescaped
  simp only [shortcodeAt?, Option.bind_eq_bind, Option.bind_eq_some_iff,
    Text.afterStart?_eq_some_iff, Option.ite_none_right_eq_some] at hread
  obtain ⟨rest, hsplit, hname, -⟩ := hread
  cases tag with
  | nil =>
      -- The name is empty and would have to end before a bracket.
      simp only [List.cons_append, List.nil_append, List.cons.injEq, true_and] at hsplit
      subst hsplit
      simp [endsName, Text.isBlank] at hname
  | cons c tag =>
      simp only [List.cons_append, List.cons.injEq, true_and] at hsplit
      exact (htag c (by simp)).1 hsplit.1.symm

/-- At a bracket the reader tries an escaped tag first, and then a shortcode. -/
theorem pieceAt?_bracket : pieceAt? tag ('[' :: cs) = some piece ↔
    escapedAt? tag ('[' :: cs) = some piece ∨
      escapedAt? tag ('[' :: cs) = none ∧ shortcodeAt? tag ('[' :: cs) = some piece := by
  rw [pieceAt?, Option.orElse_eq_or, Option.or_eq_some_iff]

/-- The reader finds a piece of markup in front of a text exactly if one stands there. -/
theorem pieceAt?_eq_some_iff (htag : IsTag tag) :
    pieceAt? tag cs = some piece ↔
      ∃ after, piece.Marks tag after ∧ cs = piece.source tag ++ after := by
  constructor
  · intro hread
    obtain ⟨cs, rfl⟩ : ∃ more, cs = '[' :: more := by
      unfold pieceAt? at hread
      split at hread
      · exact ⟨_, rfl⟩
      · contradiction
    rcases pieceAt?_bracket.mp hread with hescaped | ⟨-, hshortcode⟩
    · obtain ⟨inner, after, hname, hfirst, rfl, hcs⟩ := (escapedAt?_eq_some_iff htag).mp hescaped
      exact ⟨after, .escaped hname hfirst, hcs⟩
    · obtain ⟨_, _, after, -, hmarks, hcs⟩ := shortcodeAt?_eq_some_iff.mp hshortcode
      exact ⟨after, hmarks, hcs⟩
  · rintro ⟨after, hmarks, rfl⟩
    cases piece with
    | literal run => cases hmarks
    | escaped source =>
        cases hmarks with
        | @escaped inner named first =>
            have hescaped :=
              (escapedAt?_eq_some_iff htag).mpr ⟨inner, after, named, first, rfl, rfl⟩
            exact pieceAt?_bracket.mpr (.inl hescaped)
    | shortcode opening enclosed =>
        have hshortcode := shortcodeAt?_eq_some_iff.mpr
          ⟨opening, enclosed, after, rfl, hmarks, rfl⟩
        have hescaped := escapedAt?_eq_none_of_shortcodeAt? htag hshortcode
        exact pieceAt?_bracket.mpr (.inr ⟨hescaped, hshortcode⟩)

/-- Markup takes up room. -/
theorem Piece.Marks.source_ne_nil {after : List Char} (hmarks : piece.Marks tag after) :
    piece.source tag ≠ [] := by
  cases hmarks <;> simp [Piece.source]

/-- A literal run is no markup. -/
theorem Piece.Marks.ne_literal {after run : List Char} (hmarks : piece.Marks tag after) :
    piece ≠ .literal run := by
  cases hmarks <;> simp

end DynamicContent.Shortcode
