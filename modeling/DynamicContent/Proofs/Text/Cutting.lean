/-
# Where a text is first cut

`Text.cutChars` looks for the first place at which a separator occurs. What a reader needs of it is
a statement without the search: the text is what it gives back with the separator in between, and no
occurrence begins earlier. The two lemmas of this file say so for both outcomes.
-/

import DynamicContent.Text.Blank
import Mathlib.Data.List.Basic
import Mathlib.Data.List.Infix

namespace DynamicContent.Text

/-- Nothing of a text before a separator, together with the separator, holds it any earlier. -/
def IsFirst (sep before : List Char) : Prop :=
  ∀ earlier rest, before ++ sep = earlier ++ sep ++ rest → rest = []

/-- A separator that stands in front is its own first occurrence. -/
theorem isFirst_nil (sep : List Char) : IsFirst sep [] := by
  intro earlier rest hsplit
  have hlength := congrArg List.length hsplit
  simp only [List.nil_append, List.length_append] at hlength
  exact List.eq_nil_of_length_eq_zero (by omega)

/-- One more character in front keeps the first occurrence if the separator does not begin there. -/
theorem isFirst_cons_iff {sep before : List Char} {c : Char} :
    IsFirst sep (c :: before) ↔
      IsFirst sep before ∧ ∀ rest, c :: (before ++ sep) = sep ++ rest → rest = [] := by
  constructor
  · intro hfirst
    refine ⟨fun earlier rest hsplit => ?_, fun rest hsplit => hfirst [] rest hsplit⟩
    exact hfirst (c :: earlier) rest (by simp [hsplit])
  · rintro ⟨hfirst, hhere⟩ earlier rest hsplit
    cases earlier with
    | nil => exact hhere rest hsplit
    | cons d earlier =>
        simp only [List.cons_append, List.cons.injEq] at hsplit
        exact hfirst earlier rest hsplit.2

/-- A separator that does not occur before its last character is complete is its own first
occurrence. -/
theorem isFirst_of_not_infix_dropLast {sep before : List Char}
    (absent : ¬ sep <:+: (before ++ sep).dropLast) : IsFirst sep before := by
  intro earlier rest hsplit
  rcases List.eq_nil_or_concat' rest with rfl | ⟨rest, c, rfl⟩
  · rfl
  · refine absurd ⟨earlier, rest, ?_⟩ absent
    rw [hsplit, ← List.append_assoc, List.dropLast_concat]

/-- The search begins at a place where the separator stands: there is nothing before it. -/
theorem eq_nil_of_isFirst {sep before rest after : List Char} (hfirst : IsFirst sep before)
    (hhere : before ++ sep ++ rest = sep ++ after) : before = [] := by
  have hsep : sep <+: before ++ sep ++ rest := ⟨after, hhere.symm⟩
  have hfront : sep <+: before ++ sep :=
    List.prefix_of_prefix_length_le hsep (List.prefix_append _ rest) (by simp)
  obtain ⟨between, hbetween⟩ := hfront
  have hnone := hfirst [] between (by simpa using hbetween.symm)
  have hlength := congrArg List.length hbetween
  simp only [hnone, List.length_append, List.length_nil] at hlength
  exact List.eq_nil_of_length_eq_zero (by omega)

/-- A cut gives the text around the first occurrence of the separator. -/
theorem cutChars_eq_some_iff {sep cs before rest : List Char} :
    cutChars sep cs = some (before, rest) ↔ cs = before ++ sep ++ rest ∧ IsFirst sep before := by
  induction cs generalizing before with
  | nil =>
      constructor
      · intro hcut
        simp only [cutChars, List.isEmpty_iff, Option.ite_none_right_eq_some, Option.some.injEq,
          Prod.mk.injEq] at hcut
        obtain ⟨rfl, rfl, rfl⟩ := hcut
        exact ⟨rfl, isFirst_nil []⟩
      · rintro ⟨hsplit, -⟩
        simp only [List.nil_eq, List.append_eq_nil_iff] at hsplit
        obtain ⟨⟨rfl, rfl⟩, rfl⟩ := hsplit
        rfl
  | cons c cs ih =>
      rw [cutChars]
      cases hstart : afterStart? sep (c :: cs) with
      | some after =>
          have hsep := afterStart?_eq_some_iff.mp hstart
          simp only [Option.some.injEq, Prod.mk.injEq]
          constructor
          · rintro ⟨rfl, rfl⟩
            exact ⟨by simpa using hsep, isFirst_nil sep⟩
          · rintro ⟨hsplit, hfirst⟩
            obtain rfl := eq_nil_of_isFirst hfirst (hsplit.symm.trans hsep)
            refine ⟨rfl, ?_⟩
            rw [hsplit] at hsep
            simpa using hsep.symm
      | none =>
          have hnone (after : List Char) : c :: cs ≠ sep ++ after := fun h => by
            rw [afterStart?_eq_some_iff.mpr h] at hstart
            contradiction
          cases before with
          | nil =>
              simp only [Option.map_eq_some_iff, Prod.mk.injEq, reduceCtorEq, false_and, and_false,
                exists_false, List.nil_append, false_iff]
              exact fun h => hnone rest h.1
          | cons d before =>
              simp only [Option.map_eq_some_iff, Prod.exists, Prod.mk.injEq, List.cons.injEq,
                List.cons_append, isFirst_cons_iff]
              constructor
              · rintro ⟨front, back, hcut, ⟨rfl, rfl⟩, rfl⟩
                obtain ⟨rfl, hfirst⟩ := ih.mp hcut
                refine ⟨⟨rfl, rfl⟩, hfirst, fun after hafter => ?_⟩
                refine absurd ?_ (hnone (after ++ back))
                rw [← List.append_assoc, ← hafter]
                simp
              · rintro ⟨⟨rfl, hsplit⟩, hfirst, -⟩
                exact ⟨before, rest, ih.mpr ⟨hsplit, hfirst⟩, ⟨rfl, rfl⟩, rfl⟩

/-- There is nothing to cut at exactly if the separator does not occur. -/
theorem cutChars_eq_none_iff {sep cs : List Char} : cutChars sep cs = none ↔ ¬ sep <:+: cs := by
  induction cs with
  | nil => cases sep <;> simp [cutChars]
  | cons c cs ih =>
      rw [cutChars, List.infix_cons_iff]
      cases hstart : afterStart? sep (c :: cs) with
      | some after =>
          have hfront : sep <+: c :: cs := ⟨after, (afterStart?_eq_some_iff.mp hstart).symm⟩
          simp [hfront]
      | none =>
          have hfront : ¬ sep <+: c :: cs := fun ⟨after, h⟩ => by
            rw [afterStart?_eq_some_iff.mpr h.symm] at hstart
            contradiction
          simp [hfront, ih]

/-- A character is found behind a text that does not have it. -/
theorem cutChars_of_not_mem {c : Char} {before : List Char} (absent : c ∉ before)
    (rest : List Char) : cutChars [c] (before ++ c :: rest) = some (before, rest) := by
  rw [cutChars_eq_some_iff]
  refine ⟨by simp, isFirst_of_not_infix_dropLast ?_⟩
  rw [List.dropLast_concat]
  intro hwithin
  exact absent (List.IsInfix.subset hwithin List.mem_cons_self)

/-- What occurs in a text and does not have a certain character lies on one side of it. -/
theorem infix_append_cons_iff {part front back : List Char} {sep : Char} (absent : sep ∉ part) :
    part <:+: front ++ sep :: back ↔ part <:+: front ∨ part <:+: back := by
  constructor
  · intro hoccurs
    -- Of what begins at the character, a part without it is empty.
    have hhere {part : List Char} (absent : sep ∉ part) (hfront : part <+: sep :: back) :
        part = [] := by
      rcases List.prefix_cons_iff.mp hfront with hempty | ⟨rest, rfl, -⟩
      · exact hempty
      · exact absurd List.mem_cons_self absent
    rcases List.infix_append_iff.mp hoccurs with hleft | hright | ⟨start, rest, rfl, hleft, hright⟩
    · exact .inl hleft
    · rcases List.infix_cons_iff.mp hright with hbegins | hlater
      · rw [hhere absent hbegins]
        exact .inl (List.nil_infix)
      · exact .inr hlater
    · have hrest := hhere (fun h => absent (List.mem_append_right start h)) hright
      rw [hrest, List.append_nil]
      exact .inl hleft.isInfix
  · rintro (hleft | hright)
    · exact hleft.trans (List.prefix_append front (sep :: back)).isInfix
    · exact hright.trans ⟨front ++ [sep], [], by simp⟩

/-! ## Pieces between separators

A text that is cut at each separator is told by its pieces: with separators between them they are the
text again, and pieces without a separator are what is cut. -/

variable {α : Type} {p : α → Bool} {c sep : α} {cs : List α} {pieces : List (List α)}

theorem splitAtEach_cons_of_pos (h : p c = true) (cs : List α) :
    splitAtEach p (c :: cs) = [] :: splitAtEach p cs := by
  rw [splitAtEach, if_pos h]

/-- A character that is no separator belongs to the first piece. -/
theorem splitAtEach_cons_of_neg (h : p c = false) {piece : List α}
    (hcs : splitAtEach p cs = piece :: pieces) :
    splitAtEach p (c :: cs) = (c :: piece) :: pieces := by
  rw [splitAtEach, if_neg (by simp [h]), hcs]

/-- A text is cut alike where its own characters separate alike. -/
theorem splitAtEach_congr {q : α → Bool} (h : ∀ c ∈ cs, p c = q c) :
    splitAtEach p cs = splitAtEach q cs := by
  induction cs with
  | nil => rfl
  | cons c cs ih =>
      obtain ⟨hc, hcs⟩ := List.forall_mem_cons.mp h
      rw [splitAtEach, splitAtEach, hc, ih hcs]

/-- What stands in front of a separator and what stands behind it are cut on their own. -/
theorem splitAtEach_append_cons (hsep : p sep = true) (front back : List α) :
    splitAtEach p (front ++ sep :: back) = splitAtEach p front ++ splitAtEach p back := by
  induction front with
  | nil => exact splitAtEach_cons_of_pos hsep back
  | cons c front ih =>
      rw [List.cons_append]
      cases hc : p c with
      | true => rw [splitAtEach_cons_of_pos hc, splitAtEach_cons_of_pos hc, ih, List.cons_append]
      | false =>
          obtain ⟨piece, pieces, hfront⟩ := List.exists_cons_of_ne_nil (splitAtEach_ne_nil p front)
          rw [hfront, List.cons_append] at ih
          rw [splitAtEach_cons_of_neg hc ih, splitAtEach_cons_of_neg hc hfront, List.cons_append]

/-- A text without a separator is one piece. -/
theorem splitAtEach_of_forall (h : ∀ c ∈ cs, p c = false) : splitAtEach p cs = [cs] := by
  induction cs with
  | nil => rfl
  | cons c cs ih =>
      obtain ⟨hc, hcs⟩ := List.forall_mem_cons.mp h
      exact splitAtEach_cons_of_neg hc (ih hcs)

/-- No piece has a separator in it, or anything that is not in the text. -/
theorem of_mem_splitAtEach : ∀ piece ∈ splitAtEach p cs, ∀ c ∈ piece, p c = false ∧ c ∈ cs := by
  induction cs with
  | nil =>
      intro piece hpiece c hc
      rw [List.mem_singleton.mp hpiece] at hc
      exact absurd hc List.not_mem_nil
  | cons d cs ih =>
      have hmore : ∀ piece ∈ splitAtEach p cs, ∀ c ∈ piece, p c = false ∧ c ∈ d :: cs :=
        fun piece hpiece c hc => (ih piece hpiece c hc).imp_right (List.mem_cons_of_mem d)
      cases hd : p d with
      | true =>
          rw [splitAtEach_cons_of_pos hd]
          exact List.forall_mem_cons.mpr ⟨fun c hc => absurd hc List.not_mem_nil, hmore⟩
      | false =>
          obtain ⟨first, pieces, hcs⟩ := List.exists_cons_of_ne_nil (splitAtEach_ne_nil p cs)
          rw [hcs, List.forall_mem_cons] at hmore
          rw [splitAtEach_cons_of_neg hd hcs]
          exact List.forall_mem_cons.mpr
            ⟨List.forall_mem_cons.mpr ⟨⟨hd, List.mem_cons_self⟩, hmore.1⟩, hmore.2⟩

theorem flatten_intersperse_cons (piece : List α) (hpieces : pieces ≠ []) :
    ((piece :: pieces).intersperse [sep]).flatten =
      piece ++ sep :: (pieces.intersperse [sep]).flatten := by
  obtain ⟨next, rest, rfl⟩ := List.exists_cons_of_ne_nil hpieces
  rfl

/-- Where separators are put between pieces, there is nothing but separators and what is in the pieces. -/
theorem of_mem_flatten_intersperse (h : c ∈ (pieces.intersperse [sep]).flatten) :
    c = sep ∨ ∃ piece ∈ pieces, c ∈ piece := by
  induction pieces with
  | nil => exact absurd h List.not_mem_nil
  | cons piece pieces ih =>
      rcases eq_or_ne pieces [] with rfl | hpieces
      · exact .inr ⟨piece, List.mem_cons_self, by simpa using h⟩
      · rw [flatten_intersperse_cons piece hpieces] at h
        rcases List.mem_append.mp h with hfirst | hmore
        · exact .inr ⟨piece, List.mem_cons_self, hfirst⟩
        · rcases List.mem_cons.mp hmore with hsep | hmore
          · exact .inl hsep
          · exact (ih hmore).imp_right fun ⟨other, hother, hc⟩ =>
              ⟨other, List.mem_cons_of_mem piece hother, hc⟩

/-- The pieces with separators between them are the text. -/
theorem flatten_intersperse_splitAtEach (hsep : ∀ c, p c = true ↔ c = sep) (cs : List α) :
    ((splitAtEach p cs).intersperse [sep]).flatten = cs := by
  induction cs with
  | nil => rfl
  | cons c cs ih =>
      cases hc : p c with
      | true =>
          rw [splitAtEach_cons_of_pos hc, flatten_intersperse_cons _ (splitAtEach_ne_nil _ cs), ih,
            (hsep c).mp hc, List.nil_append]
      | false =>
          obtain ⟨piece, pieces, hcs⟩ := List.exists_cons_of_ne_nil (splitAtEach_ne_nil p cs)
          rw [splitAtEach_cons_of_neg hc hcs]
          rw [hcs] at ih
          cases pieces with
          | nil => exact congrArg (c :: ·) ih
          | cons next rest => exact congrArg (c :: ·) ih

/-- Pieces without a separator are what is cut where separators are put between them. -/
theorem splitAtEach_flatten_intersperse (hsep : p sep = true) (hpieces : pieces ≠ [])
    (h : ∀ piece ∈ pieces, ∀ c ∈ piece, p c = false) :
    splitAtEach p (pieces.intersperse [sep]).flatten = pieces := by
  induction pieces with
  | nil => exact absurd rfl hpieces
  | cons piece pieces ih =>
      obtain ⟨hpiece, hmore⟩ := List.forall_mem_cons.mp h
      cases hrest : pieces with
      | nil =>
          rw [List.intersperse_singleton, List.flatten_singleton]
          exact splitAtEach_of_forall hpiece
      | cons next rest =>
          have hne : pieces ≠ [] := hrest ▸ List.cons_ne_nil next rest
          rw [← hrest, flatten_intersperse_cons piece hne, splitAtEach_append_cons hsep,
            splitAtEach_of_forall hpiece, ih hne hmore]
          rfl

/-! ## Texts with a given end -/

theorem endsWith_iff {s last : String} : endsWith s last = true ↔ ∃ front, s = front ++ last := by
  rw [endsWith, List.isPrefixOf_iff_prefix, List.reverse_prefix]
  constructor
  · rintro ⟨front, hfront⟩
    refine ⟨String.ofList front, String.toList_inj.mp ?_⟩
    rw [String.toList_append, String.toList_ofList, hfront]
  · rintro ⟨front, rfl⟩
    exact ⟨front.toList, String.toList_append.symm⟩

end DynamicContent.Text
