/-
# What cleaning leaves

Cleaning makes two steps, and only the second leaves what it would leave again: in its result each
blank is a space between two other characters. The first step can be undone by what it removes, so
cleaning leaves a text as it is exactly if the text is spaced like that and no element begins in it.
-/

import DynamicContent.Html.Strip
import DynamicContent.Proofs.Html.Strip

namespace DynamicContent.Html

/-- A text in which each blank is a space between two other characters. The flag says whether
another character stands before the text, that is, whether it may begin with a space. -/
inductive IsSpaced : Bool → List Char → Prop
  | nil {inside : Bool} : IsSpaced inside []
  | char {inside : Bool} {c : Char} {cs : List Char} (hc : Text.isBlank c = false)
      (more : IsSpaced true cs) : IsSpaced inside (c :: cs)
  | space {c : Char} {cs : List Char} (hc : Text.isBlank c = false) (more : IsSpaced true cs) :
      IsSpaced true (' ' :: c :: cs)

/-! ## Blanks -/

section

variable {written pending : Bool} {cs : List Char}

theorem isSpaced_collapseFrom (hpending : pending = true → written = true) :
    IsSpaced written (collapseFrom written pending cs) := by
  induction cs generalizing written pending with
  | nil => exact .nil
  | cons c cs ih =>
      rw [collapseFrom]
      cases hc : Text.isBlank c with
      | true => exact ih id
      | false =>
          have hmore : IsSpaced true (collapseFrom true false cs) := ih fun _ => rfl
          cases pending with
          | true =>
              rw [hpending rfl]
              exact .space hc hmore
          | false => exact .char hc hmore

theorem IsSpaced.collapseFrom_eq (hspaced : IsSpaced written cs) :
    collapseFrom written false cs = cs := by
  induction hspaced with
  | nil => rfl
  | char hc _ ih => simp [collapseFrom, hc, ih]
  | space hc _ ih =>
      have hspace : Text.isBlank ' ' = true := by decide
      simp [collapseFrom, hspace, hc, ih]

/-- Each run of blanks becomes at most one character. -/
theorem length_collapseFrom_le :
    (collapseFrom written pending cs).length ≤ cs.length + pending.toNat := by
  induction cs generalizing written pending with
  | nil => exact Nat.zero_le _
  | cons c cs ih =>
      rw [collapseFrom, List.length_cons]
      split
      · have hrun := @ih written written
        have hflag := Bool.toNat_le written
        omega
      · have hword := @ih true false
        rw [Bool.toNat_false] at hword
        cases pending with
        | true =>
            simp only [if_true, List.length_cons, Bool.toNat_true]
            omega
        | false =>
            simp only [Bool.false_eq_true, if_false, List.length_cons, Bool.toNat_false]
            omega

theorem mem_collapseFrom {c : Char} (h : c ∈ collapseFrom written pending cs) :
    c ∈ cs ∨ c = ' ' := by
  induction cs generalizing written pending with
  | nil => exact absurd h List.not_mem_nil
  | cons d cs ih =>
      rw [collapseFrom] at h
      have hmore {written pending : Bool} (h : c ∈ collapseFrom written pending cs) :
          c ∈ d :: cs ∨ c = ' ' := (ih h).imp_left (List.mem_cons_of_mem d)
      split at h
      · exact hmore h
      · split at h
        · rcases List.mem_cons.mp h with rfl | h
          · exact .inr rfl
          · rcases List.mem_cons.mp h with rfl | h
            · exact .inl List.mem_cons_self
            · exact hmore h
        · rcases List.mem_cons.mp h with rfl | h
          · exact .inl List.mem_cons_self
          · exact hmore h

end

/-! ## Markup and blanks -/

theorem toList_plainText (s : String) :
    (plainText s).toList = collapseFrom false false (stripChars s.toList) :=
  String.toList_ofList

theorem isSpaced_plainText (s : String) : IsSpaced false (plainText s).toList := by
  rw [toList_plainText]
  exact isSpaced_collapseFrom id

theorem strip_eq_self_iff (s : String) : strip s = s ↔ Tagless s.toList := by
  rw [← stripChars_eq_self_iff, strip, ← String.toList_inj, String.toList_ofList]

/-- Cleaning leaves just those texts as they are that are spaced as it would space them and in which
no element begins. -/
theorem plainText_eq_self_iff (s : String) :
    plainText s = s ↔ IsSpaced false s.toList ∧ Tagless s.toList := by
  constructor
  · intro hclean
    have hsame : collapseFrom false false (stripChars s.toList) = s.toList := by
      rw [← toList_plainText, hclean]
    -- Neither step makes a text longer, so removing markup took nothing away.
    have hlength : s.toList.length ≤ (stripChars s.toList).length := by
      have hshort := @length_collapseFrom_le false false (stripChars s.toList)
      rwa [hsame] at hshort
    have hstripped : stripChars s.toList = s.toList :=
      (stripChars_sublist _).eq_of_length_le hlength
    refine ⟨?_, stripChars_eq_self_iff.mp hstripped⟩
    have hspaced := isSpaced_plainText s
    rwa [hclean] at hspaced
  · rintro ⟨hspaced, htagless⟩
    rw [plainText, stripChars_eq_self_iff.mpr htagless, collapseBlanks, hspaced.collapseFrom_eq,
      String.ofList_toList]

/-- Where removing markup leaves no `<`, there is none in the cleaned text. -/
theorem not_mem_plainText {s : String} (h : '<' ∉ stripChars s.toList) :
    '<' ∉ (plainText s).toList := by
  rw [toList_plainText]
  intro hmem
  rcases mem_collapseFrom hmem with hmem | hspace
  · exact h hmem
  · exact absurd hspace (by decide)

end DynamicContent.Html
