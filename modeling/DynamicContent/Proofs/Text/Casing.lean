/-
# Names trimmed and in lower case

Many things are kept under names that are trimmed and in lower case. To bring a name into that form
again changes nothing.
-/

import DynamicContent.Proofs.Text.Cutting
import DynamicContent.Text.Blank
import DynamicContent.Text.LetterCase
import Mathlib.Data.List.DropRight

namespace DynamicContent

section

variable {α : Type} {p : α → Bool} {front rest : List α}

/-- What is dropped at the end of a text is dropped behind the part that has nothing of it. -/
theorem dropEnd_append (hfront : ∀ c ∈ front, p c = false) (rest : List α) :
    ((front ++ rest).reverse.dropWhile p).reverse =
      front ++ (rest.reverse.dropWhile p).reverse := by
  have hstay : front.reverse.dropWhile p = front.reverse := by
    rw [List.dropWhile_eq_self_iff]
    intro hpos
    simp [hfront]
  rw [List.reverse_append, List.dropWhile_append]
  split
  · next hempty => rw [hstay, List.isEmpty_iff.mp hempty, List.reverse_reverse, List.reverse_nil,
      List.append_nil]
  · rw [List.reverse_append, List.reverse_reverse]

/-- What is dropped at the front of a text is dropped before the first character that stays. -/
theorem dropWhile_append_of_forall (hne : front ≠ []) (hfront : ∀ c ∈ front, p c = false)
    (rest : List α) : (front ++ rest).dropWhile p = front ++ rest := by
  obtain ⟨c, cs, rfl⟩ := List.exists_cons_of_ne_nil hne
  exact List.dropWhile_cons_of_neg (by simp [hfront c List.mem_cons_self])

end

namespace Text

/-- A character in lower case is the character itself, or it was a capital. -/
theorem toLower_eq_or (c : Char) :
    (¬ ('A' ≤ c ∧ c ≤ 'Z') ∧ c.toLower = c) ∨
      (65 ≤ c.toNat ∧ c.toNat ≤ 90 ∧ c.toLower.toNat = c.toNat + 32) := by
  unfold Char.toLower
  split
  · next hcapital =>
      obtain ⟨hlow, hhigh⟩ := hcapital
      have hlow' : 65 ≤ c.toNat := UInt32.le_iff_toNat_le.mp hlow
      have hhigh' : c.toNat ≤ 90 := UInt32.le_iff_toNat_le.mp hhigh
      refine .inr ⟨hlow', hhigh', ?_⟩
      change (c.val + 32).toNat = c.val.toNat + 32
      rw [UInt32.toNat_add]
      exact Nat.mod_eq_of_lt (by change c.toNat + 32 < _; omega)
  · next hother => exact .inl ⟨hother, rfl⟩

/-- In lower case `A` to `Z` are `a` to `z`, and every other character is itself. -/
theorem toLower_eq_ite (c : Char) :
    c.toLower = if 'A' ≤ c ∧ c ≤ 'Z' then Char.ofNat (c.toNat + 32) else c := by
  rcases toLower_eq_or c with ⟨hother, heq⟩ | ⟨hlow, hhigh, heq⟩
  · rw [if_neg hother, heq]
  · have hcapital : 'A' ≤ c ∧ c ≤ 'Z' :=
      ⟨UInt32.le_iff_toNat_le.mpr hlow, UInt32.le_iff_toNat_le.mpr hhigh⟩
    rw [if_pos hcapital, ← heq, Char.ofNat_toNat]

theorem toLower_toLower (c : Char) : c.toLower.toLower = c.toLower := by
  rcases toLower_eq_or c with ⟨-, heq⟩ | ⟨hlow, hhigh, heq⟩
  · rw [heq, heq]
  · rcases toLower_eq_or c.toLower with ⟨-, heq'⟩ | ⟨hlow', hhigh', -⟩
    · exact heq'
    · omega

theorem isLower_eq (c : Char) : c.isLower = (decide (97 ≤ c.val) && decide (c.val ≤ 122)) := rfl

/-- A character is blank in lower case if it is blank. -/
theorem isBlank_toLower (c : Char) : isBlank c.toLower = isBlank c := by
  rcases toLower_eq_or c with ⟨-, heq⟩ | ⟨hlow, hhigh, heq⟩
  · rw [heq]
  · have hletter (n : Nat) (hn : 65 ≤ n) (hn' : n ≤ 122) (c : Char) (hc : c.toNat = n) :
        isBlank c = false := by
      simp only [isBlank, hc, Bool.or_eq_false_iff, Bool.and_eq_false_iff, decide_eq_false_iff_not,
        beq_eq_false_iff_ne]
      omega
    rw [hletter _ hlow (by omega) c rfl, hletter (c.toNat + 32) (by omega) (by omega) _ heq]

theorem not_isBlank_of_isDigit {c : Char} (h : c.isDigit = true) : isBlank c = false := by
  simp only [Char.isDigit, Bool.and_eq_true, decide_eq_true_eq, ge_iff_le, UInt32.le_iff_toNat_le] at h
  have hcode : c.toNat = c.val.toNat := rfl
  have hnine : '9'.val.toNat = 57 := rfl
  have hzero : '0'.val.toNat = 48 := rfl
  simp only [isBlank, Bool.or_eq_false_iff, Bool.and_eq_false_iff, decide_eq_false_iff_not,
    beq_eq_false_iff_ne]
  omega

theorem asciiLower_asciiLower (s : String) : asciiLower (asciiLower s) = asciiLower s := by
  have hlower : Char.toLower ∘ Char.toLower = Char.toLower := funext toLower_toLower
  rw [asciiLower, asciiLower, String.toList_ofList, List.map_map, hlower]

theorem trimStartChars_map_toLower (cs : List Char) :
    trimStartChars (cs.map Char.toLower) = (trimStartChars cs).map Char.toLower := by
  have hblank : isBlank ∘ Char.toLower = isBlank := funext isBlank_toLower
  rw [trimStartChars, List.dropWhile_map, hblank, trimStartChars]

theorem trimEndChars_eq_reverse (cs : List Char) :
    trimEndChars cs = (trimStartChars cs.reverse).reverse := rfl

/-- A blank at the end is trimmed away. -/
theorem trimEndChars_concat_blank {c : Char} (h : isBlank c = true) (cs : List Char) :
    trimEndChars (cs ++ [c]) = trimEndChars cs := List.rdropWhile_concat_pos isBlank cs c h

/-- A text trimmed at its end is what stands in front of the last blanks. -/
theorem trimEndChars_eq_iff {cs front : List Char} : trimEndChars cs = front ↔
    ∃ blanks, (∀ c ∈ blanks, isBlank c = true) ∧ cs = front ++ blanks ∧
      ∀ c ∈ front.getLast?, isBlank c = false := by
  constructor
  · rintro rfl
    refine ⟨(cs.reverse.takeWhile isBlank).reverse, fun c hc => ?_, ?_, fun c hc => ?_⟩
    · exact List.mem_takeWhile_imp (List.mem_reverse.mp hc)
    · rw [trimEndChars, ← List.reverse_append, List.takeWhile_append_dropWhile, List.reverse_reverse]
    · rw [trimEndChars, List.getLast?_reverse, Option.mem_def] at hc
      have hhead := List.head?_dropWhile_not isBlank cs.reverse
      rw [hc] at hhead
      exact hhead
  · rintro ⟨blanks, hblanks, rfl, hend⟩
    induction blanks using List.reverseRecOn with
    | nil =>
        rw [List.append_nil]
        refine List.rdropWhile_eq_self_iff.mpr fun hne => ?_
        simp [hend _ (List.getLast?_eq_getLast_of_ne_nil hne)]
    | append_singleton blanks c ih =>
        rw [List.forall_mem_append] at hblanks
        rw [← List.append_assoc, trimEndChars_concat_blank (hblanks.2 c (List.mem_singleton_self c)),
          ih hblanks.1]

theorem trim_asciiLower (s : String) : trim (asciiLower s) = asciiLower (trim s) := by
  simp only [trim, asciiLower, String.toList_ofList, trimChars, trimEndChars_eq_reverse,
    trimStartChars_map_toLower, ← List.map_reverse]

theorem trimStartChars_trimEndChars {cs : List Char} (h : trimStartChars cs = cs) :
    trimStartChars (trimEndChars cs) = trimEndChars cs := by
  cases htrimmed : trimEndChars cs with
  | nil => rfl
  | cons c rest =>
      -- The first character is the first one of `cs`, since trimming the end leaves a start.
      have hstart : trimEndChars cs <+: cs := List.rdropWhile_prefix isBlank cs
      rw [htrimmed] at hstart
      obtain ⟨behind, rfl⟩ := hstart
      have hc : ¬ isBlank c = true := by
        rw [trimStartChars, List.dropWhile_eq_self_iff] at h
        exact h (by simp)
      rw [trimStartChars, List.dropWhile_cons_of_neg hc]

/-- What is not blank in front of a text is not trimmed. -/
theorem trimChars_append {front : List Char} (hne : front ≠ [])
    (hfront : ∀ c ∈ front, isBlank c = false) (rest : List Char) :
    trimChars (front ++ rest) = front ++ trimEndChars rest := by
  rw [trimChars, trimStartChars, dropWhile_append_of_forall hne hfront, trimEndChars,
    dropEnd_append hfront, trimEndChars]

/-- It does not matter which end is trimmed first. -/
theorem trimChars_eq (cs : List Char) : trimChars cs = trimStartChars (trimEndChars cs) := by
  induction cs with
  | nil => rfl
  | cons c cs ih =>
      cases hblank : isBlank c with
      | false =>
          have hstart : trimStartChars (c :: cs) = c :: cs :=
            List.dropWhile_cons_of_neg (by simp [hblank])
          rw [trimChars, hstart, trimStartChars_trimEndChars hstart]
      | true =>
          have hstart (rest : List Char) : trimStartChars (c :: rest) = trimStartChars rest :=
            List.dropWhile_cons_of_pos hblank
          have hend : trimStartChars (trimEndChars (c :: cs)) = trimStartChars (trimEndChars cs) := by
            rw [trimEndChars, List.reverse_cons, List.dropWhile_append]
            split
            · next hempty =>
                rw [List.dropWhile_cons_of_pos hblank, trimEndChars, List.isEmpty_iff.mp hempty]
                rfl
            · rw [List.reverse_append, List.reverse_singleton, List.singleton_append, hstart,
                trimEndChars]
          rw [trimChars, hstart, hend, ← ih, trimChars]

theorem trimChars_eq_nil_iff : trimChars cs = [] ↔ ∀ c ∈ cs, isBlank c = true := by
  have hend : trimChars cs = [] ↔ ∀ c ∈ trimStartChars cs, isBlank c = true :=
    List.rdropWhile_eq_nil_iff
  rw [hend]
  constructor
  · intro h c hc
    rw [← List.takeWhile_append_dropWhile (p := isBlank) (l := cs)] at hc
    rcases List.mem_append.mp hc with hstart | hrest
    · exact List.mem_takeWhile_imp hstart
    · exact h c hrest
  · intro h c hc
    exact h c ((List.dropWhile_suffix isBlank).subset hc)

/-- A text trimmed at both ends is what stands between the blanks in front and those behind. -/
theorem trimChars_eq_iff {cs core : List Char} : trimChars cs = core ↔
    ∃ front back, (∀ c ∈ front, isBlank c = true) ∧ (∀ c ∈ back, isBlank c = true) ∧
      cs = front ++ (core ++ back) ∧ (∀ c ∈ core.head?, isBlank c = false) ∧
      ∀ c ∈ core.getLast?, isBlank c = false := by
  constructor
  · rintro rfl
    obtain ⟨back, hback, hrest, hlast⟩ := trimEndChars_eq_iff.mp (rfl (a := trimChars cs))
    refine ⟨cs.takeWhile isBlank, back, fun c hc => List.mem_takeWhile_imp hc, hback, ?_,
      fun c hc => ?_, hlast⟩
    · rw [← hrest, trimStartChars, List.takeWhile_append_dropWhile]
    · have hhead := List.head?_dropWhile_not isBlank cs
      have hsame : (cs.dropWhile isBlank).head? = some c := by
        rw [← trimStartChars, hrest, List.head?_append, hc, Option.some_or]
      rw [hsame] at hhead
      exact hhead
  · rintro ⟨front, back, hfront, hback, rfl, hhead, hlast⟩
    cases core with
    | nil => exact trimChars_eq_nil_iff.mpr (by simpa [or_imp, forall_and] using ⟨hfront, hback⟩)
    | cons c core =>
        have hstart : trimStartChars (front ++ (c :: core ++ back)) = c :: core ++ back := by
          rw [trimStartChars, List.dropWhile_append_of_pos hfront, List.cons_append,
            List.dropWhile_cons_of_neg (by simp [hhead c rfl])]
        rw [trimChars, hstart]
        exact trimEndChars_eq_iff.mpr ⟨back, hback, rfl, hlast⟩

theorem trimChars_subset (cs : List Char) : trimChars cs ⊆ cs :=
  List.Subset.trans (List.rdropWhile_prefix isBlank (trimStartChars cs)).subset
    (List.dropWhile_suffix isBlank).subset

theorem trimChars_trimChars (cs : List Char) : trimChars (trimChars cs) = trimChars cs := by
  have hstart : trimStartChars (trimStartChars cs) = trimStartChars cs :=
    List.dropWhile_idempotent isBlank _
  have hend (cs : List Char) : trimEndChars (trimEndChars cs) = trimEndChars cs :=
    List.rdropWhile_idempotent isBlank cs
  rw [trimChars, trimChars, trimStartChars_trimEndChars hstart, hend]

theorem trim_trim (s : String) : trim (trim s) = trim s := by
  rw [trim, trim, String.toList_ofList, trimChars_trimChars]

/-- A name that is trimmed and in lower case stays what it is. -/
theorem asciiLower_trim_idempotent (s : String) :
    asciiLower (trim (asciiLower (trim s))) = asciiLower (trim s) := by
  rw [trim_asciiLower, trim_trim, asciiLower_asciiLower]

/-! ## Lower case across words

The lower case of a character may depend on its neighbours, but only on those of the same word: a space
is neither cased nor passed over, so what stands on one side of it does not matter on the other. Words
joined by spaces are in lower case as each of them is for itself, and a text that occurs in one of them
when letter case does not matter occurs in all of them together. -/

/-- A text occurs in another one if it is a part of it. -/
theorem contains_iff {s part : String} : contains s part = true ↔ part.toList <:+: s.toList := by
  rw [contains, occursIn, Option.isSome_iff_ne_none, ne_eq, cutChars_eq_none_iff, not_not]

/-- A space is neither cased nor passed over. -/
theorem meetsCased_space (rest : List Char) : meetsCased (' ' :: rest) = false := by
  have hmet : inRanges caseIgnorableRanges ' ' = false := by decide +kernel
  have huncased : inRanges casedRanges ' ' = false := by decide +kernel
  rw [meetsCased, hmet, huncased]
  rfl

/-- What stands behind a space is not met from in front of it. -/
theorem meetsCased_append_space (cs rest : List Char) :
    meetsCased (cs ++ ' ' :: rest) = meetsCased cs := by
  induction cs with
  | nil => exact meetsCased_space rest
  | cons c cs ih => rw [List.cons_append, meetsCased, meetsCased, ih]

/-- Of what precedes a text it only matters whether that meets a cased character. -/
theorem lowerFrom_congr {before before' : List Char} (h : meetsCased before = meetsCased before')
    (cs : List Char) : lowerFrom before cs = lowerFrom before' cs := by
  induction cs generalizing before before' with
  | nil => rfl
  | cons c cs ih =>
      have hmore : meetsCased (c :: before) = meetsCased (c :: before') := by
        rw [meetsCased, meetsCased, h]
      rw [lowerFrom, lowerFrom, h, ih hmore]

/-- A text before a space and one behind it are in lower case for themselves. -/
theorem lowerFrom_append_space (before cs rest : List Char) :
    lowerFrom before (cs ++ ' ' :: rest) = lowerFrom before cs ++ ' ' :: lowerFrom [] rest := by
  induction cs generalizing before with
  | nil =>
      have hspace : lowerFrom before (' ' :: rest) = ' ' :: lowerFrom (' ' :: before) rest := rfl
      have hnone : meetsCased [] = false := rfl
      rw [List.nil_append, hspace, lowerFrom_congr ((meetsCased_space before).trans hnone.symm)]
      rfl
  | cons c cs ih =>
      rw [List.cons_append, lowerFrom, lowerFrom, ih, meetsCased_append_space, List.append_assoc]

/-- Texts, each behind a space. -/
def spaced (texts : List String) : String := String.join (texts.map (" " ++ ·))

theorem toList_spaced_cons (s : String) (texts : List String) :
    (spaced (s :: texts)).toList = ' ' :: (s.toList ++ (spaced texts).toList) := by
  rw [spaced, List.map_cons, String.join_cons, String.toList_append, String.toList_append]
  rfl

/-- What is in lower case in front of spaced texts is so by itself. -/
theorem lowerFrom_append_spaced (before cs : List Char) (texts : List String) :
    lowerFrom before (cs ++ (spaced texts).toList) =
      lowerFrom before cs ++ (spaced (texts.map lower)).toList := by
  induction texts generalizing before cs with
  | nil => simp [spaced]
  | cons s texts ih =>
      rw [toList_spaced_cons, lowerFrom_append_space, ih, List.map_cons, toList_spaced_cons, lower,
        String.toList_ofList]

/-- Spaced texts are in lower case as each of them is. -/
theorem lower_spaced (texts : List String) : lower (spaced texts) = spaced (texts.map lower) := by
  rw [lower, ← List.nil_append (spaced texts).toList, lowerFrom_append_spaced]
  exact String.ofList_toList

/-- A text among some is a part of them all spaced. -/
theorem infix_spaced_of_mem {s : String} {texts : List String} (h : s ∈ texts) :
    s.toList <:+: (spaced texts).toList := by
  induction texts with
  | nil => contradiction
  | cons t texts ih =>
      rw [toList_spaced_cons]
      rcases List.mem_cons.mp h with rfl | h
      · exact ⟨[' '], (spaced texts).toList, by simp⟩
      · exact (ih h).trans ⟨' ' :: t.toList, [], by simp⟩

/-- What occurs in a text of some, whatever the letter case, occurs in them all spaced. -/
theorem contains_lower_spaced_of_mem {s search : String} {texts : List String} (h : s ∈ texts)
    (hcontains : contains (lower s) search = true) :
    contains (lower (spaced texts)) search = true := by
  rw [contains_iff] at hcontains ⊢
  rw [lower_spaced]
  exact hcontains.trans (infix_spaced_of_mem (List.mem_map_of_mem h))

end Text

end DynamicContent
