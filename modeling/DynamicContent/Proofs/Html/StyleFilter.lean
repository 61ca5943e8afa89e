/-
# Which declarations of a style are kept

A declaration is kept if there is something in it and none of the forbidden parts occurs in it, whatever
the case of its letters. What is left of a style is safe as a whole and not only in its declarations: a
forbidden part has neither a blank nor a semicolon in it, so an occurrence never reaches over a place
where declarations were trimmed or joined. For the same reason a second pass finds the same declarations.
-/

import DynamicContent.Html.Policy
import DynamicContent.Proofs.Text.Casing

namespace DynamicContent.Html

/-- The declarations of a style: what stands between its semicolons. -/
def declarations (style : List Char) : List (List Char) := Text.splitAtEach (· == ';') style

/-- No forbidden part occurs in a text, in any case of its letters. -/
def IsFree (cs : List Char) : Prop :=
  ∀ part ∈ forbiddenInStyle, ¬ part.toList <:+: cs.map Char.toLower

instance : DecidablePred IsFree := fun cs =>
  inferInstanceAs (Decidable (∀ part ∈ forbiddenInStyle, ¬ part.toList <:+: cs.map Char.toLower))

/-- A declaration that is not blank and in which no forbidden part occurs. -/
def IsHarmless (declaration : List Char) : Prop :=
  (∃ c ∈ declaration, Text.isBlank c = false) ∧ IsFree declaration

instance : DecidablePred IsHarmless := fun declaration =>
  have : Decidable (∃ c ∈ declaration, Text.isBlank c = false) := List.decidableBEx _ declaration
  instDecidableAnd

variable {cs style : List Char} {c : Char} {kept : List (List Char)}

/-! ## Occurrences of forbidden parts -/

theorem isFree_nil : IsFree [] := by decide

/-- A character that is in no forbidden part keeps apart what stands on both sides of it. -/
theorem isFree_append_cons (h : ∀ part ∈ forbiddenInStyle, c.toLower ∉ part.toList)
    (front back : List Char) : IsFree (front ++ c :: back) ↔ IsFree front ∧ IsFree back := by
  simp only [IsFree, List.map_append, List.map_cons]
  constructor
  · intro hfree
    exact ⟨fun part hpart hfront =>
        hfree part hpart ((Text.infix_append_cons_iff (h part hpart)).mpr (.inl hfront)),
      fun part hpart hback =>
        hfree part hpart ((Text.infix_append_cons_iff (h part hpart)).mpr (.inr hback))⟩
  · rintro ⟨hfront, hback⟩ part hpart hoccurs
    rcases (Text.infix_append_cons_iff (h part hpart)).mp hoccurs with hoccurs | hoccurs
    · exact hfront part hpart hoccurs
    · exact hback part hpart hoccurs

/-- No forbidden part has a blank in it. -/
theorem blank_not_mem_forbidden (h : Text.isBlank c = true) :
    ∀ part ∈ forbiddenInStyle, c.toLower ∉ part.toList := by
  have hall : ∀ part ∈ forbiddenInStyle, part.toList.all (!Text.isBlank ·) = true := by decide
  intro part hpart hc
  have hvisible := List.all_eq_true.mp (hall part hpart) c.toLower hc
  rw [Text.isBlank_toLower, h] at hvisible
  contradiction

theorem isFree_trimStartChars (cs : List Char) : IsFree (Text.trimStartChars cs) ↔ IsFree cs := by
  induction cs with
  | nil => rfl
  | cons c cs ih =>
      by_cases hblank : Text.isBlank c = true
      · have hfree := isFree_append_cons (blank_not_mem_forbidden hblank) [] cs
        rw [List.nil_append, and_iff_right isFree_nil] at hfree
        rw [Text.trimStartChars, List.dropWhile_cons_of_pos hblank, ← Text.trimStartChars, ih, hfree]
      · rw [Text.trimStartChars, List.dropWhile_cons_of_neg hblank]

theorem isFree_trimEndChars (cs : List Char) : IsFree (Text.trimEndChars cs) ↔ IsFree cs := by
  induction cs using List.reverseRecOn with
  | nil => rfl
  | append_singleton cs c ih =>
      by_cases hblank : Text.isBlank c = true
      · have hfree := isFree_append_cons (blank_not_mem_forbidden hblank) cs []
        rw [and_iff_left isFree_nil] at hfree
        rw [Text.trimEndChars_concat_blank hblank, ih, hfree]
      · have hself : Text.trimEndChars (cs ++ [c]) = cs ++ [c] :=
          List.rdropWhile_concat_neg Text.isBlank cs c hblank
        rw [hself]

/-- Nothing forbidden is found or lost where a text is trimmed. -/
theorem isFree_trimChars (cs : List Char) : IsFree (Text.trimChars cs) ↔ IsFree cs := by
  rw [Text.trimChars, isFree_trimEndChars, isFree_trimStartChars]

/-- Declarations that are free are so together. -/
theorem isFree_intercalate (h : ∀ declaration ∈ kept, IsFree declaration) :
    IsFree ([';', ' '].intercalate kept) := by
  induction kept with
  | nil => exact isFree_nil
  | cons first kept ih =>
      obtain ⟨hfirst, hmore⟩ := List.forall_mem_cons.mp h
      cases kept with
      | nil => rwa [List.intercalate_singleton]
      | cons second kept =>
          have hsemicolon : ∀ part ∈ forbiddenInStyle, Char.toLower ';' ∉ part.toList := by decide
          have hspace := blank_not_mem_forbidden (c := ' ') (by decide)
          have hrest := (isFree_append_cons hspace [] _).mpr ⟨isFree_nil, ih hmore⟩
          rw [List.intercalate_cons_cons, List.append_assoc]
          exact (isFree_append_cons hsemicolon first _).mpr ⟨hfirst, hrest⟩

/-! ## Declarations that are kept -/

theorem isSafeDeclaration_iff : isSafeDeclaration cs = true ↔ IsFree cs := by
  simp only [isSafeDeclaration, IsFree, Text.occursIn, Bool.not_eq_true', List.any_eq_false,
    Option.isSome_iff_ne_none, ne_eq, Text.cutChars_eq_none_iff, not_not]

/-- What is kept are the harmless declarations, trimmed. -/
theorem keptDeclarations_eq (style : List Char) :
    keptDeclarations style =
      ((declarations style).filter fun declaration => IsHarmless declaration).map
        Text.trimChars := by
  rw [keptDeclarations, List.filter_map, ← declarations]
  apply congrArg (List.map Text.trimChars)
  apply List.filter_congr
  intro declaration _
  rw [Bool.eq_iff_iff, decide_eq_true_iff, IsHarmless, ← isFree_trimChars, ← isSafeDeclaration_iff]
  simp [Text.trimChars_eq_nil_iff]

/-- How a declaration is that has been kept. -/
structure IsKept (declaration : List Char) : Prop where
  nonempty : declaration ≠ []
  trimmed : Text.trimChars declaration = declaration
  whole : ∀ c ∈ declaration, (c == ';') = false
  free : IsFree declaration

theorem isKept_of_mem {declaration : List Char} (h : declaration ∈ keptDeclarations style) :
    IsKept declaration := by
  rw [keptDeclarations, List.mem_filter, List.mem_map, Bool.and_eq_true, isSafeDeclaration_iff] at h
  obtain ⟨⟨given, hgiven, rfl⟩, hnonempty, hfree⟩ := h
  refine ⟨by simpa using hnonempty, Text.trimChars_trimChars given, fun c hc => ?_, hfree⟩
  exact (Text.of_mem_splitAtEach given hgiven c (Text.trimChars_subset given hc)).1

/-- A blank in front of a text is trimmed off the first piece. -/
theorem map_trimChars_splitAtEach_cons {p : Char → Bool} (hblank : Text.isBlank c = true)
    (hc : p c = false) (cs : List Char) :
    (Text.splitAtEach p (c :: cs)).map Text.trimChars =
      (Text.splitAtEach p cs).map Text.trimChars := by
  obtain ⟨piece, pieces, hcs⟩ := List.exists_cons_of_ne_nil (Text.splitAtEach_ne_nil p cs)
  have htrim : Text.trimChars (c :: piece) = Text.trimChars piece := by
    rw [Text.trimChars, Text.trimStartChars, List.dropWhile_cons_of_pos hblank]
    rfl
  rw [Text.splitAtEach_cons_of_neg hc hcs, hcs, List.map_cons, List.map_cons, htrim]

/-- Kept declarations that are joined and cut again are the same. -/
theorem map_trimChars_declarations_intercalate (hne : kept ≠ [])
    (h : ∀ declaration ∈ kept, IsKept declaration) :
    (declarations ([';', ' '].intercalate kept)).map Text.trimChars = kept := by
  induction kept with
  | nil => exact absurd rfl hne
  | cons first kept ih =>
      obtain ⟨hfirst, hmore⟩ := List.forall_mem_cons.mp h
      have hpiece := Text.splitAtEach_of_forall hfirst.whole
      cases kept with
      | nil =>
          rw [List.intercalate_singleton, declarations, hpiece, List.map_singleton, hfirst.trimmed]
      | cons second kept =>
          rw [List.intercalate_cons_cons, List.append_assoc, declarations]
          -- Behind its semicolon the next declaration has the space in front, which is trimmed off.
          calc
            _ = (Text.splitAtEach (· == ';') first ++ Text.splitAtEach (· == ';')
                  (' ' :: [';', ' '].intercalate (second :: kept))).map Text.trimChars :=
              congrArg _ (Text.splitAtEach_append_cons (by decide) first _)
            _ = first :: (declarations ([';', ' '].intercalate (second :: kept))).map
                  Text.trimChars := by
              rw [List.map_append, hpiece, map_trimChars_splitAtEach_cons (by decide) (by decide),
                List.map_singleton, hfirst.trimmed]
              rfl
            _ = first :: second :: kept := by rw [ih (List.cons_ne_nil second kept) hmore]

/-- A second pass keeps all that was kept. -/
theorem keptDeclarations_intercalate (hne : kept ≠ [])
    (h : ∀ declaration ∈ kept, IsKept declaration) :
    keptDeclarations ([';', ' '].intercalate kept) = kept := by
  have hpieces := map_trimChars_declarations_intercalate hne h
  rw [declarations] at hpieces
  rw [keptDeclarations, hpieces, List.filter_eq_self]
  intro declaration hkept
  have hdeclaration := h declaration hkept
  rw [isSafeDeclaration_iff.mpr hdeclaration.free, Bool.and_true]
  simpa using hdeclaration.nonempty

theorem safeStyle?_eq (style : List Char) :
    safeStyle? style =
      if keptDeclarations style = [] then none
      else some ([';', ' '].intercalate (keptDeclarations style)) := by
  rw [safeStyle?]
  split
  · next hkept => rw [if_pos hkept]
  · next hkept => rw [if_neg hkept]; rfl

/-- A style has nothing left exactly if each of its declarations is blank or has something forbidden in
it. Otherwise the harmless declarations are left, trimmed and in their order. Nothing forbidden occurs in
them together, and they are all left if the style is cleaned once more. -/
theorem safeStyle?_filters (style : List Char) :
    (safeStyle? style = none ↔
        ∀ declaration ∈ declarations style, ¬ IsHarmless declaration) ∧
      ∀ safe, safeStyle? style = some safe →
        safe = [';', ' '].intercalate
            (((declarations style).filter fun declaration => IsHarmless declaration).map
              Text.trimChars) ∧
          IsFree safe ∧ safeStyle? safe = some safe := by
  constructor
  · rw [safeStyle?_eq, ite_eq_left_iff, keptDeclarations_eq]
    simp
  · intro safe hsafe
    rw [safeStyle?_eq, ite_eq_iff] at hsafe
    obtain ⟨-, hnone⟩ | ⟨hne, hsome⟩ := hsafe
    · contradiction
    obtain rfl := Option.some.inj hsome
    refine ⟨by rw [keptDeclarations_eq], isFree_intercalate fun d hd => (isKept_of_mem hd).free, ?_⟩
    rw [safeStyle?_eq, keptDeclarations_intercalate hne fun d hd => isKept_of_mem hd, if_neg hne]

/-- One declaration is blank, eight hold a forbidden text each, some of them in other letters, and of those
that are kept two nearly do. Of a style of forbidden texts alone nothing is left. -/
theorem safeStyle?_filters_mixed :
    let forbidden := "top:Expression(1);a:javaScript:b;c:VBScript:d;-Moz-Binding: b; Behavior: e".toList
    let style := " WIDTH: 10px;;".toList ++ forbidden ++
      ";BEHAVIOUR:f; @Import g; background: URL(a.png);h: url (i); behaviour : j;color : red".toList
    let safe := "WIDTH: 10px; h: url (i); behaviour : j; color : red".toList
    safeStyle? style = some safe ∧ IsFree safe ∧ safeStyle? safe = some safe ∧
      safeStyle? forbidden = none ∧
      ∀ declaration ∈ declarations forbidden, ¬ IsHarmless declaration := by
  intro forbidden style safe
  have hsafe : safeStyle? style = some safe := by decide +kernel
  have hnone : safeStyle? forbidden = none := by decide +kernel
  obtain ⟨-, hfree, hagain⟩ := (safeStyle?_filters style).2 safe hsafe
  exact ⟨hsafe, hfree, hagain, hnone, (safeStyle?_filters forbidden).1.mp hnone⟩

end DynamicContent.Html
