/-
# What follows a part of a document

Text is a front of what is read, and markup leaves a rear of it. Together that says that reading a
document part by part never goes back and never makes anything up.
-/

import DynamicContent.Html.Token
import Mathlib.Data.List.Infix

namespace DynamicContent.Html

/-! ## Markup -/

/-- What follows a character of a rear is a rear. -/
theorem suffix_of_cons {c : Char} {rest cs : List Char} (h : c :: rest <:+ cs) : rest <:+ cs :=
  (List.suffix_cons c rest).trans h

/-- What follows a value in quotes is a rear. -/
theorem suffix_of_quoted {quote : Char} {inside cs value rest : List Char} (hinside : inside <:+ cs)
    (h : (match inside.dropWhile (· != quote) with
      | [] => none
      | _ :: rest => some (inside.takeWhile (· != quote), rest)) = some (value, rest)) :
    rest <:+ cs := by
  split at h
  · contradiction
  · next heq =>
      simp only [Option.some.injEq, Prod.mk.injEq] at h
      obtain ⟨-, rfl⟩ := h
      exact (suffix_of_cons (heq ▸ List.dropWhile_suffix _)).trans hinside

theorem takeAttributeValue?_suffix {cs value rest : List Char}
    (h : takeAttributeValue? cs = some (value, rest)) : rest <:+ cs := by
  have hblank : cs.dropWhile isTagBlank <:+ cs := List.dropWhile_suffix _
  unfold takeAttributeValue? at h
  dsimp only at h
  split at h
  · next heq => exact suffix_of_quoted (suffix_of_cons (heq ▸ hblank)) h
  · next heq => exact suffix_of_quoted (suffix_of_cons (heq ▸ hblank)) h
  · simp only [Option.some.injEq, Prod.mk.injEq] at h
    obtain ⟨-, rfl⟩ := h
    exact (List.dropWhile_suffix _).trans hblank

theorem takeAttributes?_suffix {n : Nat} {cs rest : List Char} {attrs : List (String × String)}
    {selfClosing : Bool} (h : takeAttributes? n cs = some (attrs, selfClosing, rest)) :
    rest <:+ cs := by
  induction n generalizing cs attrs selfClosing rest with
  | zero => simp [takeAttributes?] at h
  | succ n ih =>
      have hblank : cs.dropWhile isTagBlank <:+ cs := List.dropWhile_suffix _
      simp only [takeAttributes?] at h
      split at h
      · contradiction
      · next heq =>
          simp only [Option.some.injEq, Prod.mk.injEq] at h
          obtain ⟨-, -, rfl⟩ := h
          exact suffix_of_cons (heq ▸ hblank)
      · next heq =>
          simp only [Option.some.injEq, Prod.mk.injEq] at h
          obtain ⟨-, -, rfl⟩ := h
          exact suffix_of_cons (suffix_of_cons (heq ▸ hblank))
      · next heq => exact (ih h).trans (suffix_of_cons (heq ▸ hblank))
      · next c behind _ _ _ heq =>
          -- A name, and a value if there is an equals sign behind it.
          have hname : (behind.dropWhile fun c => !(endsTagName c || c == '=')).dropWhile isTagBlank
              <:+ cs :=
            (List.dropWhile_suffix _).trans
              ((List.dropWhile_suffix _).trans (suffix_of_cons (heq ▸ hblank)))
          split at h
          · next hequals =>
              simp only [Option.bind_eq_bind, Option.bind_eq_some_iff, Prod.exists,
                Option.some.injEq, Prod.mk.injEq] at h
              obtain ⟨value, inside, hvalue, attributes, closing, last, hmore, -, -, rfl⟩ := h
              exact (ih hmore).trans
                ((takeAttributeValue?_suffix hvalue).trans (suffix_of_cons (hequals ▸ hname)))
          · simp only [Option.bind_eq_bind, Option.bind_eq_some_iff, Prod.exists,
              Option.some.injEq, Prod.mk.injEq] at h
            obtain ⟨attributes, closing, last, hmore, -, -, rfl⟩ := h
            exact (ih hmore).trans hname

theorem takeTag?_suffix {cs rest : List Char} {tag : Tag} (h : takeTag? cs = some (tag, rest)) :
    rest <:+ cs := by
  simp only [takeTag?, Option.bind_eq_bind, Option.bind_eq_some_iff, Prod.exists,
    Option.some.injEq, Prod.mk.injEq] at h
  obtain ⟨attributes, closing, last, hmore, -, rfl⟩ := h
  exact (takeAttributes?_suffix hmore).trans (List.dropWhile_suffix _)

theorem takeComment_suffix (cs : List Char) : (takeComment cs).2 <:+ cs := by
  fun_induction takeComment cs with
  | case1 => exact List.suffix_refl _
  | case2 rest => exact ⟨['-', '-', '>'], rfl⟩
  | case3 rest => exact ⟨['-', '-', '!', '>'], rfl⟩
  | case4 c rest _ _ text last heq ih =>
      rw [heq] at ih
      exact ih.trans (List.suffix_cons c rest)

theorem takeCharacterData_suffix (cs : List Char) : (takeCharacterData cs).2 <:+ cs := by
  fun_induction takeCharacterData cs with
  | case1 => exact List.suffix_refl _
  | case2 rest => exact ⟨[']', ']', '>'], rfl⟩
  | case3 c rest _ text last heq ih =>
      rw [heq] at ih
      exact ih.trans (List.suffix_cons c rest)

theorem takeToClose_suffix (cs : List Char) : (takeToClose cs).2 <:+ cs :=
  (List.drop_suffix _ _).trans (List.dropWhile_suffix _)

theorem commentAfterDashes_suffix (cs : List Char) : (commentAfterDashes cs).2 <:+ cs := by
  unfold commentAfterDashes
  split
  · exact List.suffix_cons _ _
  · exact ⟨['-', '>'], rfl⟩
  · exact takeComment_suffix cs

/-- Behind markup there is a rear of the document. -/
theorem takeMarkup_suffix (characterData : Bool) (cs : List Char) :
    (takeMarkup characterData cs).2 <:+ cs := by
  have hloose (cs : List Char) : (looseComment cs).2 <:+ cs := takeToClose_suffix cs
  have hdrop (n : Nat) (cs : List Char) : cs.drop n <:+ cs := List.drop_suffix n cs
  unfold takeMarkup
  split
  · exact ⟨['/', '>'], rfl⟩
  · next c rest _ =>
      split
      · split
        · next heq => exact (takeTag?_suffix heq).trans (List.suffix_cons _ _)
        · exact List.nil_suffix
      · exact (hloose _).trans (List.suffix_cons _ _)
  · next rest => exact (commentAfterDashes_suffix rest).trans ⟨['!', '-', '-'], rfl⟩
  · next rest _ =>
      have hrest : rest <:+ '!' :: rest := List.suffix_cons _ _
      split
      · exact ((takeToClose_suffix _).trans (hdrop 7 rest)).trans hrest
      · split
        · exact ((takeCharacterData_suffix _).trans (hdrop 7 rest)).trans hrest
        · exact (hloose rest).trans hrest
  · exact hloose _
  · split
    · next heq => exact takeTag?_suffix heq
    · exact List.nil_suffix

/-! ## Text -/

theorem takeData_append (cs : List Char) : (takeData cs).1 ++ (takeData cs).2 = cs := by
  fun_induction takeData cs with
  | case1 => rfl
  | case2 => rfl
  | case3 c cs _ text rest heq ih =>
      rw [heq] at ih
      exact congrArg (c :: ·) ih

theorem takeRaw_append (name : String) (cs : List Char) :
    (takeRaw name cs).1 ++ (takeRaw name cs).2 = cs := by
  fun_induction takeRaw name cs with
  | case1 => rfl
  | case2 => rfl
  | case3 c cs _ text rest heq ih =>
      rw [heq] at ih
      exact congrArg (c :: ·) ih

theorem takeScript_append (name : String) (state : ScriptState) (dashes : Nat) (cs : List Char) :
    (takeScript name state dashes cs).1 ++ (takeScript name state dashes cs).2 = cs := by
  induction cs generalizing state dashes with
  | nil => rfl
  | cons c cs ih =>
      have hnext (state : ScriptState) (dashes : Nat) :
          (c :: (takeScript name state dashes cs).1) ++ (takeScript name state dashes cs).2 =
            c :: cs := congrArg (c :: ·) (ih state dashes)
      unfold takeScript
      dsimp only
      split
      · cases state with
        | code =>
            dsimp only
            split
            · rfl
            · split <;> exact hnext _ _
        | comment =>
            dsimp only
            split
            · rfl
            · split <;> exact hnext _ _
        | nested =>
            dsimp only
            split <;> exact hnext _ _
      · split
        · exact hnext _ _
        · split
          · exact hnext _ _
          · split <;> exact hnext _ _

/-- Text is a front of what is read, and what is left is the rest. -/
theorem takeText_append (mode : TextMode) (name : String) (cs : List Char) :
    (takeText mode name cs).1 ++ (takeText mode name cs).2 = cs := by
  cases mode with
  | data => exact takeData_append cs
  | escapable => exact takeRaw_append name cs
  | raw => exact takeRaw_append name cs
  | script => exact takeScript_append name .code 0 cs
  | plain => exact List.append_nil cs

end DynamicContent.Html
