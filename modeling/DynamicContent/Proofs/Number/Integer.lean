/-
# Decimal digits

The digits of a number denote it, and the first of them is a zero only if there is no other. A number
that fits into 64 bits is read back from its digits, with a sign or without.
-/

import DynamicContent.Number.Integer
import Mathlib.Data.Nat.Basic
import Mathlib.Tactic.Ring

namespace DynamicContent.Number

theorem natText_ne_nil (n : Nat) : natText n ≠ [] := Nat.toDigits_ne_nil

theorem isDigit_of_mem_natText {n : Nat} {c : Char} (h : c ∈ natText n) : c.isDigit = true :=
  Nat.isDigit_of_mem_toDigits (by decide) (by decide) h

/-- The digits of a number denote it. -/
theorem digitsValue_natText (n : Nat) : digitsValue 0 (natText n) = n := by
  have hvalue : Nat.ofDigitChars 10 (natText n) 0 = n := Nat.ofDigitChars_ten_toDigits
  rwa [Nat.ofDigitChars_eq_foldl] at hvalue

theorem isDigit_of_mem_intText {n : Int} {c : Char} (h : c ∈ intText n) :
    c = '-' ∨ c.isDigit = true := by
  rw [intText] at h
  split at h
  · rcases List.mem_cons.mp h with hsign | hdigit
    · exact .inl hsign
    · exact .inr (isDigit_of_mem_natText hdigit)
  · exact .inr (isDigit_of_mem_natText h)

/-- Characters of one kind in front of another character are what is read of that kind. -/
theorem takeWhile_append_of_stop {kind : Char → Bool} {front rest : List Char}
    (hfront : ∀ c ∈ front, kind c = true) (hstop : ∀ c ∈ rest.head?, kind c = false) :
    (front ++ rest).takeWhile kind = front ∧ (front ++ rest).dropWhile kind = rest := by
  rw [List.takeWhile_append_of_pos hfront, List.dropWhile_append_of_pos hfront]
  cases rest with
  | nil => exact ⟨List.append_nil _, rfl⟩
  | cons c rest =>
      have hc : ¬ kind c = true := by simp [hstop c rfl]
      rw [List.takeWhile_cons_of_neg hc, List.dropWhile_cons_of_neg hc]
      exact ⟨List.append_nil _, rfl⟩

/-- A number above zero does not begin with a zero. -/
theorem head?_natText_ne {n : Nat} (hn : 0 < n) : (natText n).head? ≠ some '0' := by
  induction n using Nat.strong_induction_on with
  | _ n ih =>
      rcases Nat.lt_or_ge n 10 with hlt | hge
      · rw [natText, Nat.toDigits_of_lt_base hlt, List.head?_cons, Ne, Option.some.injEq]
        rw [Nat.digitChar_eq_zero]
        omega
      · have hmore := ih (n / 10) (by omega) (by omega)
        rw [natText, Nat.toDigits_of_base_le (by decide) hge]
        cases hdigits : natText (n / 10) with
        | nil => exact absurd hdigits (natText_ne_nil _)
        | cons c digits =>
            rw [hdigits] at hmore
            rw [natText] at hdigits
            rw [hdigits]
            exact hmore

/-- No number begins with a zero that is followed by more digits. -/
theorem natText_of_head?_eq {n : Nat} (h : (natText n).head? = some '0') :
    (natText n).length ≤ 1 := by
  rcases Nat.eq_zero_or_pos n with rfl | hn
  · exact le_of_eq rfl
  · exact absurd h (head?_natText_ne hn)

/-! ## Values of digits -/

theorem digitsValue_append (acc : Nat) (front back : List Char) :
    digitsValue acc (front ++ back) = digitsValue (digitsValue acc front) back :=
  List.foldl_append

/-- Digits after a number. -/
theorem digitsValue_eq (acc : Nat) (cs : List Char) :
    digitsValue acc cs = acc * 10 ^ cs.length + digitsValue 0 cs := by
  induction cs generalizing acc with
  | nil => simp [digitsValue]
  | cons c cs ih =>
      have hcons (n : Nat) : digitsValue n (c :: cs) = digitsValue (10 * n + digitValue c) cs := rfl
      rw [hcons, hcons, ih, ih (10 * 0 + digitValue c), List.length_cons]
      ring

theorem digitsValue_zeros (acc n : Nat) :
    digitsValue acc (List.replicate n '0') = acc * 10 ^ n := by
  induction n generalizing acc with
  | zero => simp [digitsValue]
  | succ n ih =>
      have hcons : digitsValue acc (List.replicate (n + 1) '0') =
          digitsValue (10 * acc) (List.replicate n '0') := rfl
      rw [hcons, ih]
      ring

theorem isDigit_of_mem_zeros {n : Nat} {c : Char} (h : c ∈ List.replicate n '0') :
    c.isDigit = true := by
  rw [List.eq_of_mem_replicate h]
  rfl

theorem isDigit_of_mem_filled {zeros n : Nat} {c : Char}
    (h : c ∈ List.replicate zeros '0' ++ natText n) : c.isDigit = true := by
  rcases List.mem_append.mp h with hzero | hdigit
  · exact isDigit_of_mem_zeros hzero
  · exact isDigit_of_mem_natText hdigit

/-- Zeros in front of a number do not change it. -/
theorem digitsValue_filled (zeros n : Nat) :
    digitsValue 0 (List.replicate zeros '0' ++ natText n) = n := by
  rw [digitsValue_append, digitsValue_zeros, Nat.zero_mul, digitsValue_natText]

/-- So many digits denote a number below that power of ten. -/
theorem digitsValue_lt {cs : List Char} (h : ∀ c ∈ cs, c.isDigit = true) :
    digitsValue 0 cs < 10 ^ cs.length := by
  induction cs with
  | nil => exact Nat.one_pos
  | cons c cs ih =>
      have hrest := ih fun d hd => h d (List.mem_cons_of_mem _ hd)
      have hdigit : digitValue c < 10 := by
        have hc := h c List.mem_cons_self
        simp only [Char.isDigit, Bool.and_eq_true, decide_eq_true_eq, ge_iff_le, UInt32.le_iff_toNat_le] at hc
        have hzero : '0'.toNat = 48 := rfl
        have hcode : c.toNat = c.val.toNat := rfl
        rw [digitValue, hzero, hcode]
        simp at hc
        omega
      have hcons : digitsValue 0 (c :: cs) = digitsValue (10 * 0 + digitValue c) cs := rfl
      rw [hcons, digitsValue_eq, List.length_cons]
      calc (10 * 0 + digitValue c) * 10 ^ cs.length + digitsValue 0 cs
          < (10 * 0 + digitValue c) * 10 ^ cs.length + 10 ^ cs.length :=
            Nat.add_lt_add_left hrest _
        _ = (digitValue c + 1) * 10 ^ cs.length := by ring
        _ ≤ 10 * 10 ^ cs.length := Nat.mul_le_mul_right _ hdigit
        _ = 10 ^ (cs.length + 1) := by ring

/-- Digits that denote zero are zeros. -/
theorem eq_zero_of_digitsValue_eq_zero {cs : List Char} (hdigits : ∀ c ∈ cs, c.isDigit = true)
    (hvalue : digitsValue 0 cs = 0) : ∀ c ∈ cs, c = '0' := by
  induction cs with
  | nil => simp
  | cons d cs ih =>
      have hcons : digitsValue 0 (d :: cs) = digitsValue (digitValue d) cs := by
        simp [digitsValue]
      rw [hcons, digitsValue_eq, Nat.add_eq_zero_iff, Nat.mul_eq_zero] at hvalue
      obtain ⟨hfront | hpow, hrest⟩ := hvalue
      · have hzero : d = '0' := by
          have hrange := Char.isDigit_iff_toNat.mp (hdigits d List.mem_cons_self)
          rw [digitValue] at hfront
          exact Char.toNat_inj.mp (by omega)
        intro c hc
        rcases List.mem_cons.mp hc with rfl | hlater
        · exact hzero
        · exact ih (fun e he => hdigits e (List.mem_cons_of_mem _ he)) hrest c hlater
      · exact absurd hpow (Nat.pow_pos (by decide)).ne'

/-- Zeros at the end are the rest of digits that are stripped of them. -/
theorem exists_strip_append_zeros (cs : List Char) :
    ∃ n, cs = (cs.reverse.dropWhile (· == '0')).reverse ++ List.replicate n '0' := by
  have hzeros : cs.reverse.takeWhile (· == '0') =
      List.replicate (cs.reverse.takeWhile (· == '0')).length '0' := by
    refine List.eq_replicate_iff.mpr ⟨rfl, fun c hc => ?_⟩
    exact beq_iff_eq.mp (List.all_eq_true.mp List.all_takeWhile c hc)
  have hreverse := congrArg List.reverse
    (@List.takeWhile_append_dropWhile _ (· == '0') cs.reverse)
  rw [List.reverse_append, List.reverse_reverse, hzeros, List.reverse_replicate] at hreverse
  exact ⟨_, hreverse.symm⟩

/-! ## Reading numbers back -/

theorem natOfDigits?_natText (n : Nat) : natOfDigits? (natText n) = some n := by
  have hsome : (natText n).isEmpty = false := by
    simp [natText_ne_nil]
  have hdigits : (natText n).all Char.isDigit = true := by
    rw [List.all_eq_true]
    intro c hc
    exact isDigit_of_mem_natText hc
  rw [natOfDigits?, hsome, hdigits, digitsValue_natText]
  rfl

/-- The text of a number begins with a digit, so not with a sign. -/
theorem natText_ne_cons (n : Nat) {c : Char} (hc : c.isDigit = false) (rest : List Char) :
    natText n ≠ c :: rest := by
  intro heq
  have hdigit : c.isDigit = true := isDigit_of_mem_natText (heq ▸ List.mem_cons_self)
  rw [hdigit] at hc
  contradiction

theorem takeSign_natText (n : Nat) : takeSign (natText n) = (false, natText n) := by
  unfold takeSign
  split
  · next rest heq => exact absurd heq (natText_ne_cons n rfl rest)
  · next rest heq => exact absurd heq (natText_ne_cons n rfl rest)
  · rfl

theorem intOfText?_intText (n : Int) : intOfText? (intText n) = some n := by
  rw [intText]
  by_cases hnegative : n < 0
  · have habs : -(n.natAbs : Int) = n := by omega
    rw [if_pos hnegative, intOfText?, takeSign]
    dsimp only
    rw [natOfDigits?_natText]
    exact congrArg some habs
  · have habs : (n.natAbs : Int) = n := by omega
    rw [if_neg hnegative, intOfText?, takeSign_natText]
    dsimp only
    rw [natOfDigits?_natText]
    exact congrArg some habs

theorem int64OfText?_intText {n : Int} (hlow : int64Min ≤ n) (hhigh : n ≤ int64Max) :
    int64OfText? (intText n) = some n := by
  rw [int64OfText?, intOfText?_intText]
  exact Option.filter_some_pos (by simp [hlow, hhigh])

theorem nat64OfText?_natText {n : Nat} (hhigh : n ≤ nat64Max) :
    nat64OfText? (natText n) = some n := by
  unfold nat64OfText?
  dsimp only
  split
  · next rest heq => exact absurd heq (natText_ne_cons n rfl rest)
  · rw [natOfDigits?_natText]
    exact Option.filter_some_pos (by simp [hhigh])

end DynamicContent.Number
