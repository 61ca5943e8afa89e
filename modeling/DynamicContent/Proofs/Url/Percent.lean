/-
# Percent coding read back

What percent coding writes is `%` and hexadecimal digits, and none of these is coded in any part of an
address. So to code a text that has been coded changes nothing, and no coding changes the bytes that a
text stands for. A segment of a path stands for its own place or for the parent by its bytes alone, and
therefore still does, or still does not, once it is coded.
-/

import DynamicContent.Proofs.Text.Casing
import DynamicContent.Url.Basic
import Mathlib.Data.Bool.AllAny
import Mathlib.Data.List.Basic

namespace DynamicContent

/-- The bytes of a text are the encoding of that text. -/
theorem Text.ofUtf8Bytes?_utf8Bytes (cs : List Char) :
    Text.ofUtf8Bytes? (Text.utf8Bytes cs) = some cs := by
  have hbytes : (⟨(utf8Bytes cs).toArray⟩ : ByteArray) = (String.ofList cs).toByteArray := by
    rw [String.toByteArray_ofList]
    exact ByteArray.ext (by simp [utf8Bytes, List.utf8Encode])
  rw [ofUtf8Bytes?, hbytes, String.fromUTF8?, dif_pos (String.ofList cs).isValidUTF8]
  exact congrArg some String.toList_ofList

namespace Url

variable {coded : Char → Bool} {c : Char} {cs : List Char}

/-! ## Characters of ASCII -/

/-- What holds of the characters of ASCII one by one holds of each of them. -/
theorem of_ascii {P : Char → Prop} (hall : ∀ n < 128, P (Char.ofNat n)) (h : c.toNat < 128) :
    P c := by
  have hchar := hall c.toNat h
  rwa [Char.ofNat_toNat] at hchar

theorem toNat_lt_of_isAlphanum (h : c.isAlphanum = true) : c.toNat < 128 := by
  rcases Bool.or_eq_true_iff.mp h with hletter | hdigit
  · rcases Bool.or_eq_true_iff.mp hletter with hcapital | hsmall
    · have hle : c.val ≤ 'Z'.val := (of_decide_eq_true hcapital).2
      exact Nat.lt_of_le_of_lt (UInt32.le_iff_toNat_le.mp hle) (by decide)
    · have hle : c.val ≤ 'z'.val := of_decide_eq_true (Bool.and_eq_true_iff.mp hsmall).2
      exact Nat.lt_of_le_of_lt (UInt32.le_iff_toNat_le.mp hle) (by decide)
  · have hle : c.val ≤ '9'.val := of_decide_eq_true (Bool.and_eq_true_iff.mp hdigit).2
    exact Nat.lt_of_le_of_lt (UInt32.le_iff_toNat_le.mp hle) (by decide)

/-! ## What is written -/

/-- The hexadecimal digits. -/
def hexDigits : List Char := "0123456789abcdefABCDEF".toList

theorem mem_hexDigits_of_hexDigitValue? {n : Nat} (h : hexDigitValue? c = some n) :
    c ∈ hexDigits := by
  have hrange : 48 ≤ c.toNat ∧ c.toNat ≤ 57 ∨ 97 ≤ c.toNat ∧ c.toNat ≤ 102 ∨
      65 ≤ c.toNat ∧ c.toNat ≤ 70 := by
    unfold hexDigitValue? at h
    split_ifs at h with hdigit hsmall hcapital
    · simp only [Char.isDigit, Bool.and_eq_true, decide_eq_true_eq] at hdigit
      exact .inl ⟨UInt32.le_iff_toNat_le.mp hdigit.1, UInt32.le_iff_toNat_le.mp hdigit.2⟩
    · simp only [Bool.and_eq_true, decide_eq_true_eq] at hsmall
      exact .inr (.inl ⟨UInt32.le_iff_toNat_le.mp hsmall.1, UInt32.le_iff_toNat_le.mp hsmall.2⟩)
    · simp only [Bool.and_eq_true, decide_eq_true_eq] at hcapital
      exact .inr (.inr ⟨UInt32.le_iff_toNat_le.mp hcapital.1,
        UInt32.le_iff_toNat_le.mp hcapital.2⟩)
  exact of_ascii (P := fun c => (48 ≤ c.toNat ∧ c.toNat ≤ 57 ∨ 97 ≤ c.toNat ∧ c.toNat ≤ 102 ∨
    65 ≤ c.toNat ∧ c.toNat ≤ 70) → c ∈ hexDigits) (by decide) (by omega) hrange

theorem hexDigitValue?_upperHexDigit (n : Nat) : hexDigitValue? (upperHexDigit n) = some (n % 16) := by
  have hall : ∀ m < 16, hexDigitValue? (Nat.digitChar m).toUpper = some m := by decide
  exact hall (n % 16) (Nat.mod_lt n (by decide))

/-- A set of characters that percent coding does not write itself. -/
def SparesCode (coded : Char → Bool) : Prop := coded '%' = false ∧ ∀ c ∈ hexDigits, coded c = false

theorem SparesCode.not_coded {n : Nat} (hspares : SparesCode coded) (h : hexDigitValue? c = some n) :
    coded c = false := hspares.2 c (mem_hexDigits_of_hexDigitValue? h)

theorem sparesCode_codedInPath : SparesCode codedInPath :=
  ⟨by decide, List.all_iff_forall_prop.mp (by decide)⟩

theorem sparesCode_codedInUserInfo : SparesCode codedInUserInfo :=
  ⟨by decide, List.all_iff_forall_prop.mp (by decide)⟩

theorem percentEncode_cons_of_pos (h : coded c = true) (cs : List Char) :
    percentEncode coded (c :: cs) = percentChar c ++ percentEncode coded cs := by
  rw [percentEncode, List.flatMap_cons, if_pos h, percentEncode]

theorem percentEncode_cons_of_neg (h : coded c = false) (cs : List Char) :
    percentEncode coded (c :: cs) = c :: percentEncode coded cs := by
  rw [percentEncode, List.flatMap_cons, if_neg (by simp [h]), percentEncode, List.singleton_append]

/-- A text in which nothing is to be coded stays what it is. -/
theorem percentEncode_of_forall (h : ∀ c ∈ cs, coded c = false) : percentEncode coded cs = cs := by
  induction cs with
  | nil => rfl
  | cons c cs ih =>
      obtain ⟨hc, hcs⟩ := List.forall_mem_cons.mp h
      rw [percentEncode_cons_of_neg hc, ih hcs]

theorem mem_percentChar {d : Char} (h : d ∈ percentChar c) : d = '%' ∨ d ∈ hexDigits := by
  obtain ⟨byte, -, hd⟩ := List.mem_flatMap.mp h
  rw [percentByte, List.mem_cons, List.mem_cons, List.mem_singleton] at hd
  rcases hd with rfl | rfl | rfl
  · exact .inl rfl
  · exact .inr (mem_hexDigits_of_hexDigitValue? (hexDigitValue?_upperHexDigit _))
  · exact .inr (mem_hexDigits_of_hexDigitValue? (hexDigitValue?_upperHexDigit _))

/-- What stands in a coded text is part of a code, or it is a character of the text that is not to be
coded. -/
theorem mem_percentEncode (h : c ∈ percentEncode coded cs) :
    (c = '%' ∨ c ∈ hexDigits) ∨ (c ∈ cs ∧ coded c = false) := by
  obtain ⟨d, hd, hc⟩ := List.mem_flatMap.mp h
  cases hcoded : coded d with
  | true =>
      rw [if_pos hcoded] at hc
      exact .inl (mem_percentChar hc)
  | false =>
      rw [if_neg (by simp [hcoded]), List.mem_singleton] at hc
      subst hc
      exact .inr ⟨hd, hcoded⟩

/-- In a coded text nothing is left to be coded. -/
theorem SparesCode.forall_mem_percentEncode (hspares : SparesCode coded) (cs : List Char) :
    ∀ c ∈ percentEncode coded cs, coded c = false := by
  intro c hc
  rcases mem_percentEncode hc with (rfl | hdigit) | ⟨-, hplain⟩
  · exact hspares.1
  · exact hspares.2 c hdigit
  · exact hplain

/-! ## The bytes of a coded text -/

/-- A text without `%` stands for its own bytes. -/
theorem percentDecode_of_not_mem (h : '%' ∉ cs) : percentDecode cs = Text.utf8Bytes cs := by
  induction cs with
  | nil => rfl
  | cons c cs ih =>
      obtain ⟨hc, hcs⟩ := List.ne_and_not_mem_of_not_mem_cons h
      rw [percentDecode, ih hcs, Text.utf8Bytes, Text.utf8Bytes, List.flatMap_cons]
      intro a b rest hpercent _
      exact hc hpercent.symm

theorem percentDecode_of_not_coded {a b : Char} {rest : List Char}
    (h : ∀ m n, hexDigitValue? a = some m → hexDigitValue? b = some n → False) :
    percentDecode ('%' :: a :: b :: rest) = 37 :: percentDecode (a :: b :: rest) := by
  rw [percentDecode]
  cases ha : hexDigitValue? a with
  | none => rfl
  | some m =>
      cases hb : hexDigitValue? b with
      | none => rfl
      | some n => exact (h m n ha hb).elim

/-- A `%` without two hexadecimal digits behind it stands for itself. -/
theorem percentDecode_percent_cons
    (h : ∀ a b rest m n, cs = a :: b :: rest → hexDigitValue? a = some m →
      hexDigitValue? b = some n → False) :
    percentDecode ('%' :: cs) = 37 :: percentDecode cs := by
  match cs with
  | [] => rfl
  | [a] => rfl
  | a :: b :: rest => exact percentDecode_of_not_coded fun m n => h a b rest m n rfl

theorem percentDecode_percentByte (b : UInt8) (rest : List Char) :
    percentDecode (percentByte b ++ rest) = b :: percentDecode rest := by
  have hbyte : UInt8.ofNat (16 * (b.toNat / 16 % 16) + b.toNat % 16) = b := by
    have hlt : b.toNat < 256 := b.toNat_lt
    rw [Nat.mod_eq_of_lt (by omega), Nat.div_add_mod, UInt8.ofNat_toNat]
  rw [percentByte, List.cons_append, List.cons_append, List.cons_append, List.nil_append,
    percentDecode, hexDigitValue?_upperHexDigit, hexDigitValue?_upperHexDigit]
  dsimp only
  rw [hbyte]

/-- The code of a character stands for its bytes. -/
theorem percentDecode_percentChar (c : Char) (rest : List Char) :
    percentDecode (percentChar c ++ rest) = String.utf8EncodeChar c ++ percentDecode rest := by
  rw [percentChar]
  induction String.utf8EncodeChar c with
  | nil => rfl
  | cons byte bytes ih =>
      rw [List.flatMap_cons, List.append_assoc, percentDecode_percentByte, ih, List.cons_append]

/-- A coded text begins like the text, or with a code. -/
theorem head_percentEncode (coded : Char → Bool) (c : Char) (cs : List Char) :
    (coded c = false ∧ percentEncode coded (c :: cs) = c :: percentEncode coded cs) ∨
      ∃ rest, percentEncode coded (c :: cs) = '%' :: rest := by
  cases hc : coded c with
  | false => exact .inl ⟨rfl, percentEncode_cons_of_neg hc cs⟩
  | true =>
      rw [percentEncode_cons_of_pos hc, percentChar]
      cases hbytes : String.utf8EncodeChar c with
      | nil => exact absurd hbytes (by simp)
      | cons byte bytes => exact .inr ⟨_, rfl⟩

theorem percentEncode_ne_nil (h : cs ≠ []) : percentEncode coded cs ≠ [] := by
  obtain ⟨c, cs, rfl⟩ := List.exists_cons_of_ne_nil h
  rcases head_percentEncode coded c cs with ⟨-, hplain⟩ | ⟨rest, hcode⟩
  · rw [hplain]
    exact List.cons_ne_nil _ _
  · rw [hcode]
    exact List.cons_ne_nil _ _

/-- Coding never puts two hexadecimal digits in front of a text. -/
theorem two_digits_of_percentEncode {a b : Char} {rest : List Char} {m n : Nat}
    (h : percentEncode coded cs = a :: b :: rest) (ha : hexDigitValue? a = some m)
    (hb : hexDigitValue? b = some n) : ∃ more, cs = a :: b :: more := by
  have hpercent : hexDigitValue? '%' = none := by decide
  match cs with
  | [] => exact absurd h (List.cons_ne_nil _ _).symm
  | c :: cs =>
      rcases head_percentEncode coded c cs with ⟨-, hplain⟩ | ⟨more, hcode⟩
      · obtain ⟨rfl, htail⟩ := List.cons.inj (hplain.symm.trans h)
        match cs with
        | [] => exact absurd htail (List.cons_ne_nil _ _).symm
        | d :: cs =>
            rcases head_percentEncode coded d cs with ⟨-, hplain⟩ | ⟨more, hcode⟩
            · obtain ⟨rfl, -⟩ := List.cons.inj (hplain.symm.trans htail)
              exact ⟨cs, rfl⟩
            · obtain ⟨rfl, -⟩ := List.cons.inj (hcode.symm.trans htail)
              exact absurd hb (by simp [hpercent])
      · obtain ⟨rfl, -⟩ := List.cons.inj (hcode.symm.trans h)
        exact absurd ha (by simp [hpercent])

/-- Coding does not change the bytes that a text stands for. -/
theorem percentDecode_percentEncode (hspares : SparesCode coded) (cs : List Char) :
    percentDecode (percentEncode coded cs) = percentDecode cs := by
  fun_induction percentDecode cs with
  | case1 => rfl
  | case2 a b rest m n hb ha ih =>
      rw [percentEncode_cons_of_neg hspares.1, percentEncode_cons_of_neg (hspares.not_coded ha),
        percentEncode_cons_of_neg (hspares.not_coded hb), percentDecode, ha, hb]
      dsimp only
      rw [ih]
  | case3 a b rest hnot ih =>
      rw [percentEncode_cons_of_neg hspares.1, percentDecode_percent_cons, ih]
      intro a' b' rest' m n heq ha hb
      obtain ⟨more, hmore⟩ := two_digits_of_percentEncode heq ha hb
      obtain ⟨rfl, htail⟩ := List.cons.inj hmore
      obtain ⟨rfl, -⟩ := List.cons.inj htail
      exact hnot m n ha hb
  | case4 c rest hnot ih =>
      cases hc : coded c with
      | true => rw [percentEncode_cons_of_pos hc, percentDecode_percentChar, ih]
      | false =>
          rw [percentEncode_cons_of_neg hc]
          rcases eq_or_ne c '%' with rfl | hpercent
          · rw [percentDecode_percent_cons, ih]
            · rfl
            · intro a b rest' m n heq ha hb
              obtain ⟨more, rfl⟩ := two_digits_of_percentEncode heq ha hb
              exact hnot a b more rfl rfl
          · rw [percentDecode, ih]
            intro a b rest' heq _
            exact hpercent heq

end Url

end DynamicContent
