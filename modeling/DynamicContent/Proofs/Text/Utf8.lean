/-
# Texts in the order of their bytes

Texts are ordered by code points. Their encodings are then in the order of bytes, since a longer
encoding begins with a greater byte, and among those of one length the bytes are the digits of the code
point, the highest first.
-/

import DynamicContent.Text.Blank
import Mathlib.Data.List.Lex

namespace DynamicContent.Text

/-- Of two numbers in order, either the higher digits are in order or, if they are the same, the last
ones. -/
theorem digit_lt {v w : Nat} (h : v < w) : v / 64 < w / 64 ∨ v / 64 = w / 64 ∧ v % 64 < w % 64 := by
  omega

/-- Of two characters in order the encodings are in order, whatever follows. -/
theorem utf8EncodeChar_append_lt {c d : Char} (h : c < d) (s t : List UInt8) :
    String.utf8EncodeChar c ++ s < String.utf8EncodeChar d ++ t := by
  have hlt : c.val.toNat < d.val.toNat := h
  have hbound : d.val.toNat < 1114112 := by
    rcases d.valid with hlow | hhigh
    · exact Nat.lt_trans hlow (by decide)
    · exact hhigh.2
  rw [String.utf8EncodeChar, String.utf8EncodeChar]
  generalize c.val.toNat = v at *
  generalize d.val.toNat = w at *
  split_ifs
  all_goals simp only [List.cons_append, List.cons_lt_cons_iff, UInt8.lt_iff_toNat_lt,
    ← UInt8.toNat_inj, UInt8.toNat_ofNat']
  -- Of encodings of different lengths, and of single bytes, the first bytes are in order.
  all_goals try (left; omega)
  -- What remains are two, three and four bytes on both sides.
  · rcases digit_lt hlt with hhigh | ⟨hhigh, hlow⟩
    · left
      omega
    · exact .inr ⟨by omega, .inl (by omega)⟩
  · rcases digit_lt hlt with hhigh | ⟨hhigh, hlow⟩
    · rcases digit_lt hhigh with hhigh | ⟨hhigh, hmiddle⟩
      · left
        omega
      · exact .inr ⟨by omega, .inl (by omega)⟩
    · exact .inr ⟨by omega, .inr ⟨by omega, .inl (by omega)⟩⟩
  · rcases digit_lt hlt with hhigh | ⟨hhigh, hlow⟩
    · rcases digit_lt hhigh with hhigh | ⟨hhigh, hmiddle⟩
      · rcases digit_lt hhigh with hhigh | ⟨hhigh, hthird⟩
        · left
          omega
        · exact .inr ⟨by omega, .inl (by omega)⟩
      · exact .inr ⟨by omega, .inr ⟨by omega, .inl (by omega)⟩⟩
    · exact .inr ⟨by omega, .inr ⟨by omega, .inr ⟨by omega, .inl (by omega)⟩⟩⟩

/-- Texts in order have encodings in the order of bytes. -/
theorem utf8Bytes_lt {cs ds : List Char} (h : cs < ds) : utf8Bytes cs < utf8Bytes ds := by
  induction h with
  | @nil d ds =>
      have hpos : 0 < (utf8Bytes (d :: ds)).length := by
        rw [utf8Bytes, List.flatMap_cons, List.length_append, String.length_utf8EncodeChar]
        exact Nat.add_pos_left (Char.utf8Size_pos d) _
      obtain ⟨byte, bytes, hbytes⟩ := List.exists_cons_of_length_pos hpos
      rw [hbytes]
      exact List.nil_lt_cons byte bytes
  | rel h => exact utf8EncodeChar_append_lt h _ _
  | cons h ih => exact List.append_left_lt ih

end DynamicContent.Text
