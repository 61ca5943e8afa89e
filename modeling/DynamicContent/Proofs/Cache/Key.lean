/-
# What a stored key tells

A stored key is the prefix of the site, the segment of the group, `_` and the key. The prefix and the
key may hold `_` themselves, and a segment may be the beginning of another or be empty, but no segment
holds `_`. So behind the prefix the first `_` is the one between segment and key, and a stored key
tells both. The entries of a group are then those whose stored key begins like the group, however the
names of groups are nested into each other.
-/

import DynamicContent.Cache.Key
import DynamicContent.Proofs.Text.Casing

namespace DynamicContent.Text

/-- What keys hold is in lower case. -/
theorem toLower_of_isKeyChar {c : Char} (h : isKeyChar c = true) : c.toLower = c := by
  rcases toLower_eq_or c with ⟨-, hsame⟩ | ⟨hlow, hhigh, hlower⟩
  · exact hsame
  · -- A capital is in no key.
    have hcode : c.toNat = c.val.toNat := rfl
    simp only [isKeyChar, isLower_eq, Char.isDigit, Bool.or_eq_true, Bool.and_eq_true,
      decide_eq_true_eq, beq_iff_eq, ge_iff_le, UInt32.le_iff_toNat_le] at h
    rcases h with ((⟨hletter, -⟩ | ⟨-, hdigit⟩) | rfl) | rfl
    · simp at hletter
      omega
    · simp at hdigit
      omega
    · contradiction
    · contradiction

/-- A text of what keys hold is its own key. -/
theorem toKeyChars_eq_self {cs : List Char} (h : ∀ c ∈ cs, isKeyChar c = true) :
    toKeyChars cs = cs := by
  have hlower : cs.map Char.toLower = cs :=
    (List.map_congr_left fun c hc => toLower_of_isKeyChar (h c hc)).trans (List.map_id _)
  rw [toKeyChars, hlower, List.filter_eq_self]
  exact h

end DynamicContent.Text

namespace DynamicContent.Cache

theorem not_mem_groupSegment (group : List Char) : '_' ∉ groupSegment group := by
  intro hmem
  obtain ⟨c, -, hc⟩ := List.mem_map.mp hmem
  by_cases hline : c = '_'
  · rw [if_pos hline] at hc
    exact absurd hc (by decide)
  · rw [if_neg hline] at hc
    exact hline hc

theorem cutChars_groupSegment (group key : List Char) :
    Text.cutChars ['_'] (groupSegment group ++ '_' :: key) = some (groupSegment group, key) :=
  Text.cutChars_of_not_mem (not_mem_groupSegment group) key

theorem storedChars_eq (start group key : String) :
    storedChars start group key = namespaceChars start ++
      (groupSegment group.toList ++ '_' :: Text.toKeyChars key.toList) := by
  simp [storedChars, groupChars]

/-- A stored key tells the segment of the group and the characters of the key. -/
theorem storedKey_eq_iff {start group group' key key' : String} :
    storedKey start group key = storedKey start group' key' ↔
      groupSegment group.toList = groupSegment group'.toList ∧
        Text.toKeyChars key.toList = Text.toKeyChars key'.toList := by
  rw [storedKey, storedKey, String.ofList_inj, storedChars_eq, storedChars_eq,
    List.append_cancel_left_eq]
  constructor
  · intro heq
    have hcut := congrArg (Text.cutChars ['_']) heq
    rw [cutChars_groupSegment, cutChars_groupSegment] at hcut
    exact Prod.mk.inj (Option.some.inj hcut)
  · rintro ⟨hgroup, hkey⟩
    rw [hgroup, hkey]

theorem toList_storedKey (start group key : String) :
    (storedKey start group key).toList = storedChars start group key := String.toList_ofList

theorem storedKey_ne_empty (start group key : String) : storedKey start group key ≠ "" := by
  intro hempty
  have hchars := congrArg String.toList hempty
  rw [toList_storedKey, storedChars_eq] at hchars
  simp at hchars

/-- A stored key begins like a group exactly if its own group has the same segment. -/
theorem startsWith_groupStart (start group group' key : String) :
    Text.startsWith (storedKey start group' key) (groupStart start group) = true ↔
      groupSegment group'.toList = groupSegment group.toList := by
  rw [Text.startsWith, List.isPrefixOf_iff_prefix, toList_storedKey, groupStart,
    String.toList_ofList, storedChars_eq, groupChars, List.append_assoc,
    List.prefix_append_right_inj]
  constructor
  · rintro ⟨rest, hrest⟩
    have hcut := congrArg (Text.cutChars ['_']) hrest
    rw [List.append_assoc, List.singleton_append, cutChars_groupSegment,
      cutChars_groupSegment] at hcut
    exact (Prod.mk.inj (Option.some.inj hcut)).1.symm
  · intro hgroup
    rw [hgroup]
    exact ⟨Text.toKeyChars key.toList, by simp⟩

/-- Every stored key of a site begins like the site. -/
theorem startsWith_namespaceStart (start group key : String) :
    Text.startsWith (storedKey start group key) (namespaceStart start) = true := by
  rw [Text.startsWith, List.isPrefixOf_iff_prefix, toList_storedKey, namespaceStart,
    String.toList_ofList, storedChars_eq]
  exact List.prefix_append _ _

/-! ## Digests used as keys

A digest in hexadecimal digits tells the words of the digest, and reducing it to what keys may hold
leaves it as it is. The message of a digest has the group, a zero and the argument, each in its
encoding, so of two messages in one group equal ones have equal arguments. -/

namespace Digest

open DynamicContent.Digest

theorem digitChar_inj {m n : Nat} (hm : m < 16) (hn : n < 16)
    (h : Nat.digitChar m = Nat.digitChar n) : m = n := by
  have hall : ∀ i j : Fin 16, Nat.digitChar i = Nat.digitChar j → i = j := by decide
  exact Fin.mk.inj (hall ⟨m, hm⟩ ⟨n, hn⟩ h)

theorem isKeyChar_digitChar {n : Nat} (hn : n < 16) :
    Text.isKeyChar (Nat.digitChar n) = true := by
  have hall : ∀ i : Fin 16, Text.isKeyChar (Nat.digitChar i) = true := by decide
  exact hall ⟨n, hn⟩

/-- A word is told by its eight digits, from the highest on. -/
theorem hexWord_inj {v w : UInt32} (h : hexWord v = hexWord w) : v = w := by
  have hstep {shift : Nat} (habove : v.toNat / 2 ^ (shift + 4) = w.toNat / 2 ^ (shift + 4))
      (hdigit : Nat.digitChar ((v.toNat >>> shift) % 16) =
        Nat.digitChar ((w.toNat >>> shift) % 16)) :
      v.toNat / 2 ^ shift = w.toNat / 2 ^ shift := by
    have hsame := digitChar_inj (Nat.mod_lt _ (by decide)) (Nat.mod_lt _ (by decide)) hdigit
    rw [Nat.shiftRight_eq_div_pow, Nat.shiftRight_eq_div_pow] at hsame
    rw [Nat.pow_add, ← Nat.div_div_eq_div_mul, ← Nat.div_div_eq_div_mul] at habove
    rw [← Nat.div_add_mod (v.toNat / 2 ^ shift) 16, ← Nat.div_add_mod (w.toNat / 2 ^ shift) 16,
      hsame]
    exact congrArg (16 * · + _) habove
  simp only [hexWord, List.map_cons, List.map_nil, List.cons.injEq, and_true] at h
  obtain ⟨h28, h24, h20, h16, h12, h8, h4, h0⟩ := h
  have habove : v.toNat / 2 ^ 32 = w.toNat / 2 ^ 32 := by
    rw [Nat.div_eq_of_lt v.toNat_lt, Nat.div_eq_of_lt w.toNat_lt]
  have hupper := hstep (hstep (hstep (hstep habove h28) h24) h20) h16
  have hword : v.toNat / 2 ^ 0 = w.toNat / 2 ^ 0 :=
    hstep (hstep (hstep (hstep hupper h12) h8) h4) h0
  rw [Nat.pow_zero, Nat.div_one, Nat.div_one] at hword
  exact UInt32.toNat_inj.mp hword

theorem flatMap_hexWord_inj {words words' : List UInt32}
    (h : words.flatMap hexWord = words'.flatMap hexWord) : words = words' := by
  induction words generalizing words' with
  | nil =>
      cases words' with
      | nil => rfl
      | cons w words' => contradiction
  | cons v words ih =>
      cases words' with
      | nil => contradiction
      | cons w words' =>
          rw [List.flatMap_cons, List.flatMap_cons] at h
          obtain ⟨hfirst, hrest⟩ := List.append_inj h rfl
          rw [hexWord_inj hfirst, ih hrest]

/-- Messages with one digest in hexadecimal digits have one digest. -/
theorem sha256_eq_of_hex_eq {message message' : List UInt8} (h : hex message = hex message') :
    sha256 message = sha256 message' :=
  flatMap_hexWord_inj (String.ofList_inj.mp h)

theorem toKeyChars_hex (message : List UInt8) :
    Text.toKeyChars (hex message).toList = (hex message).toList := by
  apply Text.toKeyChars_eq_self
  intro c hc
  rw [hex, String.toList_ofList, List.mem_flatMap] at hc
  obtain ⟨word, -, hword⟩ := hc
  obtain ⟨shift, -, rfl⟩ := List.mem_map.mp hword
  exact isKeyChar_digitChar (Nat.mod_lt _ (by decide))

end Digest

/-- A text is told by its bytes. -/
theorem flatMap_utf8EncodeChar_inj {cs ds : List Char}
    (h : cs.flatMap String.utf8EncodeChar = ds.flatMap String.utf8EncodeChar) : cs = ds := by
  have hbytes : (String.ofList cs).toByteArray = (String.ofList ds).toByteArray := by
    rw [String.toByteArray_ofList, String.toByteArray_ofList]
    exact congrArg List.toByteArray h
  exact String.ofList_inj.mp (String.toByteArray_inj.mp hbytes)

theorem argumentBytes_inj {group : String} {cs ds : List Char}
    (h : argumentBytes group cs = argumentBytes group ds) : cs = ds :=
  flatMap_utf8EncodeChar_inj (List.cons.inj (List.append_cancel_left h)).2

/-- In one group, digests are stored under one key only if they are equal. -/
theorem hex_eq_of_storedKey_eq {start group : String} {message message' : List UInt8}
    (h : storedKey start group (Digest.hex message) = storedKey start group (Digest.hex message')) :
    Digest.hex message = Digest.hex message' := by
  have hkey := (storedKey_eq_iff.mp h).2
  rw [Digest.toKeyChars_hex, Digest.toKeyChars_hex] at hkey
  exact String.toList_inj.mp hkey

end DynamicContent.Cache
