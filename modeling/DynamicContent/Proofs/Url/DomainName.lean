/-
# Domain names in ASCII

The ASCII form of a domain name is that of its labels, once its characters have been mapped. It is its
own ASCII form: what characters are mapped to is mapped already, and a coded label is accepted because its
code is read to the label that it was made from.
-/

import DynamicContent.Proofs.Text.Casing
import DynamicContent.Proofs.Text.Cutting
import DynamicContent.Proofs.Url.Percent
import DynamicContent.Proofs.Url.Punycode
import DynamicContent.Url.Host
import Mathlib.Data.List.Forall2
import Mathlib.Tactic.SplitIfs

namespace DynamicContent

/-! ## How characters are mapped

What a character of a domain name is mapped to is not changed by mapping it again. For most characters
this is seen from the definition; for the lower case of characters outside of ASCII it is a property of
the table. That is checked run by run: the code points that a run maps to are covered by no run, and they
keep out of the ranges that a domain name treats in a way of its own. -/

namespace Text.CaseRun

variable {run other : CaseRun} {n m : Nat}

/-- The least code point that a run maps to. -/
def low (run : CaseRun) : Nat := (run.first + run.offset).toNat

/-- The greatest code point that a run maps to. -/
def high (run : CaseRun) : Nat := (run.last + run.offset).toNat

/-- Whether the code points that a run maps to keep out of a range. -/
def keepsOut (run : CaseRun) (range : Nat × Nat) : Bool :=
  Nat.blt range.2 run.low || Nat.blt run.high range.1

/-- Whether the code points that a run maps to are not covered by another run: they lie before or behind
it, or both runs take every second code point and these are not the same. -/
def keepsOff (run other : CaseRun) : Bool :=
  run.keepsOut (other.first, other.last) ||
    (other.step == 2 && (run.step == 2 || run.first == run.last) && (run.low + other.first) % 2 == 1)

theorem of_map? (h : run.map? n = some m) :
    run.first ≤ n ∧ n ≤ run.last ∧ (n - run.first) % run.step = 0 ∧ m = (n + run.offset).toNat := by
  rw [map?, Option.ite_none_right_eq_some] at h
  simp only [Bool.and_eq_true, decide_eq_true_eq, beq_iff_eq] at h
  obtain ⟨⟨⟨hfirst, hlast⟩, hstep⟩, h⟩ := h
  exact ⟨hfirst, hlast, hstep, (Option.some.inj h).symm⟩

theorem bounds_of_map? (h : run.map? n = some m) : run.low ≤ m ∧ m ≤ run.high := by
  obtain ⟨hfirst, hlast, -, rfl⟩ := of_map? h
  exact ⟨Int.toNat_le_toNat (by omega), Int.toNat_le_toNat (by omega)⟩

theorem of_keepsOut {range : Nat × Nat} (hkeeps : run.keepsOut range = true) (h : run.map? n = some m) :
    range.2 < m ∨ m < range.1 := by
  obtain ⟨hlow, hhigh⟩ := bounds_of_map? h
  rw [keepsOut, Bool.or_eq_true, Nat.blt_eq, Nat.blt_eq] at hkeeps
  exact hkeeps.imp (·.trans_le hlow) hhigh.trans_lt

theorem map?_of_keepsOff (hlow : 0 < run.low) (hkeeps : run.keepsOff other = true)
    (h : run.map? n = some m) : other.map? m = none := by
  rw [map?]
  refine if_neg fun hcovers => ?_
  simp only [Bool.and_eq_true, decide_eq_true_eq, beq_iff_eq] at hcovers
  obtain ⟨⟨hfirst, hlast⟩, hstep⟩ := hcovers
  rcases (Bool.or_eq_true _ _).mp hkeeps with hout | hodd
  · have := of_keepsOut hout h
    omega
  · simp only [Bool.and_eq_true, Bool.or_eq_true, beq_iff_eq, low] at hodd hlow
    obtain ⟨⟨htwo, hsingle⟩, hparity⟩ := hodd
    obtain ⟨hfirst', hlast', hstep', rfl⟩ := of_map? h
    rw [htwo] at hstep
    rcases hsingle with htwo' | hsame
    · rw [htwo'] at hstep'
      omega
    · omega

end Text.CaseRun

namespace Url

variable {c d : Char} {cs : List Char} {n : Nat}

/-- The code points outside of ASCII that a domain name treats in a way of its own, and those that are no
characters, as ranges. -/
def setApart : List (Nat × Nat) :=
  [(0x80, 0xA0), (0xAD, 0xAD), (0x130, 0x130), (0x34F, 0x34F), (0x1680, 0x1680), (0x180B, 0x180F),
    (0x2000, 0x200F), (0x2028, 0x202F), (0x205F, 0x206F), (0x3000, 0x3002), (0xD800, 0xF8FF),
    (0xFDD0, 0xFDEF), (0xFE00, 0xFE0F), (0xFEFF, 0xFEFF), (0xFF01, 0xFF5E), (0xFF61, 0xFF61),
    (0xFFF0, 0xFFFF)]

/-- A character that is not set apart and that no run covers is mapped to itself. -/
theorem mapDomainChar?_of_no_run (hlow : 0x80 ≤ c.toNat) (hhigh : c.toNat ≤ 0x1FFFD)
    (hapart : ∀ range ∈ setApart, range.2 < c.toNat ∨ c.toNat < range.1)
    (hrun : ∀ run ∈ Text.lowerRuns, run.map? c.toNat = none) : mapDomainChar? c = some [c] := by
  simp only [setApart, List.forall_mem_cons, List.not_mem_nil, false_imp_iff, implies_true,
    and_true] at hapart
  have hexpand : (Text.lowerExpansions.find? (·.1 == c.toNat)) = none := by
    rw [List.find?_eq_none]
    simp only [Text.lowerExpansions, List.forall_mem_singleton, beq_iff_eq]
    omega
  have hlower : Text.lowerChar c = [c] := by
    rw [Text.lowerChar, if_neg (by omega), Text.mapCase, List.findSome?_eq_none_iff.mpr hrun, hexpand]
  have hstop : (c.toNat == 0x3002 || c.toNat == 0xFF0E || c.toNat == 0xFF61) = false := by
    simp only [Bool.or_eq_false_iff, beq_eq_false_iff_ne]
    omega
  have hignored : isIgnoredInDomain c = false := by
    simp only [isIgnoredInDomain, List.contains_cons, List.contains_nil, Bool.or_eq_false_iff,
      Bool.and_eq_false_iff, decide_eq_false_iff_not, beq_eq_false_iff_ne, and_true]
    omega
  have hrefused : isRefusedInDomain c = false := by
    simp only [isRefusedInDomain, Text.isBlank, Bool.or_eq_false_iff, Bool.and_eq_false_iff,
      decide_eq_false_iff_not, beq_eq_false_iff_ne]
    omega
  simp only [mapDomainChar?, hstop, hignored, hrefused, hlower]
  rw [if_neg (by omega), if_neg Bool.false_ne_true, if_neg (by simp; omega)]
  rfl

/-- What a run of the table maps to is not mapped on, and it is not set apart; but the letters of the
full width are mapped in another way, and one sign is mapped into ASCII. -/
def isFinal (run : Text.CaseRun) : Bool :=
  run.last < 0x80 || (0xFF01 ≤ run.first && run.last ≤ 0xFF5E) ||
    (run.first == run.last && run.low == 0x6B) ||
    (0x80 ≤ run.low && run.high ≤ 0x1FFFD && setApart.all run.keepsOut && Text.lowerRuns.all run.keepsOff)

theorem lowerRuns_final : Text.lowerRuns.all isFinal = true := by decide +kernel

/-- The lower case of a character outside of ASCII is mapped to itself, unless it is a letter of the full
width. -/
theorem mapDomainChar?_ofNat {run : Text.CaseRun} {m : Nat} (hrun : run ∈ Text.lowerRuns)
    (hascii : 0x80 ≤ n) (hwidth : n < 0xFF01 ∨ 0xFF5E < n) (h : run.map? n = some m) :
    mapDomainChar? (Char.ofNat m) = some [Char.ofNat m] := by
  obtain ⟨hfirst, hlast, -, hm⟩ := Text.CaseRun.of_map? h
  have hfinal := List.all_eq_true.mp lowerRuns_final run hrun
  simp only [isFinal, Bool.or_eq_true, Bool.and_eq_true, decide_eq_true_eq, beq_iff_eq] at hfinal
  rcases hfinal with ((hbefore | hbetween) | ⟨hsingle, hsign⟩) | ⟨⟨⟨hbehind, hbelow⟩, hout⟩, hoff⟩
  · omega
  · omega
  · -- the sign of the Kelvin is mapped to the letter k
    obtain rfl : m = 0x6B := by
      rw [Text.CaseRun.low] at hsign
      omega
    decide
  · have hapart : ∀ range ∈ setApart, range.2 < m ∨ m < range.1 := fun range hrange =>
      Text.CaseRun.of_keepsOut (List.all_eq_true.mp hout range hrange) h
    obtain ⟨hle, hge⟩ := Text.CaseRun.bounds_of_map? h
    have hnat : (Char.ofNat m).toNat = m := by
      have hsurrogates := hapart (0xD800, 0xF8FF) (by decide)
      have hvalid : m.isValidChar := by
        dsimp only at hsurrogates
        rw [Nat.isValidChar]
        omega
      rw [Char.ofNat, dif_pos hvalid]
      rfl
    refine mapDomainChar?_of_no_run (by omega) (by omega) (hnat.symm ▸ hapart)
      (hnat.symm ▸ fun other hother => ?_)
    exact Text.CaseRun.map?_of_keepsOff (by omega) (List.all_eq_true.mp hoff other hother) h

theorem toNat_toLower_lt (h : c.toNat < 0x80) : c.toLower.toNat < 0x80 := by
  rcases Text.toLower_eq_or c with ⟨-, heq⟩ | ⟨-, hhigh, heq⟩
  · rwa [heq]
  · omega

/-- In lower case a character of ASCII is mapped to itself. -/
theorem mapDomainChar?_toLower (h : c.toNat < 0x80) : mapDomainChar? c.toLower = some [c.toLower] := by
  rw [mapDomainChar?, if_pos (toNat_toLower_lt h), Text.toLower_toLower]

/-- The lower case of a character is given by a run of the table or by an expansion, or it is the
character itself. -/
theorem mem_lowerChar (hascii : 0x80 ≤ c.toNat) (hd : d ∈ Text.lowerChar c) :
    (∃ run ∈ Text.lowerRuns, ∃ m, run.map? c.toNat = some m ∧ d = Char.ofNat m) ∨
      (∃ expansion ∈ Text.lowerExpansions, ∃ m ∈ expansion.2, d = Char.ofNat m) ∨
      (Text.lowerChar c = [c] ∧ d = c) := by
  rw [Text.lowerChar, if_neg (Nat.not_lt.mpr hascii), Text.mapCase] at hd ⊢
  split at hd
  · next m hm =>
      obtain ⟨run, hrun, hmap⟩ := List.exists_of_findSome?_eq_some hm
      exact .inl ⟨run, hrun, m, hmap, List.mem_singleton.mp hd⟩
  · split at hd
    · next hexpand =>
        obtain ⟨m, hm, rfl⟩ := List.mem_map.mp hd
        exact .inr (.inl ⟨_, List.mem_of_find?_eq_some hexpand, m, hm, rfl⟩)
    · exact .inr (.inr ⟨rfl, List.mem_singleton.mp hd⟩)

/-- What a character is mapped to: the lower case of an ASCII character, a dot, nothing, or its own lower
case. -/
theorem mapDomainChar?_cases (h : mapDomainChar? c = some cs) :
    (∃ e : Char, e.toNat < 0x80 ∧ cs = [e.toLower]) ∨ cs = ['.'] ∨ cs = [] ∨
      (0x80 ≤ c.toNat ∧ (c.toNat < 0xFF01 ∨ 0xFF5E < c.toNat) ∧ cs = Text.lowerChar c) := by
  have hfull : ∀ m < 0x80, (Char.ofNat m).toNat < 0x80 := by decide
  unfold mapDomainChar? at h
  by_cases hascii : c.toNat < 0x80
  · rw [if_pos hascii] at h
    exact .inl ⟨c, hascii, (Option.some.inj h).symm⟩
  rw [if_neg hascii] at h
  by_cases hdot : (c.toNat == 0x3002 || c.toNat == 0xFF0E || c.toNat == 0xFF61) = true
  · rw [if_pos hdot] at h
    exact .inr (.inl (Option.some.inj h).symm)
  rw [if_neg hdot] at h
  by_cases hwidth : (decide (0xFF01 ≤ c.toNat) && decide (c.toNat ≤ 0xFF5E)) = true
  · rw [if_pos hwidth] at h
    simp only [Bool.and_eq_true, decide_eq_true_eq] at hwidth
    exact .inl ⟨Char.ofNat (c.toNat - 0xFEE0), hfull _ (by omega), (Option.some.inj h).symm⟩
  rw [if_neg hwidth] at h
  by_cases hignored : isIgnoredInDomain c = true
  · rw [if_pos hignored] at h
    exact .inr (.inr (.inl (Option.some.inj h).symm))
  rw [if_neg hignored, Option.ite_none_left_eq_some] at h
  simp only [Bool.and_eq_true, decide_eq_true_eq] at hwidth
  exact .inr (.inr (.inr ⟨by omega, by omega, (Option.some.inj h.2).symm⟩))

/-- What a character of a domain name is mapped to is mapped to itself. -/
theorem mapDomainChar?_of_mem (h : mapDomainChar? c = some cs) (hd : d ∈ cs) :
    mapDomainChar? d = some [d] := by
  have hexpansions : ∀ expansion ∈ Text.lowerExpansions, ∀ m ∈ expansion.2,
      mapDomainChar? (Char.ofNat m) = some [Char.ofNat m] := by decide +kernel
  rcases mapDomainChar?_cases h with ⟨e, hascii, rfl⟩ | rfl | rfl | ⟨hascii, hwidth, rfl⟩
  · obtain rfl := List.mem_singleton.mp hd
    exact mapDomainChar?_toLower hascii
  · obtain rfl := List.mem_singleton.mp hd
    decide
  · contradiction
  · rcases mem_lowerChar hascii hd with ⟨run, hrun, m, hmap, rfl⟩ | ⟨expansion, hexpand, m, hm, rfl⟩ |
      ⟨hsame, rfl⟩
    · exact mapDomainChar?_ofNat hrun hascii hwidth hmap
    · exact hexpansions expansion hexpand m hm
    · exact h.trans (congrArg some hsame)

end Url

end DynamicContent

namespace DynamicContent.Url

/-! ## The ASCII form -/

variable {c : Char} {cs name label : List Char}

/-- A list is followed through a partial function member by member. -/
theorem mapM_eq_some_iff {α β : Type} {f : α → Option β} {xs : List α} {ys : List β} :
    xs.mapM f = some ys ↔ List.Forall₂ (fun x y => f x = some y) xs ys := by
  induction xs generalizing ys with
  | nil =>
      rw [List.mapM_nil, List.forall₂_nil_left_iff]
      exact Option.some_inj.trans eq_comm
  | cons x xs ih =>
      rw [List.mapM_cons]
      constructor
      · intro h
        obtain ⟨y, hy, h⟩ := Option.bind_eq_some_iff.mp h
        obtain ⟨more, hmore, h⟩ := Option.bind_eq_some_iff.mp h
        obtain rfl := Option.some.inj h
        exact .cons hy (ih.mp hmore)
      · rintro (_ | ⟨hy, hmore⟩)
        exact Option.bind_eq_some_iff.mpr ⟨_, hy, Option.bind_eq_some_iff.mpr ⟨_, ih.mpr hmore, rfl⟩⟩

/-- What one list is related to has, for each of its members, a member of that list. -/
theorem exists_of_mem_right {α β : Type} {R : α → β → Prop} {xs : List α} {ys : List β}
    (h : List.Forall₂ R xs ys) {y : β} (hy : y ∈ ys) : ∃ x ∈ xs, R x y := by
  induction h with
  | nil => contradiction
  | cons hfirst _ ih =>
      rcases List.mem_cons.mp hy with rfl | hy
      · exact ⟨_, List.mem_cons_self, hfirst⟩
      · obtain ⟨x, hx, hr⟩ := ih hy
        exact ⟨x, List.mem_cons_of_mem _ hx, hr⟩

/-- The text of labels, with dots between them. -/
def dotted (labels : List (List Char)) : List Char := (labels.intersperse ['.']).flatten

/-- A domain name has an ASCII form if its characters can be mapped, each label then has one, and nothing
in these is forbidden. -/
theorem domainToAscii?_eq_some_iff {ascii : String} :
    domainToAscii? name = some ascii ↔
      ∃ mapped labels, List.Forall₂ (fun c cs => mapDomainChar? c = some cs) name mapped ∧
        List.Forall₂ (fun label out => labelToAscii? label = some out)
          (Text.splitAtEach (· == '.') mapped.flatten) labels ∧
        (∀ c ∈ dotted labels, isForbiddenInDomain c = false) ∧ ascii = String.ofList (dotted labels) := by
  rw [domainToAscii?]
  constructor
  · intro h
    obtain ⟨mapped, hmapped, h⟩ := Option.bind_eq_some_iff.mp h
    obtain ⟨labels, hlabels, h⟩ := Option.bind_eq_some_iff.mp h
    rw [Option.ite_none_left_eq_some, List.any_eq_true] at h
    obtain ⟨hnone, h⟩ := h
    refine ⟨mapped, labels, mapM_eq_some_iff.mp hmapped, mapM_eq_some_iff.mp hlabels, ?_,
      (Option.some.inj h).symm⟩
    exact fun c hc => Bool.eq_false_iff.mpr fun hforbidden => hnone ⟨c, hc, hforbidden⟩
  · rintro ⟨mapped, labels, hmapped, hlabels, hnone, rfl⟩
    refine Option.bind_eq_some_iff.mpr ⟨mapped, mapM_eq_some_iff.mpr hmapped, ?_⟩
    refine Option.bind_eq_some_iff.mpr ⟨labels, mapM_eq_some_iff.mpr hlabels, ?_⟩
    refine if_neg fun hany => ?_
    obtain ⟨c, hc, hforbidden⟩ := List.any_eq_true.mp hany
    exact absurd hforbidden (by simp [hnone c hc])

/-- A character of ASCII is mapped to lower case. -/
theorem mapDomainChar?_of_ascii (h : c.toNat < 0x80) : mapDomainChar? c = some [c.toLower] := by
  rw [mapDomainChar?]
  exact if_pos h

/-- A text of ASCII characters is mapped to lower case. -/
theorem forall₂_mapDomainChar? (h : ∀ c ∈ cs, c.toNat < 0x80) :
    List.Forall₂ (fun c cs => mapDomainChar? c = some cs) cs (cs.map fun c => [c.toLower]) := by
  rw [List.forall₂_map_right_iff, List.forall₂_same]
  exact fun c hc => mapDomainChar?_of_ascii (h c hc)

/-- A label of ASCII characters that is not in coded form stays what it is. -/
theorem labelToAscii?_of_ascii (hascii : ∀ c ∈ label, c.toNat < 0x80)
    (hcoded : Text.afterStart? "xn--".toList label = none) : labelToAscii? label = some label := by
  rw [labelToAscii?, hcoded]
  exact if_pos (by simpa using hascii)

/-- A label in coded form is accepted as it is, if the code is that of a label outside of ASCII whose
characters are mapped already. -/
theorem labelToAscii?_coded_iff {code out : List Char} :
    labelToAscii? ("xn--".toList ++ code) = some out ↔
      (∀ c ∈ code, c.toNat < 0x80) ∧ out = "xn--".toList ++ code ∧
        ∃ decoded, Punycode.decode? code = some decoded ∧ (∃ c ∈ decoded, 0x80 ≤ c.toNat) ∧
          ∀ c ∈ decoded, mapDomainChar? c = some [c] := by
  have hmark : Text.afterStart? "xn--".toList ("xn--".toList ++ code) = some code :=
    Text.afterStart?_eq_some_iff.mpr rfl
  have hascii : ("xn--".toList ++ code).all (·.toNat < 0x80) = true ↔ ∀ c ∈ code, c.toNat < 0x80 := by
    simp
  rw [labelToAscii?, hmark]
  dsimp only
  split
  · next hall =>
      rw [Option.bind_eq_bind, Option.bind_eq_some_iff]
      constructor
      · rintro ⟨decoded, hdecode, h⟩
        obtain ⟨houtside, h⟩ := Option.ite_none_left_eq_some.mp h
        obtain ⟨hmapped, h⟩ := Option.ite_none_right_eq_some.mp h
        exact ⟨hascii.mp hall, (Option.some.inj h).symm, decoded, hdecode, by simpa using houtside,
          by simpa using hmapped⟩
      · rintro ⟨-, rfl, decoded, hdecode, houtside, hmapped⟩
        exact ⟨decoded, hdecode, Option.ite_none_left_eq_some.mpr ⟨by simpa using houtside,
          Option.ite_none_right_eq_some.mpr ⟨by simpa using hmapped, rfl⟩⟩⟩
  · next houtside =>
      exact ⟨nofun, fun h => absurd (hascii.mpr h.1) houtside⟩

/-! ## The ASCII form of an ASCII form -/

/-- A digit of a code is a small letter or a digit. -/
theorem digit_settled : ∀ n < 36, (Punycode.digit n).toNat < 0x80 ∧
    mapDomainChar? (Punycode.digit n) = some [Punycode.digit n] ∧ Punycode.digit n ≠ '.' := by
  decide

/-- The ASCII form of a mapped label has mapped ASCII characters and no dots but those of the label, and
it is its own ASCII form. -/
theorem labelToAscii?_settled {out : List Char} (hmapped : ∀ c ∈ label, mapDomainChar? c = some [c])
    (h : labelToAscii? label = some out) :
    labelToAscii? out = some out ∧
      ∀ c ∈ out, c.toNat < 0x80 ∧ mapDomainChar? c = some [c] ∧ (c = '.' → '.' ∈ label) := by
  cases hmark : Text.afterStart? "xn--".toList label with
  | some code =>
      obtain rfl := Text.afterStart?_eq_some_iff.mp hmark
      obtain ⟨hascii, rfl, -⟩ := labelToAscii?_coded_iff.mp h
      refine ⟨h, fun c hc => ⟨?_, hmapped c hc, fun hdot => hdot ▸ hc⟩⟩
      have hbegins : ∀ c ∈ "xn--".toList, c.toNat < 0x80 := List.all_iff_forall_prop.mp (by decide)
      exact List.forall_mem_append.mpr ⟨hbegins, hascii⟩ c hc
  | none =>
      have hsame := h
      rw [labelToAscii?, hmark] at h
      dsimp only at h
      split at h
      · next hascii =>
          obtain rfl := Option.some.inj h
          refine ⟨hsame, fun c hc => ⟨?_, hmapped c hc, fun hdot => hdot ▸ hc⟩⟩
          exact of_decide_eq_true (List.all_eq_true.mp hascii c hc)
      · next houtside =>
          obtain rfl := Option.some.inj h
          have hcode : ∀ c ∈ Punycode.encode label, c.toNat < 0x80 ∧ mapDomainChar? c = some [c] ∧
              (c = '.' → '.' ∈ label) := by
            intro c hc
            rcases Punycode.mem_encode hc with ⟨hc, hascii⟩ | rfl | ⟨n, hn, rfl⟩
            · exact ⟨hascii, hmapped c hc, fun hdot => hdot ▸ hc⟩
            · exact ⟨by decide, by decide, nofun⟩
            · obtain ⟨hascii, hsettled, hdot⟩ := digit_settled n hn
              exact ⟨hascii, hsettled, fun heq => absurd heq hdot⟩
          have hbegins : ∀ c ∈ "xn--".toList, c.toNat < 0x80 ∧ mapDomainChar? c = some [c] ∧
              (c = '.' → '.' ∈ label) := by
            have : ∀ c ∈ "xn--".toList, c.toNat < 0x80 ∧ mapDomainChar? c = some [c] ∧ c ≠ '.' :=
              List.all_iff_forall_prop.mp (by decide)
            exact fun c hc => ⟨(this c hc).1, (this c hc).2.1, fun hdot => absurd hdot (this c hc).2.2⟩
          refine ⟨labelToAscii?_coded_iff.mpr ⟨fun c hc => (hcode c hc).1, rfl, label,
            Punycode.decode?_encode label, by simpa using houtside, hmapped⟩, ?_⟩
          exact List.forall_mem_append.mpr ⟨hbegins, hcode⟩

/-- The ASCII form of a domain name is its own ASCII form, and nothing in it is outside of ASCII or
forbidden. -/
theorem domainToAscii?_settled {ascii : String} (h : domainToAscii? name = some ascii) :
    domainToAscii? ascii.toList = some ascii ∧
      ∀ c ∈ ascii.toList, c.toNat < 0x80 ∧ isForbiddenInDomain c = false := by
  obtain ⟨mapped, labels, hmapped, hlabels, hallowed, rfl⟩ := domainToAscii?_eq_some_iff.mp h
  rw [String.toList_ofList]
  have hsteady : ∀ c ∈ mapped.flatten, mapDomainChar? c = some [c] := by
    intro c hc
    obtain ⟨cs, hcs, hc⟩ := List.mem_flatten.mp hc
    obtain ⟨d, -, hd⟩ := exists_of_mem_right hmapped hcs
    exact mapDomainChar?_of_mem hd hc
  have hsettled : ∀ label ∈ labels, labelToAscii? label = some label ∧
      ∀ c ∈ label, c.toNat < 0x80 ∧ mapDomainChar? c = some [c] ∧ (c == '.') = false := by
    intro label hlabel
    obtain ⟨source, hsource, hcode⟩ := exists_of_mem_right hlabels hlabel
    have hpiece := Text.of_mem_splitAtEach source hsource
    obtain ⟨hsame, hcharacters⟩ := labelToAscii?_settled (fun c hc => hsteady c (hpiece c hc).2) hcode
    refine ⟨hsame, fun c hc => ?_⟩
    obtain ⟨hascii, hmap, hdot⟩ := hcharacters c hc
    exact ⟨hascii, hmap, beq_eq_false_iff_ne.mpr fun heq =>
      absurd (hpiece '.' (hdot heq)).1 (by decide)⟩
  have hcharacters : ∀ c ∈ dotted labels, c.toNat < 0x80 ∧ mapDomainChar? c = some [c] := by
    intro c hc
    rcases Text.of_mem_flatten_intersperse hc with rfl | ⟨label, hlabel, hc⟩
    · decide
    · exact ((hsettled label hlabel).2 c hc).imp_right And.left
  have hsplit : Text.splitAtEach (· == '.') (dotted labels) = labels := by
    refine Text.splitAtEach_flatten_intersperse (by decide) ?_ fun label hlabel c hc =>
      ((hsettled label hlabel).2 c hc).2.2
    rintro rfl
    exact Text.splitAtEach_ne_nil _ _ (List.forall₂_nil_right_iff.mp hlabels)
  refine ⟨domainToAscii?_eq_some_iff.mpr ⟨(dotted labels).map ([·]), labels, ?_, ?_, hallowed, rfl⟩,
    fun c hc => ⟨(hcharacters c hc).1, hallowed c hc⟩⟩
  · rw [List.forall₂_map_right_iff, List.forall₂_same]
    exact fun c hc => (hcharacters c hc).2
  · have hflatten : ((dotted labels).map ([·])).flatten = dotted labels := by
      rw [← List.flatMap_def, List.flatMap_singleton']
    rw [hflatten, hsplit, List.forall₂_same]
    exact fun label hlabel => (hsettled label hlabel).1

end DynamicContent.Url
