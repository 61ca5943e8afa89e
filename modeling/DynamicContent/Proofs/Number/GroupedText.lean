/-
# Numbers with fixed places and grouped thousands

A magnitude with fixed places is a number of units of the last place, the one nearest to the magnitude
and of two the even one. Its digits are filled with zeros in front until one of them stands before the
point, and only the digits before the point are grouped.

Groups are counted from the last digit, but the commas are written from the front. What carries the
induction is the length of the first group: it is a multiple of three only when the group is full, and
that is when the rest of the digits has such a length.

Whether there is a sign is decided by the digits that are written. A value below zero that rounds to zero
has none.
-/

import DynamicContent.Proofs.Number.MarkedText

namespace DynamicContent.Number

/-! ## Groups of three -/

/-- Digits in groups of three, counted from the last digit, with commas between them. Only the first
group may be shorter. -/
def IsGrouped (digits text : List Char) : Prop :=
  ∃ first groups, digits = (first :: groups).flatten ∧ text = [','].intercalate (first :: groups) ∧
    1 ≤ first.length ∧ first.length ≤ 3 ∧ ∀ group ∈ groups, group.length = 3

theorem length_flatten_of_triples {groups : List (List Char)}
    (h : ∀ group ∈ groups, group.length = 3) : groups.flatten.length = groups.length * 3 := by
  have hlengths : groups.map List.length = List.replicate groups.length 3 :=
    List.eq_replicate_iff.mpr ⟨List.length_map _, by simpa using h⟩
  rw [List.length_flatten, hlengths, List.sum_replicate_nat]

/-- A digit before digits that fill their groups is a group of its own. -/
theorem IsGrouped.cons_of_full {digits text : List Char} (c : Char) (h : IsGrouped digits text)
    (hfull : digits.length % 3 = 0) : IsGrouped (c :: digits) (c :: ',' :: text) := by
  obtain ⟨first, groups, rfl, rfl, hpos, hle, hgroups⟩ := h
  have hlength := length_flatten_of_triples hgroups
  rw [List.flatten_cons, List.length_append, hlength] at hfull
  have hfirst : first.length = 3 := by omega
  refine ⟨[c], first :: groups, rfl, rfl, le_rfl, Nat.le_add_left 1 2, ?_⟩
  intro group hgroup
  rcases List.mem_cons.mp hgroup with rfl | hlater
  · exact hfirst
  · exact hgroups group hlater

/-- A digit before other digits belongs to their first group. -/
theorem IsGrouped.cons_of_not_full {digits text : List Char} (c : Char) (h : IsGrouped digits text)
    (hroom : ¬ digits.length % 3 = 0) : IsGrouped (c :: digits) (c :: text) := by
  obtain ⟨first, groups, rfl, rfl, hpos, hle, hgroups⟩ := h
  have hlength := length_flatten_of_triples hgroups
  rw [List.flatten_cons, List.length_append, hlength] at hroom
  refine ⟨c :: first, groups, rfl, ?_, Nat.le_add_left 1 _, ?_, hgroups⟩
  · cases groups <;> rfl
  · rw [List.length_cons]
    omega

theorem groupThousands_cons (c : Char) {digits : List Char} (hne : digits ≠ []) :
    groupThousands (c :: digits) =
      if digits.length % 3 = 0 then c :: ',' :: groupThousands digits
      else c :: groupThousands digits := by
  cases digits with
  | nil => contradiction
  | cons d digits => simp [groupThousands]

theorem isGrouped_groupThousands {digits : List Char} (hne : digits ≠ []) :
    IsGrouped digits (groupThousands digits) := by
  induction digits with
  | nil => contradiction
  | cons c digits ih =>
      by_cases hlast : digits = []
      · subst hlast
        exact ⟨[c], [], rfl, rfl, le_rfl, Nat.le_add_left 1 2, by simp⟩
      · rw [groupThousands_cons c hlast]
        by_cases hfull : digits.length % 3 = 0
        · rw [if_pos hfull]
          exact (ih hlast).cons_of_full c hfull
        · rw [if_neg hfull]
          exact (ih hlast).cons_of_not_full c hfull

/-- Without the commas the digits are left. -/
theorem IsGrouped.filter_eq {digits text : List Char} {kept : Char → Bool} (h : IsGrouped digits text)
    (hcomma : kept ',' = false) (hkept : ∀ c ∈ digits, kept c = true) : text.filter kept = digits := by
  obtain ⟨first, groups, rfl, rfl, -⟩ := h
  induction groups generalizing first with
  | nil => simpa using hkept
  | cons group groups ih =>
      have hfirst : first.filter kept = first :=
        List.filter_eq_self.mpr fun c hc => hkept c (List.mem_append_left _ hc)
      have hrest := ih group fun c hc => hkept c (List.mem_append_right _ hc)
      have hwritten : [','].intercalate (first :: group :: groups) =
          first ++ ',' :: [','].intercalate (group :: groups) := rfl
      rw [hwritten, List.filter_append, hfirst, List.filter_cons_of_neg (by simp [hcomma]), hrest]
      rfl

/-! ## Rounding to a place -/

/-- The number is the nearest to `q`, and an even one if another is as near. -/
def IsNearest (q : ℚ) (n : Nat) : Prop :=
  |n - q| ≤ 1 / 2 ∧ (|n - q| = 1 / 2 → n % 2 = 0)

theorem isNearest_divRoundEven (num : Nat) {den : Nat} (hden : 0 < den) :
    IsNearest (num / den) (divRoundEven num den) := by
  have hpos : (0 : ℚ) < den := by exact_mod_cast hden
  -- the ratio is its quotient and a part of one, and all is said of that part
  obtain ⟨part, hpart⟩ : ∃ part : ℚ, part = (num % den : Nat) / den := ⟨_, rfl⟩
  have hratio : (num : ℚ) / den = (num / den : Nat) + part := by
    rw [hpart, div_eq_iff hpos.ne', add_mul, div_mul_cancel₀ _ hpos.ne']
    exact_mod_cast (Nat.div_add_mod' num den).symm
  have hnonneg : 0 ≤ part := hpart ▸ div_nonneg (Nat.cast_nonneg _) hpos.le
  have hlt : part < 1 := by
    rw [hpart, div_lt_one hpos]
    exact_mod_cast Nat.mod_lt num hden
  have hbelow : |((num / den : Nat) : ℚ) - num / den| = part := by
    rw [hratio, sub_add_cancel_left, abs_neg, abs_of_nonneg hnonneg]
  have habove : |((num / den + 1 : Nat) : ℚ) - num / den| = 1 - part := by
    rw [hratio, Nat.cast_add_one, add_sub_add_left_eq_sub, abs_of_pos (sub_pos.mpr hlt)]
  rw [divRoundEven]
  rcases Nat.lt_trichotomy (2 * (num % den)) den with hless | hhalf | hmore
  · have hpartLess : part < 1 / 2 := by
      rw [hpart, div_lt_div_iff₀ hpos two_pos, one_mul]
      exact_mod_cast (Nat.mul_comm _ 2).trans_lt hless
    rw [if_pos (by simp [hless]), IsNearest, hbelow]
    exact ⟨hpartLess.le, fun htie => absurd htie hpartLess.ne⟩
  · have hpartHalf : part = 1 / 2 := by
      rw [hpart, div_eq_div_iff hpos.ne' two_ne_zero, one_mul]
      exact_mod_cast (Nat.mul_comm _ 2).trans hhalf
    by_cases heven : num / den % 2 = 0
    · rw [if_pos (by simp [hhalf, heven]), IsNearest, hbelow]
      exact ⟨hpartHalf.le, fun _ => heven⟩
    · rw [if_neg (by simp [hhalf, heven]), IsNearest, habove]
      exact ⟨by linarith, fun _ => by omega⟩
  · have hpartMore : 1 / 2 < part := by
      rw [hpart, div_lt_div_iff₀ two_pos hpos, one_mul]
      exact_mod_cast hmore.trans_eq (Nat.mul_comm 2 _)
    rw [if_neg (by simp [hmore.le, hmore.ne']), IsNearest, habove]
    exact ⟨by linarith, fun htie => absurd htie (by linarith)⟩

namespace Binary64

/-- The magnitude in units of the last of so many places, rounded. -/
def unitsAt (x : Binary64) (places : Nat) : Nat :=
  divRoundEven (x.ratio.1 * Nat.pow 10 places) x.ratio.2

theorem isNearest_unitsAt (x : Binary64) (places : Nat) :
    IsNearest (x.magnitude * 10 ^ places) (x.unitsAt places) := by
  have hden : 0 < x.ratio.2 := Nat.pow_pos (by decide)
  have hscaled : ((x.ratio.1 * Nat.pow 10 places : Nat) : ℚ) / x.ratio.2 =
      x.magnitude * 10 ^ places := by
    rw [magnitude, ← zpow_eq_div 2 x.exponent, ratio]
    push_cast [Nat.pow_eq]
    ring
  rw [← hscaled]
  exact isNearest_divRoundEven _ hden

/-- The digits of these units, with zeros in front if there would be none before the point. -/
def digitsAt (x : Binary64) (places : Nat) : List Char :=
  List.replicate (places + 1 - (natText (x.unitsAt places)).length) '0' ++ natText (x.unitsAt places)

theorem lt_length_digitsAt (x : Binary64) (places : Nat) : places < (x.digitsAt places).length := by
  rw [digitsAt, List.length_append, List.length_replicate]
  omega

end Binary64

/-! ## Digits with a point -/

/-- The digits after the point behind it; no point if there are none. -/
def pointed (fraction : List Char) : List Char := if fraction = [] then [] else '.' :: fraction

/-- The text of a magnitude with fixed places. There are digits before the point and one for each
place after it, and together they count the units of the last place. -/
structure IsFixedText (x : Binary64) (places : Nat) (whole fraction text : List Char) : Prop where
  text_eq : text = whole ++ pointed fraction
  whole_ne_nil : whole ≠ []
  isDigit : ∀ c ∈ whole ++ fraction, c.isDigit = true
  length_fraction : fraction.length = places
  isNearest : IsNearest (x.magnitude * 10 ^ places) (digitsValue 0 (whole ++ fraction))

theorem exists_isFixedText (x : Binary64) (places : Nat) :
    ∃ whole fraction, IsFixedText x places whole fraction (x.fixedText places) := by
  have hlength := x.lt_length_digitsAt places
  refine ⟨(x.digitsAt places).take ((x.digitsAt places).length - places),
    (x.digitsAt places).drop ((x.digitsAt places).length - places), ?_, ?_, ?_, ?_, ?_⟩
  · have htext : x.fixedText places =
        if places = 0 then x.digitsAt places
        else (x.digitsAt places).take ((x.digitsAt places).length - places) ++
          '.' :: (x.digitsAt places).drop ((x.digitsAt places).length - places) := rfl
    rw [htext, pointed]
    by_cases hnone : places = 0
    · simp [hnone]
    · rw [if_neg hnone, if_neg]
      rw [List.drop_eq_nil_iff]
      omega
  · rw [Ne, List.take_eq_nil_iff]
    rintro (hzero | hnil)
    · omega
    · rw [hnil, List.length_nil] at hlength
      contradiction
  · rw [List.take_append_drop]
    intro c hc
    exact isDigit_of_mem_filled hc
  · rw [List.length_drop]
    omega
  · rw [List.take_append_drop, Binary64.digitsAt, digitsValue_filled]
    exact x.isNearest_unitsAt places

/-! ## The sign -/

theorem IsNearest.eq_zero {n : Nat} (h : IsNearest 0 n) : n = 0 := by
  have hle : (n : ℚ) ≤ 1 / 2 := by simpa using h.1
  by_contra hne
  have hone : (1 : ℚ) ≤ n := by exact_mod_cast Nat.one_le_iff_ne_zero.mpr hne
  linarith

/-- A value is below zero if it has a minus and is not zero. -/
theorem Binary64.units_neg_iff (x : Binary64) :
    x.units < 0 ↔ x.negative = true ∧ x.isZero = false := by
  have hscale : 0 < Nat.pow 2 (x.exponent + 1074).toNat := Nat.pow_pos (by decide)
  have hunits : x.units = if x.negative then
      -((x.significand * Nat.pow 2 (x.exponent + 1074).toNat : Nat) : Int)
    else (x.significand * Nat.pow 2 (x.exponent + 1074).toNat : Nat) := by
    rw [units, Nat.cast_mul]
  rw [hunits, isZero, beq_eq_false_iff_ne]
  cases x.negative with
  | false => simp
  | true =>
      rw [if_pos rfl, Int.neg_lt_zero_iff, Int.natCast_pos, Nat.mul_pos_iff_of_pos_right hscale,
        Nat.pos_iff_ne_zero, eq_self, true_and]

/-- Whether a character is part of a magnitude, and neither its sign nor between its groups. -/
def isOfMagnitude (c : Char) : Bool := c != '-' && c != ','

theorem isOfMagnitude_of_isDigit_or_point {c : Char} (h : c.isDigit = true ∨ c = '.') :
    isOfMagnitude c = true := by
  rw [isOfMagnitude, Bool.and_eq_true, bne_iff_ne, bne_iff_ne]
  constructor <;>
  · rintro rfl
    revert h
    decide

namespace IsFixedText

variable {x : Binary64} {places : Nat} {whole fraction text : List Char}

theorem mem_text (h : IsFixedText x places whole fraction text) {c : Char} (hc : c ∈ text) :
    c ∈ whole ++ fraction ∨ c = '.' := by
  rw [h.text_eq, pointed] at hc
  split at hc
  · exact .inl (List.mem_append_left _ (by simpa using hc))
  · rcases List.mem_append.mp hc with hwhole | hrest
    · exact .inl (List.mem_append_left _ hwhole)
    · rcases List.mem_cons.mp hrest with rfl | hfraction
      · exact .inr rfl
      · exact .inl (List.mem_append_right _ hfraction)

theorem isDigit_or_point (h : IsFixedText x places whole fraction text) {c : Char} (hc : c ∈ text) :
    c.isDigit = true ∨ c = '.' :=
  (h.mem_text hc).imp_left (h.isDigit c)

/-- The point is where the digits that are grouped end. -/
theorem cut_at_point (h : IsFixedText x places whole fraction text) :
    text.takeWhile (· != '.') = whole ∧ text.dropWhile (· != '.') = pointed fraction := by
  rw [h.text_eq]
  apply takeWhile_append_of_stop
  · intro c hc
    have hdigit := h.isDigit c (List.mem_append_left _ hc)
    rw [bne_iff_ne]
    rintro rfl
    contradiction
  · rw [pointed]
    split <;> simp

/-- The text of zero has no other digit. -/
theorem eq_zero_of_isZero (h : IsFixedText x places whole fraction text) (hzero : x.isZero = true)
    {c : Char} (hc : c ∈ text) : c = '0' ∨ c = '.' := by
  have hmagnitude : x.magnitude * 10 ^ places = 0 := by
    rw [Binary64.magnitude, beq_iff_eq.mp hzero]
    simp
  have hnearest := h.isNearest
  rw [hmagnitude] at hnearest
  exact (h.mem_text hc).imp_left (eq_zero_of_digitsValue_eq_zero h.isDigit hnearest.eq_zero c)

/-- The condition for the minus. It asks for the sign of the value, which zero has too, but the digits
of zero keep the minus away. -/
theorem minus_iff (h : IsFixedText x places whole fraction text) :
    (x.negative && !text.all fun c => c == '0' || c == '.') = true ↔
      x.units < 0 ∧ ∃ c ∈ text, c.isDigit = true ∧ c ≠ '0' := by
  have hsome : (!text.all fun c => c == '0' || c == '.') = true ↔
      ∃ c ∈ text, c.isDigit = true ∧ c ≠ '0' := by
    rw [Bool.not_eq_true', List.all_eq_false]
    refine exists_congr fun c => and_congr_right fun hc => ?_
    simp only [Bool.or_eq_true, beq_iff_eq, not_or]
    constructor
    · rintro ⟨hne, hpoint⟩
      exact ⟨(h.isDigit_or_point hc).resolve_right hpoint, hne⟩
    · rintro ⟨hdigit, hne⟩
      exact ⟨hne, by rintro rfl; contradiction⟩
  rw [Bool.and_eq_true, hsome, x.units_neg_iff]
  constructor
  · rintro ⟨hnegative, c, hc, hdigit, hne⟩
    refine ⟨⟨hnegative, Bool.eq_false_iff.mpr fun hzero => ?_⟩, c, hc, hdigit, hne⟩
    rcases h.eq_zero_of_isZero hzero hc with rfl | rfl <;> contradiction
  · rintro ⟨⟨hnegative, -⟩, hdigit⟩
    exact ⟨hnegative, hdigit⟩

/-- The grouped text in its parts. -/
theorem groupedText_eq (h : IsFixedText x places whole fraction (x.fixedText places)) :
    (Extended64.finite x).groupedText places =
      Binary64.signText (x.negative && !(x.fixedText places).all fun c => c == '0' || c == '.') ++
        groupThousands whole ++ pointed fraction := by
  obtain ⟨hwhole, hrest⟩ := h.cut_at_point
  rw [← hwhole, ← hrest]
  rfl

/-- Without the minus and the commas the magnitude is left. -/
theorem filter_groupedText (h : IsFixedText x places whole fraction (x.fixedText places)) :
    ((Extended64.finite x).groupedText places).filter isOfMagnitude = x.fixedText places := by
  have hsign (negative : Bool) : (Binary64.signText negative).filter isOfMagnitude = [] := by
    cases negative <;> rfl
  have hkept : ∀ c ∈ whole ++ pointed fraction, isOfMagnitude c = true := by
    rw [← h.text_eq]
    intro c hc
    exact isOfMagnitude_of_isDigit_or_point (h.isDigit_or_point hc)
  have hwhole : (groupThousands whole).filter isOfMagnitude = whole :=
    (isGrouped_groupThousands h.whole_ne_nil).filter_eq rfl fun c hc =>
      hkept c (List.mem_append_left _ hc)
  have hrest : (pointed fraction).filter isOfMagnitude = pointed fraction :=
    List.filter_eq_self.mpr fun c hc => hkept c (List.mem_append_right _ hc)
  rw [h.groupedText_eq, List.filter_append, List.filter_append, hsign, hwhole, hrest,
    List.nil_append, ← h.text_eq]

end IsFixedText

/-- A finite value with fixed places and grouped thousands is written as its magnitude, with the digits
before the point in groups of three, behind a minus if the value is below zero and a digit other than
zero is written. Without the commas and the minus the text of the magnitude is left. -/
theorem groupedText_exact (x : Binary64) (places : Nat) :
    ∃ whole fraction grouped negative,
      IsFixedText x places whole fraction (x.fixedText places) ∧
      IsGrouped whole grouped ∧
      (Extended64.finite x).groupedText places =
        Binary64.signText negative ++ grouped ++ pointed fraction ∧
      ((Extended64.finite x).groupedText places).filter isOfMagnitude = x.fixedText places ∧
      (negative = true ↔ x.units < 0 ∧ ∃ c ∈ x.fixedText places, c.isDigit = true ∧ c ≠ '0') := by
  obtain ⟨whole, fraction, hfixed⟩ := exists_isFixedText x places
  have hgrouped := isGrouped_groupThousands hfixed.whole_ne_nil
  exact ⟨whole, fraction, groupThousands whole, _, hfixed, hgrouped, hfixed.groupedText_eq,
    hfixed.filter_groupedText, hfixed.minus_iff⟩

/-- Whether there is a sign goes by the digits that are written. -/
example :
    ((Extended64.ofText? "-1234567.891".toList).map fun x => String.ofList (x.groupedText 2)) =
        some "-1,234,567.89" ∧
      ((Extended64.ofText? "-0.001".toList).map fun x => String.ofList (x.groupedText 2)) =
        some "0.00" := by
  decide +kernel

end DynamicContent.Number
