/-
# The shortest digits tell the value

Around each binary value there is an interval of the decimals that are nearer to it than to any
other, with the ends going to the value that has an even significand. The shortest digits of a value
are taken from its interval. Two things follow from the spacing of the values. Seventeen digits are
always enough, since the grid of decimals of that length is finer than any interval is wide. And the
intervals of two values have nothing in common, so the digits tell the value.

Magnitudes, ends of intervals and decimals are compared as rational numbers.
-/

import DynamicContent.Number.Decimal
import DynamicContent.Proofs.Number.Integer
import Mathlib.Algebra.Order.Field.Power
import Mathlib.Data.Nat.Cast.Order.Field
import Mathlib.Data.Rat.Cast.Order
import Mathlib.Tactic.FieldSimp
import Mathlib.Tactic.Linarith
import Mathlib.Tactic.NormNum
import Mathlib.Tactic.Positivity
import Mathlib.Tactic.Ring

namespace DynamicContent.Number

/-- The number `digits * 10 ^ exponent`. -/
def decimal (digits : Nat) (exponent : Int) : ℚ := digits * 10 ^ exponent

/-- A power is the quotient of two natural powers, of which one is of zero. -/
theorem zpow_eq_div (b : ℚ) (e : Int) : b ^ e.toNat / b ^ (-e).toNat = b ^ e := by
  rcases Int.le_total 0 e with hpos | hneg
  · obtain ⟨n, rfl⟩ := Int.eq_ofNat_of_zero_le hpos
    simp
  · obtain ⟨n, hn⟩ := Int.eq_ofNat_of_zero_le (Int.neg_nonneg_of_nonpos hneg)
    obtain rfl : e = -(n : Int) := by omega
    simp

/-- A decimal as a ratio of natural numbers. -/
theorem decimal_eq_ratio (d : Nat) (e : Int) :
    decimal d e = (d * Nat.pow 10 e.toNat : Nat) / (Nat.pow 10 (-e).toNat : Nat) := by
  rw [decimal, ← zpow_eq_div 10 e, ← mul_div_assoc]
  push_cast [Nat.pow_eq]
  rfl

/-- Ratios are compared with decimals as products of natural numbers. -/
theorem ratio_le_decimal {a den d : Nat} {e : Int} (hden : 0 < den) :
    (a : ℚ) / den ≤ decimal d e ↔
      a * Nat.pow 10 (-e).toNat ≤ d * (den * Nat.pow 10 e.toNat) := by
  have hten : 0 < Nat.pow 10 (-e).toNat := Nat.pow_pos (by decide)
  rw [decimal_eq_ratio, div_le_div_iff₀ (Nat.cast_pos.mpr hden) (Nat.cast_pos.mpr hten),
    Nat.mul_comm den, ← Nat.mul_assoc]
  exact_mod_cast Iff.rfl

theorem decimal_le_ratio {a den d : Nat} {e : Int} (hden : 0 < den) :
    decimal d e ≤ (a : ℚ) / den ↔
      d * (den * Nat.pow 10 e.toNat) ≤ a * Nat.pow 10 (-e).toNat := by
  have hten : 0 < Nat.pow 10 (-e).toNat := Nat.pow_pos (by decide)
  rw [decimal_eq_ratio, div_le_div_iff₀ (Nat.cast_pos.mpr hten) (Nat.cast_pos.mpr hden),
    Nat.mul_comm den, ← Nat.mul_assoc]
  exact_mod_cast Iff.rfl

theorem ratio_lt_decimal {a den d : Nat} {e : Int} (hden : 0 < den) :
    (a : ℚ) / den < decimal d e ↔
      a * Nat.pow 10 (-e).toNat < d * (den * Nat.pow 10 e.toNat) := by
  rw [← not_le, decimal_le_ratio hden, not_le]

theorem decimal_lt_ratio {a den d : Nat} {e : Int} (hden : 0 < den) :
    decimal d e < (a : ℚ) / den ↔
      d * (den * Nat.pow 10 e.toNat) < a * Nat.pow 10 (-e).toNat := by
  rw [← not_le, ratio_le_decimal hden, not_le]

namespace Binary64

/-- Four times the distance from a value to the lower end of its interval, in units of its last
place. Below a power of two the values are closer to each other. -/
def quartersBelow (x : Binary64) : Nat := if x.significand = leastFull && x.exponent > -1074 then 1 else 2

/-- The magnitude of a value. -/
def magnitude (x : Binary64) : ℚ := x.significand * 2 ^ x.exponent

/-- The lower end of the interval of a value. -/
def lowerEnd (x : Binary64) : ℚ := (x.significand - x.quartersBelow / 4) * 2 ^ x.exponent

/-- The upper end of the interval of a value. -/
def upperEnd (x : Binary64) : ℚ := (x.significand + 1 / 2) * 2 ^ x.exponent

/-- The numbers in the interval of a value, with the ends if the significand is even. -/
def Covers (x : Binary64) (q : ℚ) : Prop :=
  (x.lowerEnd < q ∨ x.significand % 2 = 0 ∧ x.lowerEnd = q) ∧
    (q < x.upperEnd ∨ x.significand % 2 = 0 ∧ q = x.upperEnd)

variable {x y : Binary64}

theorem quartersBelow_cases (x : Binary64) :
    x.quartersBelow = 1 ∧ x.significand = leastFull ∧ -1074 < x.exponent ∨
      x.quartersBelow = 2 := by
  rw [quartersBelow]
  by_cases hleast : x.significand = leastFull ∧ -1074 < x.exponent
  · left
    simp [hleast.1, hleast.2]
  · right
    rw [if_neg]
    simpa using hleast

theorem two_zpow_pos (e : Int) : (0 : ℚ) < 2 ^ e := zpow_pos (by norm_num) e

theorem significand_pos (hzero : x.isZero = false) : 1 ≤ x.significand :=
  Nat.one_le_iff_ne_zero.mpr (by simpa [isZero] using hzero)

theorem lowerEnd_lt_magnitude (x : Binary64) : x.lowerEnd < x.magnitude := by
  refine mul_lt_mul_of_pos_right ?_ (two_zpow_pos _)
  rcases x.quartersBelow_cases with ⟨hone, -⟩ | htwo
  · rw [hone]
    norm_num
  · rw [htwo]
    norm_num

theorem magnitude_lt_upperEnd (x : Binary64) : x.magnitude < x.upperEnd :=
  mul_lt_mul_of_pos_right (by norm_num) (two_zpow_pos _)

theorem lowerEnd_pos (hzero : x.isZero = false) : 0 < x.lowerEnd := by
  have hone : (1 : ℚ) ≤ x.significand := by exact_mod_cast significand_pos hzero
  refine mul_pos ?_ (two_zpow_pos _)
  rcases x.quartersBelow_cases with ⟨hquarter, -⟩ | hquarter
  · rw [hquarter]
    norm_num
    linarith
  · rw [hquarter]
    norm_num
    linarith

/-! ## Intervals have nothing in common -/

/-- Of two exponents, the power for the greater one is at least double. -/
theorem double_le_two_zpow {e f : Int} (h : e < f) : 2 * (2 : ℚ) ^ e ≤ 2 ^ f := by
  rw [← zpow_one_add₀ (by norm_num)]
  exact zpow_le_zpow_right₀ (by norm_num) (by omega)

/-- A value with a greater exponent has all its bits. -/
theorem leastFull_le_significand (h : x.exponent < y.exponent) : leastFull ≤ y.significand := by
  obtain ⟨-, hlow, -, -⟩ := x.canonical
  obtain ⟨-, -, -, hfull⟩ := y.canonical
  rcases hfull with hfull | hleast
  · exact hfull
  · omega

/-- Between two values with one exponent the intervals do not overlap, and only one of two
neighbours has the end between them. -/
theorem upperEnd_le_of_significand_lt (hexponent : x.exponent = y.exponent)
    (hsignificand : x.significand < y.significand) :
    x.upperEnd ≤ y.lowerEnd ∧
      (x.upperEnd = y.lowerEnd → ¬ (x.significand % 2 = 0 ∧ y.significand % 2 = 0)) := by
  have hnext : (x.significand : ℚ) + 1 ≤ y.significand := by exact_mod_cast hsignificand
  have hquarters : (y.quartersBelow : ℚ) / 4 ≤ 1 / 2 := by
    rcases y.quartersBelow_cases with ⟨hquarter, -⟩ | hquarter <;>
    · rw [hquarter]
      norm_num
  have hpos := two_zpow_pos y.exponent
  rw [upperEnd, lowerEnd, hexponent]
  refine ⟨mul_le_mul_of_nonneg_right (by linarith) hpos.le, ?_⟩
  rintro hends ⟨hx, hy⟩
  have hsame := mul_right_cancel₀ hpos.ne' hends
  have heq : (x.significand : ℚ) + 1 = y.significand := by linarith
  have : x.significand + 1 = y.significand := by exact_mod_cast heq
  omega

/-- The same for values with different exponents. -/
theorem upperEnd_le_of_exponent_lt (hexponent : x.exponent < y.exponent) :
    x.upperEnd ≤ y.lowerEnd ∧
      (x.upperEnd = y.lowerEnd → ¬ (x.significand % 2 = 0 ∧ y.significand % 2 = 0)) := by
  have hfull := leastFull_le_significand hexponent
  have hbits : x.significand + 1 ≤ 2 * leastFull := x.canonical.1
  have hlow : (x.significand : ℚ) + 1 ≤ 2 * leastFull := by exact_mod_cast hbits
  have hpos := two_zpow_pos x.exponent
  have hdouble := double_le_two_zpow hexponent
  have hupper : x.upperEnd ≤ (2 * leastFull - 1 / 2) * 2 ^ x.exponent :=
    mul_le_mul_of_nonneg_right (by linarith) hpos.le
  have hleast : (0 : ℚ) < leastFull - 1 / 4 := by norm_num [leastFull]
  have hmiddle : (2 * leastFull - 1 / 2) * (2 : ℚ) ^ x.exponent ≤
      (leastFull - 1 / 4) * 2 ^ y.exponent :=
    calc (2 * leastFull - 1 / 2) * (2 : ℚ) ^ x.exponent
        = (leastFull - 1 / 4) * (2 * 2 ^ x.exponent) := by ring
      _ ≤ (leastFull - 1 / 4) * 2 ^ y.exponent := mul_le_mul_of_nonneg_left hdouble hleast.le
  have hlower : (leastFull - 1 / 4) * (2 : ℚ) ^ y.exponent ≤ y.lowerEnd := by
    refine mul_le_mul_of_nonneg_right ?_ (two_zpow_pos _).le
    rcases Nat.eq_or_lt_of_le hfull with heq | hlt
    · have hquarter : y.quartersBelow = 1 := by
        have hlowest := x.canonical.2.1
        rw [quartersBelow, if_pos]
        simp only [gt_iff_lt, Bool.and_eq_true, decide_eq_true_eq]
        exact ⟨heq.symm, by omega⟩
      rw [hquarter, ← heq]
      norm_num
    · have hmore : (leastFull : ℚ) + 1 ≤ y.significand := by exact_mod_cast hlt
      have hquarters : (y.quartersBelow : ℚ) / 4 ≤ 1 / 2 := by
        rcases y.quartersBelow_cases with ⟨hquarter, -⟩ | hquarter <;>
        · rw [hquarter]
          norm_num
      linarith
  refine ⟨hupper.trans (hmiddle.trans hlower), ?_⟩
  -- the ends meet only below a power of two, and the last value below it is odd
  rintro hends ⟨hx, -⟩
  have htop : x.upperEnd = (2 * leastFull - 1 / 2) * 2 ^ x.exponent :=
    le_antisymm hupper (hends ▸ hmiddle.trans hlower)
  have hsame := mul_right_cancel₀ hpos.ne' htop
  have heq : (x.significand : ℚ) + 1 = 2 * leastFull := by linarith
  have : x.significand + 1 = 2 * leastFull := by exact_mod_cast heq
  simp only [leastFull] at this
  omega

/-- Two values whose intervals have a number in common have the same magnitude. -/
theorem eq_of_covers {q : ℚ} (hx : x.Covers q) (hy : y.Covers q) :
    x.significand = y.significand ∧ x.exponent = y.exponent := by
  have hapart {x y : Binary64} (hx : x.Covers q) (hy : y.Covers q)
      (hends : x.upperEnd ≤ y.lowerEnd ∧
        (x.upperEnd = y.lowerEnd → ¬ (x.significand % 2 = 0 ∧ y.significand % 2 = 0))) : False := by
    rcases hx.2 with hlt | ⟨hxeven, hxend⟩
    · rcases hy.1 with hlt' | ⟨-, hyend⟩
      · linarith [hends.1]
      · linarith [hends.1]
    · rcases hy.1 with hlt' | ⟨hyeven, hyend⟩
      · linarith [hends.1]
      · exact hends.2 (hxend.symm.trans hyend.symm) ⟨hxeven, hyeven⟩
  rcases Int.lt_trichotomy x.exponent y.exponent with hlt | heq | hgt
  · exact (hapart hx hy (upperEnd_le_of_exponent_lt hlt)).elim
  · rcases Nat.lt_trichotomy x.significand y.significand with hlt | hsame | hgt
    · exact (hapart hx hy (upperEnd_le_of_significand_lt heq hlt)).elim
    · exact ⟨hsame, heq⟩
    · exact (hapart hy hx (upperEnd_le_of_significand_lt heq.symm hgt)).elim
  · exact (hapart hy hx (upperEnd_le_of_exponent_lt hgt)).elim

/-! ## Digits from the interval -/

/-- The interval as it is computed: its ends and the magnitude over one denominator. -/
theorem readBackInterval_eq (hzero : x.isZero = false) :
    0 < x.readBackInterval.2.2.2 ∧
      (x.readBackInterval.1 : ℚ) / x.readBackInterval.2.2.2 = x.lowerEnd ∧
      (x.readBackInterval.2.1 : ℚ) / x.readBackInterval.2.2.2 = x.magnitude ∧
      (x.readBackInterval.2.2.1 : ℚ) / x.readBackInterval.2.2.2 = x.upperEnd := by
  have hone := significand_pos hzero
  have hquarters : x.quartersBelow ≤ 4 * x.significand := by
    rcases x.quartersBelow_cases with ⟨hquarter, -⟩ | hquarter <;> omega
  have hscale : ((Nat.pow 2 x.exponent.toNat : Nat) : ℚ) / (Nat.pow 2 (-x.exponent).toNat : Nat) =
      2 ^ x.exponent := by
    rw [← zpow_eq_div 2 x.exponent]
    simp only [Nat.pow_eq, Nat.cast_pow, Nat.cast_ofNat]
  have hover (n : Nat) :
      ((n * Nat.pow 2 x.exponent.toNat : Nat) : ℚ) / (4 * Nat.pow 2 (-x.exponent).toNat : Nat) =
        n / 4 * 2 ^ x.exponent := by
    rw [← hscale]
    push_cast
    exact mul_div_mul_comm _ _ _ _
  refine ⟨Nat.mul_pos (by decide) (Nat.pow_pos (by decide)), ?_, ?_, ?_⟩
  · refine (hover _).trans ?_
    rw [← quartersBelow, Nat.cast_sub hquarters, lowerEnd]
    push_cast
    ring
  · refine (hover _).trans ?_
    rw [magnitude]
    push_cast
    ring
  · refine (hover _).trans ?_
    rw [upperEnd]
    push_cast
    ring

/-- The greatest decimal on a grid that is not above the magnitude of a value. -/
theorem floor_le_magnitude (hzero : x.isZero = false) (grid : Int) :
    decimal (x.readBackInterval.2.1 * Nat.pow 10 (-grid).toNat /
        (x.readBackInterval.2.2.2 * Nat.pow 10 grid.toNat)) grid ≤ x.magnitude ∧
      x.magnitude < decimal (x.readBackInterval.2.1 * Nat.pow 10 (-grid).toNat /
        (x.readBackInterval.2.2.2 * Nat.pow 10 grid.toNat) + 1) grid := by
  obtain ⟨hden, -, hvalue, -⟩ := readBackInterval_eq hzero
  rw [← hvalue, decimal_le_ratio hden, ratio_lt_decimal hden]
  refine ⟨Nat.div_mul_le_self _ _, ?_⟩
  exact Nat.lt_mul_of_div_lt (Nat.lt_succ_self _) (Nat.mul_pos hden (Nat.pow_pos (by decide)))

/-- The comparison with the lower end, which is part of the interval of an even significand. -/
theorem lowerEnd_compare_iff (hzero : x.isZero = false) (n : Nat) (grid : Int) :
    (if x.significand % 2 == 0 then
        x.readBackInterval.1 * Nat.pow 10 (-grid).toNat ≤
          n * (x.readBackInterval.2.2.2 * Nat.pow 10 grid.toNat)
      else
        x.readBackInterval.1 * Nat.pow 10 (-grid).toNat <
          n * (x.readBackInterval.2.2.2 * Nat.pow 10 grid.toNat)) ↔
      x.lowerEnd < decimal n grid ∨ x.significand % 2 = 0 ∧ x.lowerEnd = decimal n grid := by
  obtain ⟨hden, hlow, -, -⟩ := readBackInterval_eq hzero
  rw [← ratio_le_decimal hden, ← ratio_lt_decimal hden, hlow]
  split
  · next heven => rw [le_iff_lt_or_eq, and_iff_right (beq_iff_eq.mp heven)]
  · next hodd =>
      rw [beq_iff_eq] at hodd
      exact (or_iff_left fun h => hodd h.1).symm

/-- The comparison with the upper end, which is part of the interval of an even significand. -/
theorem compare_upperEnd_iff (hzero : x.isZero = false) (n : Nat) (grid : Int) :
    (if x.significand % 2 == 0 then
        n * (x.readBackInterval.2.2.2 * Nat.pow 10 grid.toNat) ≤
          x.readBackInterval.2.2.1 * Nat.pow 10 (-grid).toNat
      else
        n * (x.readBackInterval.2.2.2 * Nat.pow 10 grid.toNat) <
          x.readBackInterval.2.2.1 * Nat.pow 10 (-grid).toNat) ↔
      decimal n grid < x.upperEnd ∨ x.significand % 2 = 0 ∧ decimal n grid = x.upperEnd := by
  obtain ⟨hden, -, -, hhigh⟩ := readBackInterval_eq hzero
  rw [← decimal_le_ratio hden, ← decimal_lt_ratio hden, hhigh]
  split
  · next heven => rw [le_iff_lt_or_eq, and_iff_right (beq_iff_eq.mp heven)]
  · next hodd =>
      rw [beq_iff_eq] at hodd
      exact (or_iff_left fun h => hodd h.1).symm

/-- What is taken for the digits of a value on a grid is in its interval. -/
theorem covers_of_digitsOfLength? {k : Int} {places d : Nat} (hzero : x.isZero = false)
    (h : x.digitsOfLength? k places = some d) : x.Covers (decimal d (k - places)) := by
  obtain ⟨hfloor, hceiling⟩ := floor_le_magnitude hzero (k - places)
  have hfloorUpper := hfloor.trans_lt x.magnitude_lt_upperEnd
  have hceilingLower := x.lowerEnd_lt_magnitude.trans hceiling
  have hlower (n : Nat) := (lowerEnd_compare_iff hzero n (k - places)).mp
  have hupper (n : Nat) := (compare_upperEnd_iff hzero n (k - places)).mp
  rw [digitsOfLength?] at h
  dsimp only at h
  split at h
  · next hlowOk hhighOk =>
      split at h
      · obtain rfl := Option.some.inj h
        exact ⟨hlower _ (of_decide_eq_true hlowOk), .inl hfloorUpper⟩
      · obtain rfl := Option.some.inj h
        exact ⟨.inl hceilingLower, hupper _ (of_decide_eq_true hhighOk)⟩
  · next hlowOk hhighOk =>
      obtain rfl := Option.some.inj h
      exact ⟨hlower _ (of_decide_eq_true hlowOk), .inl hfloorUpper⟩
  · next hlowOk hhighOk =>
      obtain rfl := Option.some.inj h
      exact ⟨.inl hceilingLower, hupper _ (of_decide_eq_true hhighOk)⟩
  · contradiction

/-- An interval is wider than a part in `10 ^ 16` of the magnitude. -/
theorem magnitude_lt_width (x : Binary64) :
    x.magnitude * 10 ^ (-16 : Int) < x.upperEnd - x.lowerEnd := by
  have hpos := two_zpow_pos x.exponent
  have hbits : x.significand < 9007199254740992 := x.canonical.1
  have hsmall : (x.significand : ℚ) < 9007199254740992 := by exact_mod_cast hbits
  have hwidth : x.upperEnd - x.lowerEnd = (1 / 2 + x.quartersBelow / 4) * 2 ^ x.exponent := by
    rw [upperEnd, lowerEnd]
    ring
  rw [hwidth, magnitude, mul_right_comm]
  refine mul_lt_mul_of_pos_right ?_ hpos
  rcases x.quartersBelow_cases with ⟨hquarter, hleast, -⟩ | hquarter
  · rw [hquarter, hleast]
    norm_num [leastFull]
  · rw [hquarter]
    norm_num
    linarith

/-- On a grid that is finer than the interval there are digits. -/
theorem exists_digitsOfLength? {k : Int} {places : Nat} (hzero : x.isZero = false)
    (hgrid : (10 : ℚ) ^ (k - places) < x.upperEnd - x.lowerEnd) :
    ∃ d, x.digitsOfLength? k places = some d := by
  cases hdigits : x.digitsOfLength? k places with
  | some d => exact ⟨d, rfl⟩
  | none =>
      exfalso
      rw [digitsOfLength?] at hdigits
      dsimp only at hdigits
      generalize k - (places : Int) = grid at hgrid hdigits
      split at hdigits
      · split at hdigits <;> contradiction
      · contradiction
      · contradiction
      · next hlowOk hhighOk =>
          have hbelow := of_decide_eq_false hlowOk
          have habove := of_decide_eq_false hhighOk
          rw [lowerEnd_compare_iff hzero, not_or, not_lt] at hbelow
          rw [compare_upperEnd_iff hzero, not_or, not_lt] at habove
          have hfloor := hbelow.1
          have hceiling := habove.1
          rw [decimal] at hfloor hceiling
          push_cast at hceiling
          linarith

/-- Seventeen digits are enough. -/
theorem zpow_lt_width {k : Int} (hk : (10 : ℚ) ^ (k - 1) ≤ x.magnitude) :
    (10 : ℚ) ^ (k - (17 : Nat)) < x.upperEnd - x.lowerEnd := by
  have hsplit : (10 : ℚ) ^ (k - (17 : Nat)) = 10 ^ (k - 1) * 10 ^ (-16 : Int) := by
    rw [← zpow_add₀ (by norm_num)]
    congr 1
    push_cast
    ring
  rw [hsplit]
  exact (mul_le_mul_of_nonneg_right hk (by positivity)).trans_lt x.magnitude_lt_width

/-- A number is at least the least one with as many digits. -/
theorem pow_length_le {n : Nat} (hn : 1 ≤ n) : 10 ^ ((natText n).length - 1) ≤ n := by
  by_cases hlength : (natText n).length ≤ 1
  · rw [Nat.sub_eq_zero_of_le hlength]
    exact hn
  · have hmore : ¬ (Nat.toDigits 10 n).length ≤ (natText n).length - 1 := by
      rw [natText] at *
      omega
    rw [Nat.length_toDigits_le_iff (by decide) (by omega)] at hmore
    exact Nat.le_of_not_lt hmore

theorem zpow_decimalMagnitude_le {num den : Nat} (hden : 0 < den)
    (hsize : den ≤ num * Nat.pow 10 340) :
    (10 : ℚ) ^ (decimalMagnitude num den - 1) ≤ num / den := by
  have hquotient : 1 ≤ num * Nat.pow 10 340 / den := (Nat.one_le_div_iff hden).mpr hsize
  have hlength : ((10 ^ ((natText (num * Nat.pow 10 340 / den)).length - 1) : Nat) : ℚ) ≤
      (num * Nat.pow 10 340 / den : Nat) := Nat.cast_le.mpr (pow_length_le hquotient)
  have hpositive : 0 < (natText (num * Nat.pow 10 340 / den)).length :=
    List.length_pos_iff.mpr (natText_ne_nil _)
  have hexponent : decimalMagnitude num den - 1 =
      ((natText (num * Nat.pow 10 340 / den)).length - 1 : Nat) - (340 : Nat) := by
    rw [decimalMagnitude]
    omega
  have hten : (0 : ℚ) < 10 ^ 340 := by positivity
  rw [hexponent, zpow_sub₀ (by norm_num), zpow_natCast, zpow_natCast, div_le_iff₀ hten]
  calc (10 : ℚ) ^ ((natText (num * Nat.pow 10 340 / den)).length - 1)
      ≤ (num * Nat.pow 10 340 / den : Nat) := by exact_mod_cast hlength
    _ ≤ (num * Nat.pow 10 340 : Nat) / den := Nat.cast_div_le
    _ = num / den * 10 ^ 340 := by
      rw [Nat.cast_mul, Nat.pow_eq, Nat.cast_pow, Nat.cast_ofNat, mul_div_right_comm]

/-- Ten decimal places are more than thirty-three binary ones. -/
theorem pow_two_le_pow_ten (n : Nat) : 2 ^ (33 * n) ≤ 10 ^ (10 * n) := by
  rw [Nat.pow_mul, Nat.pow_mul]
  exact Nat.pow_le_pow_left (by norm_num) n

/-- No value is so small that the count of its digits begins later. -/
theorem zpow_le_magnitude (hzero : x.isZero = false) :
    (10 : ℚ) ^ (decimalMagnitude x.readBackInterval.2.1 x.readBackInterval.2.2.2 - 1) ≤
      x.magnitude := by
  obtain ⟨hden, -, hvalue, -⟩ := readBackInterval_eq hzero
  rw [← hvalue]
  refine zpow_decimalMagnitude_le hden ?_
  have hleast : (-x.exponent).toNat ≤ 1074 := by
    have := x.canonical.2.1
    omega
  have hscale : 1 ≤ x.significand * Nat.pow 2 x.exponent.toNat :=
    Nat.mul_pos (significand_pos hzero) (Nat.pow_pos (by decide))
  have hsmall : Nat.pow 2 (-x.exponent).toNat ≤ Nat.pow 10 340 :=
    (Nat.pow_le_pow_right (by decide) (by omega)).trans (pow_two_le_pow_ten 34)
  calc 4 * Nat.pow 2 (-x.exponent).toNat
      ≤ 4 * Nat.pow 10 340 := Nat.mul_le_mul_left 4 hsmall
    _ ≤ 4 * (x.significand * Nat.pow 2 x.exponent.toNat) * Nat.pow 10 340 :=
      Nat.mul_le_mul_right _ (Nat.le_mul_of_pos_right 4 hscale)
    _ = 4 * x.significand * Nat.pow 2 x.exponent.toNat * Nat.pow 10 340 := by
      rw [Nat.mul_assoc 4 x.significand]

/-- The digits of a value that are found first are in its interval. -/
theorem exists_shortestDigits_eq (hzero : x.isZero = false) :
    ∃ (d places : Nat) (k : Int), x.Covers (decimal d (k - places)) ∧
      x.shortestDigits = (((natText d).reverse.dropWhile (· == '0')).reverse,
        k + (((natText d).length : Int) - places)) := by
  have hmagnitude := zpow_le_magnitude hzero
  obtain ⟨last, hlast⟩ := exists_digitsOfLength? hzero (zpow_lt_width hmagnitude)
  generalize hk : decimalMagnitude x.readBackInterval.2.1 x.readBackInterval.2.2.2 = k at hlast
  rw [shortestDigits]
  dsimp only
  rw [hk]
  cases hfound : (List.range 17).findSome? fun i =>
      (x.digitsOfLength? k (i + 1)).map (·, i + 1) with
  | none =>
      have hnone := List.findSome?_eq_none_iff.mp hfound 16 (by decide)
      rw [hlast] at hnone
      contradiction
  | some found =>
      obtain ⟨d, places⟩ := found
      obtain ⟨i, -, hi⟩ := List.exists_of_findSome?_eq_some hfound
      obtain ⟨d', hd', hpair⟩ := Option.map_eq_some_iff.mp hi
      obtain ⟨rfl, rfl⟩ := Prod.mk.inj hpair
      exact ⟨d', i + 1, k, covers_of_digitsOfLength? hzero hd', rfl⟩

end Binary64

/-! ## Zeros at the end -/

/-- Zeros at the end only count by their place. -/
theorem decimal_strip (cs : List Char) (e : Int) :
    decimal (digitsValue 0 (cs.reverse.dropWhile (· == '0')).reverse)
        (e + (cs.length - (cs.reverse.dropWhile (· == '0')).length)) =
      decimal (digitsValue 0 cs) e := by
  obtain ⟨n, hsplit⟩ := exists_strip_append_zeros cs
  have hlength := congrArg List.length hsplit
  rw [List.length_append, List.length_reverse, List.length_replicate] at hlength
  have hvalue := congrArg (digitsValue 0) hsplit
  rw [digitsValue_append, digitsValue_zeros] at hvalue
  have hexponent : (cs.length : Int) - (cs.reverse.dropWhile (· == '0')).length = n := by
    omega
  rw [decimal, decimal, hvalue, hexponent, zpow_add₀ (by norm_num), zpow_natCast]
  push_cast
  ring

namespace Binary64

variable {x : Binary64}

theorem pos_of_covers {q : ℚ} (hzero : x.isZero = false) (h : x.Covers q) : 0 < q := by
  rcases h.1 with hlt | ⟨-, heq⟩
  · exact (lowerEnd_pos hzero).trans hlt
  · exact heq ▸ lowerEnd_pos hzero

/-- The shortest digits of a value denote a number in its interval. -/
theorem covers_shortestDigits (hzero : x.isZero = false) :
    x.Covers (decimal (digitsValue 0 x.shortestDigits.1)
      (x.shortestDigits.2 - x.shortestDigits.1.length)) := by
  obtain ⟨d, places, k, hcovers, hdigits⟩ := exists_shortestDigits_eq hzero
  rw [hdigits]
  dsimp only
  have hstrip := decimal_strip (natText d) (k - places)
  rw [digitsValue_natText] at hstrip
  rw [← hstrip] at hcovers
  rw [List.length_reverse]
  convert hcovers using 2
  ring

theorem isDigit_of_mem_shortestDigits (hzero : x.isZero = false) {c : Char}
    (hc : c ∈ x.shortestDigits.1) : c.isDigit = true := by
  obtain ⟨d, places, k, -, hdigits⟩ := exists_shortestDigits_eq hzero
  rw [hdigits, List.mem_reverse] at hc
  have hmem := (List.dropWhile_sublist _).subset hc
  exact isDigit_of_mem_natText (List.mem_reverse.mp hmem)

theorem shortestDigits_ne_nil (hzero : x.isZero = false) : x.shortestDigits.1 ≠ [] := by
  intro hnil
  have hpos := pos_of_covers hzero (covers_shortestDigits hzero)
  rw [hnil, decimal] at hpos
  simp [digitsValue] at hpos

end Binary64

end DynamicContent.Number
