/-
# Labels read back from their code

The code of a label is read to the label. A number is read back digit by digit. The code points that are
not in ASCII are written in ascending order, and those of one code point in the order of their places; so
while one of them is scanned for, what has been read so far is the label without the greater code points,
and without those of the code point itself that are still to come. What is written before each of them is
how far it is from the one before, counted in places and code points at once.
-/

import DynamicContent.Url.Punycode
import Mathlib.Data.List.Basic
import Mathlib.Tactic.Ring

namespace DynamicContent.Url.Punycode

variable {bias k q : Nat} {c : Char} {label rest : List Char}

/-! ## Numbers -/

theorem digitValue?_digit {n : Nat} (h : n < 36) : digitValue? (digit n) = some n := by
  have hall : ∀ n < 36, digitValue? (digit n) = some n := by decide
  exact hall n h

theorem threshold_bounds (k bias : Nat) : 1 ≤ threshold k bias ∧ threshold k bias ≤ 26 := by
  unfold threshold
  split_ifs <;> omega

/-- A digit below the threshold ends a number. -/
theorem decodeNumber?_digit {d : Nat} (hd : d < 36) (k weight value : Nat) (rest : List Char) :
    decodeNumber? bias k weight value (digit d :: rest) =
      if d < threshold k bias then some (value + d * weight, rest)
      else decodeNumber? bias (k + 36) (weight * (36 - threshold k bias)) (value + d * weight) rest := by
  rw [decodeNumber?, digitValue?_digit hd]
  rfl

/-- A number is read back, whatever follows it. -/
theorem decodeNumber?_encodeNumber (bias : Nat) {bound q : Nat} (h : q < bound)
    (k weight value : Nat) (rest : List Char) :
    decodeNumber? bias k weight value (encodeNumber bias bound k q ++ rest) =
      some (value + q * weight, rest) := by
  induction bound generalizing k q weight value with
  | zero => omega
  | succ bound ih =>
      obtain ⟨hlow, hhigh⟩ := threshold_bounds k bias
      rw [encodeNumber]
      split
      · next hlast =>
          rw [List.singleton_append, decodeNumber?_digit (by omega), if_pos hlast]
      · next hmore =>
          have hmod : (q - threshold k bias) % (36 - threshold k bias) < 36 - threshold k bias :=
            Nat.mod_lt _ (by omega)
          have hsmaller : (q - threshold k bias) / (36 - threshold k bias) < bound :=
            Nat.lt_of_le_of_lt (Nat.div_le_self _ _) (by omega)
          have hsum := Nat.mod_add_div (q - threshold k bias) (36 - threshold k bias)
          rw [List.cons_append, decodeNumber?_digit (by omega), if_neg (by omega), ih hsmaller]
          congr 2
          calc value + (threshold k bias + (q - threshold k bias) % (36 - threshold k bias)) * weight
                + (q - threshold k bias) / (36 - threshold k bias)
                  * (weight * (36 - threshold k bias))
              = value + (threshold k bias + ((q - threshold k bias) % (36 - threshold k bias)
                  + (36 - threshold k bias)
                    * ((q - threshold k bias) / (36 - threshold k bias)))) * weight := by ring
            _ = value + q * weight := by rw [hsum, Nat.add_sub_cancel' (by omega)]

/-- The digits are small letters and digits. -/
theorem mem_encodeNumber {bound k q : Nat} (h : c ∈ encodeNumber bias bound k q) :
    ∃ n < 36, c = digit n := by
  induction bound generalizing k q with
  | zero => exact absurd h List.not_mem_nil
  | succ bound ih =>
      obtain ⟨hlow, hhigh⟩ := threshold_bounds k bias
      rw [encodeNumber] at h
      split at h
      · next hlast => exact ⟨q, by omega, List.mem_singleton.mp h⟩
      · rcases List.mem_cons.mp h with hc | hmore
        · have hmod : (q - threshold k bias) % (36 - threshold k bias) < 36 - threshold k bias :=
            Nat.mod_lt _ (by omega)
          exact ⟨_, by omega, hc⟩
        · exact ih hmore

theorem encodeNumber_ne_nil {bound : Nat} (bias k : Nat) (h : q < bound) :
    encodeNumber bias bound k q ≠ [] := by
  cases bound with
  | zero => omega
  | succ bound =>
      rw [encodeNumber]
      split <;> exact List.cons_ne_nil _ _

/-! ## One code point -/

/-- A label as far as it has been read while a code point is scanned for: the greater code points are
not there yet, and of those that are the code point itself only the ones already passed. -/
def readSoFar (point : Nat) (passed ahead : List Char) : List Char :=
  passed.filter (·.toNat ≤ point) ++ ahead.filter (·.toNat < point)

/-- The place in what has been read at which the scan is. -/
def placeOf (point : Nat) (passed : List Char) : Nat := (passed.filter (·.toNat ≤ point)).length

theorem readSoFar_cons_of_lt {point : Nat} (h : c.toNat < point) (passed ahead : List Char) :
    readSoFar point passed (c :: ahead) = readSoFar point (passed ++ [c]) ahead ∧
      placeOf point (passed ++ [c]) = placeOf point passed + 1 := by
  simp [readSoFar, placeOf, h, h.le]

theorem readSoFar_cons_of_eq {point : Nat} (h : c.toNat = point) (passed ahead : List Char) :
    readSoFar point (passed ++ [c]) ahead =
        (readSoFar point passed (c :: ahead)).take (placeOf point passed) ++
          c :: (readSoFar point passed (c :: ahead)).drop (placeOf point passed) ∧
      placeOf point (passed ++ [c]) = placeOf point passed + 1 := by
  simp [readSoFar, placeOf, h]

theorem readSoFar_cons_of_gt {point : Nat} (h : point < c.toNat) (passed ahead : List Char) :
    readSoFar point passed (c :: ahead) = readSoFar point (passed ++ [c]) ahead ∧
      placeOf point (passed ++ [c]) = placeOf point passed := by
  simp [readSoFar, placeOf, h.le, Nat.not_le.mpr h]

theorem placeOf_le (point : Nat) (passed ahead : List Char) :
    placeOf point passed ≤ (readSoFar point passed ahead).length := by
  rw [readSoFar, List.length_append]
  exact Nat.le_add_right _ _

/-- How what is written and what has been read hang together in the middle of a scan: all that has been
read is counted as written, and what has been collected is the way from the place behind the last
character that was read to the place of the scan. -/
structure InStep (basic : Nat) (s : State) (point : Nat) (passed ahead : List Char) (first : Bool)
    (last place : Nat) : Prop where
  basic_le : basic ≤ s.written
  written : s.written = (readSoFar point passed ahead).length
  first_iff : first = (s.written == basic)
  last_le : last ≤ point
  way : place + s.delta = (point - last) * (s.written + 1) + placeOf point passed

/-- The state behind the code of a character. -/
def State.afterCode (basic : Nat) (s : State) : State :=
  { s with delta := 0, bias := adapt s.delta (s.written + 1) (s.written == basic),
           written := s.written + 1 }

/-- What the scan makes of a character: one below the code point is counted, the code point is written,
and what is above it is passed over. -/
theorem encodePoint_cons_of_lt {point : Nat} (h : c.toNat < point) (basic : Nat) (s : State)
    (ahead : List Char) : encodePoint basic point s (c :: ahead) =
      encodePoint basic point { s with delta := s.delta + 1 } ahead := by
  rw [encodePoint, if_pos h]

theorem encodePoint_cons_of_eq (basic : Nat) (s : State) (ahead : List Char) :
    encodePoint basic c.toNat s (c :: ahead) =
      (encodeNumber s.bias (s.delta + 1) 36 s.delta ++
          (encodePoint basic c.toNat (s.afterCode basic) ahead).1,
        (encodePoint basic c.toNat (s.afterCode basic) ahead).2) := by
  rw [encodePoint, if_neg (Nat.lt_irrefl _), if_pos (beq_self_eq_true _)]
  rfl

theorem encodePoint_cons_of_gt {point : Nat} (h : point < c.toNat) (basic : Nat) (s : State)
    (ahead : List Char) :
    encodePoint basic point s (c :: ahead) = encodePoint basic point s ahead := by
  rw [encodePoint, if_neg (Nat.lt_asymm h), if_neg (by simp [h.ne'])]

theorem InStep.afterCode {basic point : Nat} {s : State} {passed ahead : List Char} {first : Bool}
    {last place : Nat} (h : InStep basic s point passed (c :: ahead) first last place)
    (hc : c.toNat = point) :
    InStep basic (s.afterCode basic) point (passed ++ [c]) ahead false point
      (placeOf point passed + 1) := by
  obtain ⟨hread, hplace⟩ := readSoFar_cons_of_eq hc passed ahead
  have hbasic := h.basic_le
  refine ⟨Nat.le_succ_of_le hbasic, ?_, ?_, le_refl point, ?_⟩
  · have hle := placeOf_le point passed (c :: ahead)
    rw [hread, List.length_append, List.length_cons, List.length_take, List.length_drop,
      Nat.min_eq_left hle, State.afterCode]
    dsimp only
    rw [h.written]
    omega
  · have hne : s.written + 1 ≠ basic := by omega
    exact (beq_eq_false_iff_ne.mpr hne).symm
  · rw [hplace, Nat.sub_self, Nat.zero_mul, Nat.zero_add]
    rfl

/-- The code of a character is read: the character is put into its place. -/
theorem decodeFrom?_encodeNumber {first : Bool} {last place bias delta fuel i : Nat}
    (hway : place + delta = (c.toNat - last) * (label.length + 1) + i) (hi : i ≤ label.length)
    (hlast : last ≤ c.toNat) (rest : List Char) :
    decodeFrom? (fuel + 1) first last place bias label
        (encodeNumber bias (delta + 1) 36 delta ++ rest) =
      decodeFrom? fuel false c.toNat (i + 1) (adapt delta (label.length + 1) first)
        (label.take i ++ c :: label.drop i) rest := by
  have hnumber := decodeNumber?_encodeNumber bias (Nat.lt_succ_self delta) 36 1 0 rest
  obtain ⟨d, ds, hcode⟩ := List.exists_cons_of_ne_nil
    (encodeNumber_ne_nil bias 36 (Nat.lt_succ_self delta))
  have hdiv : (place + delta) / (label.length + 1) = c.toNat - last := by
    rw [hway, Nat.mul_comm, Nat.mul_add_div (by omega), Nat.div_eq_of_lt (by omega), Nat.add_zero]
  have hmod : (place + delta) % (label.length + 1) = i := by
    rw [hway, Nat.mul_comm, Nat.mul_add_mod, Nat.mod_eq_of_lt (by omega)]
  have hvalid : (decide (c.toNat < 0xD800) ||
      (decide (0xDFFF < c.toNat) && decide (c.toNat ≤ 0x10FFFF))) = true := by
    have hc := c.valid
    simp only [Bool.or_eq_true, Bool.and_eq_true, decide_eq_true_eq]
    rcases hc with hlow | ⟨hmiddle, hhigh⟩
    · exact .inl hlow
    · exact .inr ⟨hmiddle, Nat.le_of_lt_succ hhigh⟩
  rw [hcode, List.cons_append] at hnumber ⊢
  rw [decodeFrom?, hnumber]
  simp only [Option.bind_eq_bind, Option.bind_some, Nat.zero_add, Nat.mul_one, hdiv, hmod,
    Nat.add_sub_cancel' hlast, Char.ofNat_toNat]
  · rw [if_pos hvalid]
  · exact nofun

/-- Of a scan for a code point what is ahead is read back. -/
theorem decodeFrom?_encodePoint {basic point : Nat} {s : State} {passed ahead : List Char} {first : Bool}
    {last place fuel : Nat} (h : InStep basic s point passed ahead first last place)
    (hfuel : ((encodePoint basic point s ahead).1 ++ rest).length ≤ fuel) :
    ∃ first' last' place' fuel', rest.length ≤ fuel' ∧
      InStep basic (encodePoint basic point s ahead).2 point (passed ++ ahead) [] first' last' place' ∧
      decodeFrom? fuel first last place s.bias (readSoFar point passed ahead)
          ((encodePoint basic point s ahead).1 ++ rest) =
        decodeFrom? fuel' first' last' place' (encodePoint basic point s ahead).2.bias
          (readSoFar point (passed ++ ahead) []) rest := by
  induction ahead generalizing passed s first last place fuel with
  | nil =>
      rw [List.append_nil]
      exact ⟨first, last, place, fuel, hfuel, h, rfl⟩
  | cons c ahead ih =>
      have hpassed : passed ++ c :: ahead = (passed ++ [c]) ++ ahead := by simp
      rw [hpassed]
      rcases lt_trichotomy c.toNat point with hless | hequal | hgreater
      · obtain ⟨hread, hplace⟩ := readSoFar_cons_of_lt hless passed ahead
        rw [encodePoint_cons_of_lt hless] at hfuel ⊢
        rw [hread]
        refine ih ⟨h.basic_le, h.written.trans (congrArg _ hread), h.first_iff, h.last_le, ?_⟩ hfuel
        have hway := h.way
        dsimp only
        omega
      · subst hequal
        have hpos : 0 < (encodeNumber s.bias (s.delta + 1) 36 s.delta).length :=
          List.length_pos_iff.mpr (encodeNumber_ne_nil _ _ (Nat.lt_succ_self _))
        have hway := h.way
        rw [encodePoint_cons_of_eq] at hfuel ⊢
        dsimp only at hfuel ⊢
        rw [List.append_assoc (encodeNumber _ _ _ _)] at hfuel ⊢
        rw [List.length_append] at hfuel
        rw [h.written] at hway
        obtain ⟨fuel, rfl⟩ : ∃ more, fuel = more + 1 := ⟨fuel - 1, by omega⟩
        rw [decodeFrom?_encodeNumber hway (placeOf_le _ _ _) h.last_le,
          ← (readSoFar_cons_of_eq rfl passed ahead).1, ← h.written, h.first_iff]
        exact ih (h.afterCode rfl) (by omega)
      · obtain ⟨hread, hplace⟩ := readSoFar_cons_of_gt hgreater passed ahead
        rw [encodePoint_cons_of_gt hgreater] at hfuel ⊢
        rw [hread]
        exact ih ⟨h.basic_le, h.written.trans (congrArg _ hread), h.first_iff, h.last_le,
          h.way.trans (by rw [hplace])⟩ hfuel

/-! ## All code points -/

theorem decodeFrom?_nil (fuel : Nat) (first : Bool) (last place bias : Nat) (label : List Char) :
    decodeFrom? fuel first last place bias label [] = some label := by
  cases fuel <;> rfl

/-- From the start of one scan on to the start of a later one nothing is to be read, if no code point is
between them. -/
theorem InStep.advance {basic point : Nat} {s : State} {first : Bool} {last place : Nat}
    (h : InStep basic s s.point [] label first last place) (hle : s.point ≤ point)
    (hnone : ∀ c ∈ label, s.point ≤ c.toNat → point ≤ c.toNat) :
    readSoFar point [] label = readSoFar s.point [] label ∧
      InStep basic { s with delta := s.delta + (point - s.point) * (s.written + 1), point } point []
        label first last place := by
  have hread : readSoFar point [] label = readSoFar s.point [] label := by
    refine congrArg _ (List.filter_congr fun c hc => ?_)
    have hbetween := hnone c hc
    rw [decide_eq_decide]
    omega
  refine ⟨hread, h.basic_le, h.written.trans (congrArg _ hread.symm), h.first_iff,
    h.last_le.trans hle, ?_⟩
  have hway := h.way
  have hsplit : point - last = (s.point - last) + (point - s.point) := by
    have hlast := h.last_le
    omega
  dsimp only
  rw [hsplit, Nat.add_mul]
  simp only [placeOf, List.filter_nil, List.length_nil] at hway ⊢
  omega

/-- At the end of a scan the next one may start. -/
theorem InStep.next {basic point : Nat} {s : State} {first : Bool} {last place : Nat}
    (h : InStep basic s point label [] first last place) :
    readSoFar (point + 1) [] label = readSoFar point label [] ∧
      InStep basic { s with delta := s.delta + 1, point := point + 1 } (point + 1) [] label first last
        place := by
  have hread : readSoFar (point + 1) [] label = readSoFar point label [] := by
    rw [readSoFar, readSoFar, List.filter_nil, List.filter_nil, List.append_nil, List.nil_append]
    exact List.filter_congr fun c _ => decide_eq_decide.mpr Nat.lt_succ_iff
  refine ⟨hread, h.basic_le, h.written.trans (congrArg _ hread.symm), h.first_iff,
    Nat.le_succ_of_le h.last_le, ?_⟩
  have hway := h.way
  have hwritten : s.written = placeOf point label := by
    rw [h.written, readSoFar, List.filter_nil, List.append_nil, placeOf]
  dsimp only
  rw [Nat.succ_sub h.last_le, Nat.succ_mul]
  rw [← hwritten] at hway
  simp only [placeOf, List.filter_nil, List.length_nil]
  omega

/-- The code of all code points of a label is read to the label. -/
theorem decodeFrom?_encodePoints {basic : Nat} {points : List Nat} {s : State} {first : Bool}
    {last place fuel : Nat} (h : InStep basic s s.point [] label first last place)
    (hsorted : points.Pairwise (· < ·)) (hlow : ∀ point ∈ points, s.point ≤ point)
    (hall : ∀ c ∈ label, s.point ≤ c.toNat → c.toNat ∈ points)
    (hfuel : (encodePoints basic label s points).length ≤ fuel) :
    decodeFrom? fuel first last place s.bias (readSoFar s.point [] label)
      (encodePoints basic label s points) = some label := by
  induction points generalizing s first last place fuel with
  | nil =>
      have hread : readSoFar s.point [] label = label := by
        rw [readSoFar, List.filter_nil, List.nil_append, List.filter_eq_self]
        intro c hc
        rw [decide_eq_true_eq]
        by_contra hge
        exact absurd (hall c hc (by omega)) List.not_mem_nil
      rw [hread]
      exact decodeFrom?_nil _ _ _ _ _ _
  | cons point points ih =>
      obtain ⟨habove, hsorted⟩ := List.pairwise_cons.mp hsorted
      have hnone : ∀ c ∈ label, s.point ≤ c.toNat → point ≤ c.toNat := by
        intro c hc hge
        rcases List.mem_cons.mp (hall c hc hge) with hsame | hmore
        · exact hsame.ge
        · exact (habove _ hmore).le
      obtain ⟨hread, hstart⟩ := h.advance (hlow point List.mem_cons_self) hnone
      rw [encodePoints] at hfuel ⊢
      rw [← hread]
      obtain ⟨first', last', place', fuel', hfuel', hend, hdecode⟩ :=
        decodeFrom?_encodePoint hstart hfuel
      obtain ⟨hread', hnext⟩ := hend.next
      rw [List.nil_append] at hdecode hread'
      refine hdecode.trans ?_
      rw [← hread']
      refine ih hnext hsorted (fun other hother => habove other hother) (fun c hc hge => ?_) hfuel'
      have hgt : point + 1 ≤ c.toNat := hge
      have hle : s.point ≤ c.toNat := (hlow point List.mem_cons_self).trans (Nat.le_of_succ_le hgt)
      rcases List.mem_cons.mp (hall c hc hle) with hsame | hmore
      · exact absurd hsame (by omega)
      · exact hmore

/-! ## The label -/

theorem mem_insertPoint {n m : Nat} {points : List Nat} :
    m ∈ insertPoint n points ↔ m = n ∨ m ∈ points := by
  induction points with
  | nil => simp [insertPoint]
  | cons other points ih =>
      rw [insertPoint]
      split
      · exact List.mem_cons
      · split
        · next hsame =>
            obtain rfl : n = other := beq_iff_eq.mp hsame
            simp
        · rw [List.mem_cons, ih, List.mem_cons]
          exact or_left_comm

theorem pairwise_insertPoint {points : List Nat} (n : Nat) (h : points.Pairwise (· < ·)) :
    (insertPoint n points).Pairwise (· < ·) := by
  induction points with
  | nil => exact List.pairwise_singleton _ n
  | cons other points ih =>
      obtain ⟨habove, hrest⟩ := List.pairwise_cons.mp h
      rw [insertPoint]
      split
      · next hless =>
          refine List.pairwise_cons.mpr ⟨fun m hm => ?_, h⟩
          rcases List.mem_cons.mp hm with rfl | hm
          · exact hless
          · exact hless.trans (habove m hm)
      · split
        · exact h
        · next hge hne =>
            have hother : other < n := by
              have hne' : n ≠ other := fun heq => hne (beq_iff_eq.mpr heq)
              omega
            refine List.pairwise_cons.mpr ⟨fun m hm => ?_, ih hrest⟩
            rcases mem_insertPoint.mp hm with rfl | hm
            · exact hother
            · exact habove m hm

/-- The code points of characters are collected in ascending order. -/
theorem collected_points (cs : List Char) {points : List Nat} (h : points.Pairwise (· < ·)) :
    (cs.foldl (fun points c => insertPoint c.toNat points) points).Pairwise (· < ·) ∧
      ∀ m, m ∈ cs.foldl (fun points c => insertPoint c.toNat points) points ↔
        m ∈ points ∨ ∃ c ∈ cs, c.toNat = m := by
  induction cs generalizing points with
  | nil => exact ⟨h, fun m => by simp⟩
  | cons c cs ih =>
      obtain ⟨hsorted, hmem⟩ := ih (pairwise_insertPoint c.toNat h)
      refine ⟨hsorted, fun m => (hmem m).trans ?_⟩
      rw [mem_insertPoint, List.exists_mem_cons_iff, eq_comm (a := m), or_assoc, or_left_comm]

theorem mem_encodePoint {basic point : Nat} {s : State} (h : c ∈ (encodePoint basic point s label).1) :
    ∃ n < 36, c = digit n := by
  induction label generalizing s with
  | nil => exact absurd h List.not_mem_nil
  | cons other label ih =>
      rw [encodePoint] at h
      split at h
      · exact ih h
      · split at h
        · rcases List.mem_append.mp h with hcode | hmore
          · exact mem_encodeNumber hcode
          · exact ih hmore
        · exact ih h

theorem mem_encodePoints {basic : Nat} {s : State} {points : List Nat}
    (h : c ∈ encodePoints basic label s points) : ∃ n < 36, c = digit n := by
  induction points generalizing s with
  | nil => exact absurd h List.not_mem_nil
  | cons point points ih =>
      rw [encodePoints] at h
      rcases List.mem_append.mp h with hcode | hmore
      · exact mem_encodePoint hcode
      · exact ih hmore

/-- The code of a label has the ASCII characters of the label, a hyphen and digits. -/
theorem mem_encode (h : c ∈ encode label) :
    (c ∈ label ∧ c.toNat < 128) ∨ c = '-' ∨ ∃ n < 36, c = digit n := by
  rw [encode] at h
  rcases List.mem_append.mp h with hbasic | htail
  · split at hbasic
    · exact absurd hbasic List.not_mem_nil
    · rcases List.mem_append.mp hbasic with hbasic | hhyphen
      · exact .inl (by simpa using hbasic)
      · exact .inr (.inl (List.mem_singleton.mp hhyphen))
  · exact .inr (.inr (mem_encodePoints htail))

/-- A code is cut behind the ASCII characters of the label. -/
theorem decode?_append {basic tail : List Char} (hbasic : ∀ c ∈ basic, c.toNat < 128)
    (htail : '-' ∉ tail) :
    decode? ((if basic.isEmpty then [] else basic ++ ['-']) ++ tail) =
      decodeFrom? (tail.length + 1) true 128 0 72 basic tail := by
  have hcut : (((if basic.isEmpty then [] else basic ++ ['-']) ++ tail).reverse.takeWhile
      (· != '-')).reverse = tail := by
    have hall : ∀ c ∈ tail.reverse, (c != '-') = true := fun c hc =>
      bne_iff_ne.mpr fun heq => htail (heq ▸ List.mem_reverse.mp hc)
    rw [List.reverse_append, List.takeWhile_append_of_pos hall]
    split <;> simp
  have hfront : ((if basic.isEmpty then [] else basic ++ ['-']) ++ tail).take
      (((if basic.isEmpty then [] else basic ++ ['-']) ++ tail).length - tail.length - 1) = basic := by
    split
    · next hempty => simp [List.isEmpty_iff.mp hempty]
    · have hlength : (basic ++ ['-'] ++ tail).length - tail.length - 1 = basic.length := by
        simp only [List.length_append, List.length_singleton]
        omega
      rw [hlength, List.append_assoc, List.take_left']
      rfl
  have hascii : basic.any (128 ≤ ·.toNat) = false := by
    rw [List.any_eq_false]
    intro c hc
    have := hbasic c hc
    simpa using this
  rw [decode?, hcut, hfront, hascii]
  rfl

/-- The code of a label is read to the label. -/
theorem decode?_encode (label : List Char) : decode? (encode label) = some label := by
  obtain ⟨hsorted, hmem⟩ := collected_points (label.filter (128 ≤ ·.toNat)) List.Pairwise.nil
  have hread : readSoFar 128 [] label = label.filter (·.toNat < 128) := by
    rw [readSoFar, List.filter_nil, List.nil_append]
  have hstart : InStep (label.filter (·.toNat < 128)).length
      ⟨128, 0, 72, (label.filter (·.toNat < 128)).length⟩ 128 [] label true 128 0 :=
    ⟨le_refl _, congrArg _ hread.symm, (beq_self_eq_true _).symm, le_refl _, by simp [placeOf]⟩
  have hhyphen : ∀ n < 36, digit n ≠ '-' := by decide
  have htail : '-' ∉ encodePoints (label.filter (·.toNat < 128)).length label
      ⟨128, 0, 72, (label.filter (·.toNat < 128)).length⟩
      ((label.filter (128 ≤ ·.toNat)).foldl (fun points c => insertPoint c.toNat points) []) := by
    intro hmem
    obtain ⟨n, hn, heq⟩ := mem_encodePoints hmem
    exact hhyphen n hn heq.symm
  rw [encode, decode?_append (by simp) htail, ← hread]
  refine decodeFrom?_encodePoints hstart hsorted (fun point hpoint => ?_) (fun c hc hge => ?_)
    (Nat.le_succ _)
  · rcases (hmem point).mp hpoint with hnone | ⟨c, hc, rfl⟩
    · exact absurd hnone List.not_mem_nil
    · exact of_decide_eq_true (List.mem_filter.mp hc).2
  · exact (hmem _).mpr (.inr ⟨c, List.mem_filter.mpr ⟨hc, decide_eq_true hge⟩, rfl⟩)

end DynamicContent.Url.Punycode
