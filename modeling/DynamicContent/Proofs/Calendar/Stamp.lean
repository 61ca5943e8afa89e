/-
# Timestamps are read back

The instants that a timestamp can tell are those of the years 0 to 9999 whose offset is a whole number
of minutes, less than a day. Every instant that is read is one of them: a leap second is read as the
moment before it, and of a fraction no more than nine digits count. And every one of them is read from
its text, since the numbers in it are padded to the digits that are read and the zeros at the end of a
fraction say nothing.
-/

import DynamicContent.Calendar.Stamp
import DynamicContent.Proofs.Number.Integer
import Mathlib.Data.List.TakeWhile

namespace DynamicContent.Calendar

open Number (natText digitsValue)

/-! ## Padded numbers -/

theorem toList_padded (width n : Nat) :
    (padded width n).toList = List.replicate (width - (natText n).length) '0' ++ natText n := by
  rw [padded, String.toList_append, String.toList_ofList, Number.natString, String.toList_ofList]
  rw [String.length_ofList]

theorem length_natText_le {width n : Nat} (hwidth : 0 < width) (hn : n < 10 ^ width) :
    (natText n).length ≤ width :=
  (Nat.length_toDigits_le_iff (by decide) hwidth).mpr hn

theorem isDigit_of_mem_padded {width n : Nat} {c : Char} (h : c ∈ (padded width n).toList) :
    c.isDigit = true := by
  rw [toList_padded] at h
  exact Number.isDigit_of_mem_filled h

theorem length_padded {width n : Nat} (hwidth : 0 < width) (hn : n < 10 ^ width) :
    (padded width n).toList.length = width := by
  have hlength := length_natText_le hwidth hn
  rw [toList_padded, List.length_append, List.length_replicate]
  omega

theorem digitsValue_padded (width n : Nat) : digitsValue 0 (padded width n).toList = n := by
  rw [toList_padded]
  exact Number.digitsValue_filled _ n

/-- A padded number is read by its width. -/
theorem takeDigits?_padded {width n : Nat} (hwidth : 0 < width) (hn : n < 10 ^ width)
    (rest : List Char) : takeDigits? width ((padded width n).toList ++ rest) = some (n, rest) := by
  have hlength := length_padded hwidth hn
  have htake : ((padded width n).toList ++ rest).take width = (padded width n).toList :=
    List.take_left' hlength
  have hdrop : ((padded width n).toList ++ rest).drop width = rest := List.drop_left' hlength
  have hdigits : Number.natOfDigits? (padded width n).toList = some n := by
    have hsome : (padded width n).toList.isEmpty = false := by
      rw [List.isEmpty_eq_false_iff, ← List.length_pos_iff, hlength]
      exact hwidth
    have hall : (padded width n).toList.all Char.isDigit = true :=
      List.all_eq_true.mpr fun c hc => isDigit_of_mem_padded hc
    rw [Number.natOfDigits?, hsome, hall, digitsValue_padded]
    rfl
  rw [takeDigits?, htake, hdrop, hlength, hdigits]
  simp

/-- What is read as a number of so many digits has no more. -/
theorem lt_of_takeDigits? {width n : Nat} {cs rest : List Char}
    (h : takeDigits? width cs = some (n, rest)) : n < 10 ^ width := by
  rw [takeDigits?] at h
  split at h
  · next hlength =>
      obtain ⟨m, hm, hpair⟩ := Option.map_eq_some_iff.mp h
      obtain ⟨rfl, -⟩ := Prod.mk.inj hpair
      rw [Number.natOfDigits?] at hm
      split at hm
      · next hdigits =>
          rw [Bool.and_eq_true, List.all_eq_true] at hdigits
          obtain rfl := Option.some.inj hm
          have hbound := Number.digitsValue_lt hdigits.2
          rwa [beq_iff_eq.mp hlength] at hbound
      · contradiction
  · contradiction

/-! ## Instants that a timestamp tells -/

/-- Whether a timestamp can tell an instant: its year has four digits, its date and its time of day
exist, and its offset is a whole number of minutes, less than a day. -/
structure Stamp.HasText (t : Stamp) : Prop where
  year : 0 ≤ t.clock.date.year ∧ t.clock.date.year ≤ 9999
  date : t.clock.date.isValid = true
  second : t.clock.second < 86400
  nanosecond : t.clock.nanosecond < 1000000000
  offset : ∃ minutes : Nat, minutes < 1440 ∧ t.offset.natAbs = 60 * minutes

/-! ## Reading the text back -/

variable {rest : List Char}

theorem takeDate?_dateText {d : Date} (hyear : 0 ≤ d.year ∧ d.year ≤ 9999)
    (hvalid : d.isValid = true) :
    takeDate? ((dateText d).toList ++ rest) = some (d, rest) := by
  simp only [Date.isValid, Bool.and_eq_true, decide_eq_true_eq] at hvalid
  obtain ⟨⟨⟨-, hmonth⟩, -⟩, hday⟩ := hvalid
  have hdays : daysInMonth d.year d.month ≤ 31 := by
    unfold daysInMonth
    split
    · split <;> decide
    all_goals decide
  have htext : (dateText d).toList ++ rest = (padded 4 d.year.natAbs).toList ++
      '-' :: ((padded 2 d.month).toList ++ '-' :: ((padded 2 d.day).toList ++ rest)) := by
    simp [dateText, yearText, hyear]
  have habs : (d.year.natAbs : Int) = d.year := by omega
  have hread := @takeDigits?_padded 4 d.year.natAbs (by decide) (by omega)
  have hread' := @takeDigits?_padded 2 d.month (by decide) (by omega)
  have hread'' := @takeDigits?_padded 2 d.day (by decide) (by omega)
  rw [htext, takeDate?]
  simp only [hread, hread', hread'', takeChar?, Option.bind_eq_bind, Option.bind_some, beq_self_eq_true,
    if_true, habs]

/-- The digits of a fraction, without the zeros at their end. -/
theorem takeFraction?_digits {digits : List Char} (hne : digits ≠ [])
    (hdigits : ∀ c ∈ digits, c.isDigit = true) (hlength : digits.length ≤ 9)
    (hrest : ∀ c ∈ rest.head?, c.isDigit = false) :
    takeFraction? (digits ++ rest) =
      some (digitsValue 0 digits * Nat.pow 10 (9 - digits.length), rest) := by
  obtain ⟨htake, -⟩ := Number.takeWhile_append_of_stop hdigits hrest
  rw [takeFraction?, htake, List.drop_left, List.take_of_length_le hlength]
  simp [hne]

/-- A fraction is read back, and nothing is read where there is none. -/
theorem fractionText_cases {nanosecond : Nat} (h : nanosecond < 1000000000) :
    nanosecond = 0 ∧ (Stamp.fractionText nanosecond).toList = [] ∨
      ∃ digits, (Stamp.fractionText nanosecond).toList = '.' :: digits ∧
        ∀ rest, (∀ c ∈ rest.head?, c.isDigit = false) →
          takeFraction? (digits ++ rest) = some (nanosecond, rest) := by
  rw [Stamp.fractionText]
  by_cases hzero : nanosecond = 0
  · left
    exact ⟨hzero, by rw [if_pos (beq_iff_eq.mpr hzero)]; rfl⟩
  · right
    have hlength := @length_padded 9 nanosecond (by decide) h
    have hvalue := digitsValue_padded 9 nanosecond
    obtain ⟨zeros, hsplit⟩ := Number.exists_strip_append_zeros (padded 9 nanosecond).toList
    generalize hstrip :
      ((padded 9 nanosecond).toList.reverse.dropWhile (· == '0')).reverse = digits at hsplit
    have hsum := congrArg List.length hsplit
    rw [List.length_append, List.length_replicate, hlength] at hsum
    rw [hsplit, Number.digitsValue_append, Number.digitsValue_zeros] at hvalue
    have hne : digits ≠ [] := by
      rintro rfl
      exact hzero (hvalue.symm.trans (Nat.zero_mul _))
    have hdigits : ∀ c ∈ digits, c.isDigit = true := fun c hc =>
      @isDigit_of_mem_padded 9 nanosecond c (hsplit ▸ List.mem_append_left _ hc)
    refine ⟨digits, ?_, fun rest hrest => ?_⟩
    · rw [if_neg (by simp [hzero]), ← hstrip]
      simp
    · have hplaces : 9 - digits.length = zeros := by omega
      rw [takeFraction?_digits hne hdigits (by omega) hrest, hplaces]
      exact congrArg (fun n => some (n, rest)) hvalue

theorem takeClock?_clockText {t : DateTime} (hsecond : t.second < 86400)
    (hnanosecond : t.nanosecond < 1000000000)
    (hrest : ∀ c ∈ rest.head?, c.isDigit = false ∧ c ≠ '.') :
    takeClock? ((clockText t).toList ++ ((Stamp.fractionText t.nanosecond).toList ++ rest)) =
      some (t.second / 3600, t.second / 60 % 60, t.second % 60, t.nanosecond, rest) := by
  have hwhole : t.secondOfMinute = t.second % 60 := by
    rw [DateTime.secondOfMinute, Nat.div_eq_of_lt hnanosecond, Nat.add_zero]
  have htext (more : List Char) : (clockText t).toList ++ more = (padded 2 (t.second / 3600)).toList ++
      ':' :: ((padded 2 (t.second / 60 % 60)).toList ++
        ':' :: ((padded 2 (t.second % 60)).toList ++ more)) := by
    simp [clockText, hwhole, DateTime.hour, DateTime.minute]
  have hread := @takeDigits?_padded 2 (t.second / 3600) (by decide) (by omega)
  have hread' := @takeDigits?_padded 2 (t.second / 60 % 60) (by decide) (by omega)
  have hread'' := @takeDigits?_padded 2 (t.second % 60) (by decide) (by omega)
  rw [htext, takeClock?]
  simp only [hread, hread', hread'', takeChar?, Option.bind_eq_bind, Option.bind_some,
    beq_self_eq_true, if_true]
  rcases fractionText_cases hnanosecond with ⟨hzero, hnone⟩ | ⟨digits, hsome, hfraction⟩
  · rw [hnone, List.nil_append, hzero]
    split
    · next more => exact absurd rfl (hrest '.' rfl).2
    · rfl
  · have hread := hfraction rest fun c hc => (hrest c hc).1
    rw [hsome, List.cons_append]
    show (takeFraction? (digits ++ rest)).bind _ = _
    rw [hread]
    rfl

theorem offsetOfText?_signed {hours minutes : Nat} (negative : Bool) (hhours : hours < 24)
    (hminutes : minutes < 60) :
    offsetOfText? (· == '-') ((if negative then '-' else '+') ::
        ((padded 2 hours).toList ++ ':' :: (padded 2 minutes).toList)) =
      some (if negative then -(3600 * (hours : Int) + 60 * minutes)
        else 3600 * hours + 60 * minutes) := by
  have hread := @takeDigits?_padded 2 hours (by decide) (by omega)
  have hread' := @takeDigits?_padded 2 minutes (by decide) (by omega) []
  rw [List.append_nil] at hread'
  cases negative <;> simp [offsetOfText?, hread, hread', takeChar?, hhours, hminutes]

/-- An offset is read back. -/
theorem offsetOfText?_offsetText {offset : Int} {minutes : Nat} (hminutes : minutes < 1440)
    (habs : offset.natAbs = 60 * minutes) :
    offsetOfText? (· == '-')
      (if offset == 0 then "Z" else Zoned.offsetText offset ":").toList = some offset := by
  by_cases hzero : offset = 0
  · rw [if_pos (beq_iff_eq.mpr hzero), hzero]
    rfl
  · have hwhole : (offset.natAbs + 30) / 60 = minutes := by omega
    have htext : (Zoned.offsetText offset ":").toList =
        (if decide (offset < 0) then '-' else '+') ::
          ((padded 2 (minutes / 60)).toList ++ ':' :: (padded 2 (minutes % 60)).toList) := by
      rw [Zoned.offsetText, hwhole]
      by_cases hnegative : offset < 0 <;> simp [hnegative]
    rw [if_neg (by simp [hzero]), htext, offsetOfText?_signed _ (by omega) (by omega)]
    by_cases hnegative : offset < 0
    · rw [if_pos (decide_eq_true hnegative)]
      congr 1
      omega
    · rw [if_neg (by simp [hnegative])]
      congr 1
      omega

/-- What follows the time of day begins with neither a digit nor a point. -/
theorem offsetText_head (offset : Int) :
    ∀ c ∈ (if offset == 0 then "Z" else Zoned.offsetText offset ":").toList.head?,
      c.isDigit = false ∧ c ≠ '.' := by
  intro c hc
  by_cases hzero : offset = 0
  · rw [if_pos (beq_iff_eq.mpr hzero)] at hc
    obtain rfl := Option.some.inj hc
    decide
  · rw [if_neg (by simp [hzero]), Zoned.offsetText] at hc
    by_cases hnegative : offset < 0
    · simp [hnegative] at hc
      subst hc
      decide
    · simp [hnegative] at hc
      subst hc
      decide

/-! ## What is read has a text -/

theorem year_of_takeDate? {cs : List Char} {d : Date} (h : takeDate? cs = some (d, rest)) :
    0 ≤ d.year ∧ d.year ≤ 9999 := by
  obtain ⟨⟨year, cs⟩, hyear, h⟩ := Option.bind_eq_some_iff.mp h
  obtain ⟨cs, -, h⟩ := Option.bind_eq_some_iff.mp h
  obtain ⟨⟨month, cs⟩, -, h⟩ := Option.bind_eq_some_iff.mp h
  obtain ⟨cs, -, h⟩ := Option.bind_eq_some_iff.mp h
  obtain ⟨⟨day, cs⟩, -, h⟩ := Option.bind_eq_some_iff.mp h
  obtain ⟨rfl, -⟩ := Prod.mk.inj (Option.some.inj h)
  have hbound := lt_of_takeDigits? hyear
  dsimp only
  omega

theorem lt_of_takeFraction? {cs : List Char} {nanosecond : Nat}
    (h : takeFraction? cs = some (nanosecond, rest)) : nanosecond < 1000000000 := by
  rw [takeFraction?] at h
  generalize hkept : (cs.takeWhile Char.isDigit).take 9 = kept at h
  have hlength : kept.length ≤ 9 := hkept ▸ List.length_take_le 9 _
  have hvalue : digitsValue 0 kept < 10 ^ kept.length := by
    refine Number.digitsValue_lt fun c hc => ?_
    rw [← hkept] at hc
    exact List.mem_takeWhile_imp (List.mem_of_mem_take hc)
  have hplaces : 10 ^ kept.length * 10 ^ (9 - kept.length) = 1000000000 := by
    rw [← Nat.pow_add, Nat.add_sub_cancel' hlength]
  dsimp only at h
  split at h
  · contradiction
  · obtain ⟨rfl, -⟩ := Prod.mk.inj (Option.some.inj h)
    rw [← hplaces]
    exact Nat.mul_lt_mul_of_pos_right hvalue (Nat.pow_pos (by decide))

theorem nanosecond_of_takeClock? {cs : List Char} {hour minute second nanosecond : Nat}
    (h : takeClock? cs = some (hour, minute, second, nanosecond, rest)) :
    nanosecond < 1000000000 := by
  obtain ⟨⟨hour', cs⟩, -, h⟩ := Option.bind_eq_some_iff.mp h
  obtain ⟨cs, -, h⟩ := Option.bind_eq_some_iff.mp h
  obtain ⟨⟨minute', cs⟩, -, h⟩ := Option.bind_eq_some_iff.mp h
  obtain ⟨cs, -, h⟩ := Option.bind_eq_some_iff.mp h
  obtain ⟨⟨second', cs⟩, -, h⟩ := Option.bind_eq_some_iff.mp h
  dsimp only at h
  split at h
  · obtain ⟨⟨fraction, cs⟩, hfraction, h⟩ := Option.bind_eq_some_iff.mp h
    simp only [Option.some.injEq, Prod.mk.injEq] at h
    obtain ⟨-, -, -, rfl, -⟩ := h
    exact lt_of_takeFraction? hfraction
  · simp only [Option.some.injEq, Prod.mk.injEq] at h
    obtain ⟨-, -, -, rfl, -⟩ := h
    decide

theorem minutes_of_signed {negative : Bool} {cs : List Char} {offset : Int}
    (h : (do
      let (hours, rest) ← takeDigits? 2 cs
      let (minutes, rest) ← takeDigits? 2 (← takeChar? ':' rest)
      if rest.isEmpty && hours < 24 && minutes < 60 then
        let seconds : Int := 3600 * hours + 60 * minutes
        some (if negative then -seconds else seconds)
      else none) = some offset) :
    ∃ minutes : Nat, minutes < 1440 ∧ offset.natAbs = 60 * minutes := by
  obtain ⟨⟨hours, cs⟩, -, h⟩ := Option.bind_eq_some_iff.mp h
  obtain ⟨cs, -, h⟩ := Option.bind_eq_some_iff.mp h
  obtain ⟨⟨minutes, cs⟩, -, h⟩ := Option.bind_eq_some_iff.mp h
  dsimp only at h
  split at h
  · next hbounds =>
      simp only [Bool.and_eq_true, decide_eq_true_eq] at hbounds
      obtain ⟨⟨-, hhours⟩, hminutes⟩ := hbounds
      obtain rfl := Option.some.inj h
      exact ⟨60 * hours + minutes, by omega, by split <;> omega⟩
  · contradiction

theorem minutes_of_offsetOfText? {minus : Char → Bool} {cs : List Char} {offset : Int}
    (h : offsetOfText? minus cs = some offset) :
    ∃ minutes : Nat, minutes < 1440 ∧ offset.natAbs = 60 * minutes := by
  unfold offsetOfText? at h
  split at h
  · obtain rfl := Option.some.inj h
    exact ⟨0, by decide, rfl⟩
  · obtain rfl := Option.some.inj h
    exact ⟨0, by decide, rfl⟩
  · dsimp only at h
    split at h
    · exact minutes_of_signed h
    · split at h
      · exact minutes_of_signed h
      · contradiction
  · contradiction

theorem DateTime.of_ofClock? {date : Date} {hour minute second nanosecond : Nat} {t : DateTime}
    (h : ofClock? date hour minute second nanosecond = some t) :
    t.date = date ∧ date.isValid = true ∧ t.second < 86400 ∧
      (second ≠ 60 → t.nanosecond = nanosecond) := by
  rw [ofClock?] at h
  split at h
  · next hbounds =>
      simp only [Bool.and_eq_true, decide_eq_true_eq] at hbounds
      obtain ⟨⟨⟨hvalid, hhour⟩, hminute⟩, hsecond⟩ := hbounds
      obtain rfl := Option.some.inj h
      refine ⟨rfl, hvalid, ?_, fun hleap => ?_⟩
      · dsimp only
        split
        · omega
        · next hleap =>
            have hleap : second ≠ 60 := fun heq => hleap (beq_iff_eq.mpr heq)
            omega
      · simp [hleap]
  · contradiction

namespace Stamp

/-- An instant that a timestamp can tell is read from its text. -/
theorem ofText?_text {t : Stamp} (h : t.HasText) : ofText? t.text = some t := by
  obtain ⟨minutes, hminutes, habs⟩ := h.offset
  have htext : t.text.toList = (dateText t.clock.date).toList ++ 'T' ::
      ((clockText t.clock).toList ++ ((fractionText t.clock.nanosecond).toList ++
        (if t.offset == 0 then "Z" else Zoned.offsetText t.offset ":").toList)) := by
    simp [text]
  have hclock := takeClock?_clockText h.second h.nanosecond (offsetText_head t.offset)
  have hbounds : t.clock.second / 3600 < 24 ∧ t.clock.second / 60 % 60 < 60 ∧
      t.clock.second % 60 ≤ 60 ∧ t.clock.second % 60 ≠ 60 := by
    have := h.second
    omega
  have hsecond : 3600 * (t.clock.second / 3600) + 60 * (t.clock.second / 60 % 60) +
      t.clock.second % 60 = t.clock.second := by omega
  have hofClock : DateTime.ofClock? t.clock.date (t.clock.second / 3600)
      (t.clock.second / 60 % 60) (t.clock.second % 60) t.clock.nanosecond = some t.clock := by
    simp [DateTime.ofClock?, h.date, hbounds, hsecond]
  rw [ofText?, htext]
  simp only [takeDate?_dateText h.year h.date, Option.bind_eq_bind, Option.bind_some]
  rw [if_pos (show 'T'.toNat < 0x80 by decide)]
  simp only [hclock, offsetOfText?_offsetText hminutes habs, hofClock, Option.bind_some]
  exact if_neg (by simpa using hbounds.2.2.2)

/-- What is read behind the date and the character after it. -/
theorem hasText_of_behind {date : Date} {cs : List Char} {t : Stamp}
    (hyear : 0 ≤ date.year ∧ date.year ≤ 9999)
    (h : (do
      let (hour, minute, second, nanosecond, cs) ← takeClock? cs
      let offset ← offsetOfText? (· == '-') cs
      let clock ← DateTime.ofClock? date hour minute second nanosecond
      if second == 60 then
        if endsMonth (clock.toSeconds - offset) then
          some (⟨{ clock with nanosecond := 999999999 }, offset⟩ : Stamp)
        else none
      else some ⟨clock, offset⟩) = some t) : t.HasText := by
  obtain ⟨⟨hour, minute, second, nanosecond, cs⟩, hread, h⟩ := Option.bind_eq_some_iff.mp h
  obtain ⟨offset, hoffset, h⟩ := Option.bind_eq_some_iff.mp h
  obtain ⟨clock, hclock, hstamp⟩ := Option.bind_eq_some_iff.mp h
  obtain ⟨rfl, hvalid, hsecond, hnanosecond⟩ := DateTime.of_ofClock? hclock
  have hminutes := minutes_of_offsetOfText? hoffset
  split at hstamp
  · split at hstamp
    · obtain rfl := Option.some.inj hstamp
      exact ⟨hyear, hvalid, hsecond, show 999999999 < 1000000000 by decide, hminutes⟩
    · contradiction
  · next hleap =>
      obtain rfl := Option.some.inj hstamp
      have hsame : clock.nanosecond = nanosecond :=
        hnanosecond fun heq => hleap (beq_iff_eq.mpr heq)
      exact ⟨hyear, hvalid, hsecond, hsame ▸ nanosecond_of_takeClock? hread, hminutes⟩

/-- Every instant that is read from a text is one that a timestamp can tell. -/
theorem hasText_of_ofText? {s : String} {t : Stamp} (h : ofText? s = some t) : t.HasText := by
  obtain ⟨⟨date, cs⟩, hdate, h⟩ := Option.bind_eq_some_iff.mp h
  have hyear := year_of_takeDate? hdate
  dsimp only at h
  split at h
  · split at h
    · exact hasText_of_behind hyear h
    · contradiction
  · contradiction

end Stamp

end DynamicContent.Calendar
