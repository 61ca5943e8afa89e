/-
# The date of a post as its formats read it

A record keeps an instant with the offset that it was written with, and its field shows what a clock
with this offset shows. The offset is not part of the text. A format reads the text as what the clock of
the site shows, and so comes to the instant at which that clock shows the same. This is the instant of
the record exactly if the zone of the site has the same offset then.
-/

import DynamicContent.Format.Basic
import DynamicContent.Proofs.Calendar.Instants
import DynamicContent.Proofs.Format.Grammar
import DynamicContent.Proofs.Text.Casing
import DynamicContent.Record.Basic
import Mathlib.Logic.ExistsUnique

namespace DynamicContent

namespace Calendar

/-! ## What is read strictly is read loosely -/

section

variable {cs rest : List Char} {n : Nat} {d : Date}

/-- So many digits, and what they are taken off. -/
theorem exists_digits_of_takeDigits? {width : Nat} (h : takeDigits? width cs = some (n, rest)) :
    ∃ digits, cs = digits ++ rest ∧ digits.length = width ∧ (∀ c ∈ digits, c.isDigit = true) ∧
      Number.natOfDigits? digits = some n := by
  rw [takeDigits?] at h
  split at h
  · next hlength =>
      obtain ⟨m, hm, hpair⟩ := Option.map_eq_some_iff.mp h
      obtain ⟨rfl, rfl⟩ := Prod.mk.inj hpair
      exact ⟨cs.take width, (List.take_append_drop width cs).symm, beq_iff_eq.mp hlength,
        Number.isDigit_of_mem_natOfDigits? hm, hm⟩
  · contradiction

/-- Digits are read as they are, without regard to what follows. -/
theorem digits_of_takeDigits? {width : Nat} (hwidth : 0 < width)
    (h : takeDigits? width cs = some (n, rest)) :
    Text.trimStartChars cs = cs ∧ (cs.head?.any Char.isDigit) = true ∧
      Number.natOfDigits? ((cs.take width).takeWhile Char.isDigit) = some n ∧
      cs.drop ((cs.take width).takeWhile Char.isDigit).length = rest := by
  obtain ⟨digits, rfl, hlength, hdigits, hvalue⟩ := exists_digits_of_takeDigits? h
  rw [List.take_left' hlength, List.takeWhile_eq_self_iff.mpr hdigits, List.drop_left]
  cases digits with
  | nil => exact absurd hlength (Nat.ne_of_lt hwidth)
  | cons c digits =>
      have hc := hdigits c List.mem_cons_self
      have hfirst : Text.trimStartChars (c :: digits ++ rest) = c :: digits ++ rest :=
        List.dropWhile_cons_of_neg (by simp [Text.not_isBlank_of_isDigit hc])
      exact ⟨hfirst, hc, hvalue, rfl⟩

theorem takeShort?_of_takeDigits? (h : takeDigits? 2 cs = some (n, rest)) :
    takeShort? cs = some (n, rest) := by
  obtain ⟨hfirst, -, hvalue, hrest⟩ := digits_of_takeDigits? (by decide) h
  rw [takeShort?, hfirst, hvalue, hrest]
  rfl

theorem takeYear?_of_takeDigits? (h : takeDigits? 4 cs = some (n, rest)) :
    takeYear? cs = some ((n : Int), rest) := by
  obtain ⟨hfirst, hdigit, hvalue, hrest⟩ := digits_of_takeDigits? (by decide) h
  rw [takeYear?, hfirst]
  split
  · contradiction
  · contradiction
  · dsimp only
    rw [hvalue, hrest]
    rfl

theorem takeLooseDate?_of_takeDate? (h : takeDate? cs = some (d, rest)) (hvalid : d.isValid = true) :
    takeLooseDate? cs = some (d, rest) := by
  have hyears := year_of_takeDate? h
  obtain ⟨⟨year, cs⟩, hyear, h⟩ := Option.bind_eq_some_iff.mp h
  obtain ⟨cs, hdash, h⟩ := Option.bind_eq_some_iff.mp h
  obtain ⟨⟨month, cs⟩, hmonth, h⟩ := Option.bind_eq_some_iff.mp h
  obtain ⟨cs, hdash', h⟩ := Option.bind_eq_some_iff.mp h
  obtain ⟨⟨day, cs⟩, hday, h⟩ := Option.bind_eq_some_iff.mp h
  obtain ⟨rfl, rfl⟩ := Prod.mk.inj (Option.some.inj h)
  dsimp only at hdash hmonth hdash' hday hyears
  have hrange : Date.inRange ⟨(year : Int), month, day⟩ = true := by
    rw [Date.inRange, Bool.and_eq_true, decide_eq_true_eq, decide_eq_true_eq]
    dsimp only
    omega
  rw [takeLooseDate?, takeYear?_of_takeDigits? hyear]
  simp only [Option.bind_eq_bind, Option.bind_some, hdash, takeShort?_of_takeDigits? hmonth, hdash',
    takeShort?_of_takeDigits? hday, hrange, hvalid, Bool.and_self, if_true]

end

/-! ## The text of a field -/

theorem takeShort?_blank (cs : List Char) : takeShort? (' ' :: cs) = takeShort? cs := rfl

/-- The last two digits of a text. -/
theorem exists_padded_eq {n : Nat} (hn : n < 100) :
    ∃ tens ones, (padded 2 n).toList = [tens, ones] ∧ ones.isDigit = true := by
  obtain ⟨tens, ones, htext⟩ := List.length_eq_two.mp (@length_padded 2 n (by decide) hn)
  refine ⟨tens, ones, htext, @isDigit_of_mem_padded 2 n ones ?_⟩
  rw [htext]
  exact List.mem_cons_of_mem _ List.mem_cons_self

namespace Stamp

variable {t : Stamp} {zone : Zone}

/-- Whether a field can tell the clock reading of an instant: its year has four digits, its date and its
time of day exist, and it is a whole second. -/
structure IsPlain (t : Stamp) : Prop where
  year : 1 ≤ t.clock.date.year ∧ t.clock.date.year ≤ 9999
  date : t.clock.date.isValid = true
  second : t.clock.second < 86400
  whole : t.clock.nanosecond = 0

namespace IsPlain

theorem takeClock? (h : t.IsPlain) :
    Calendar.takeClock? (clockText t.clock).toList =
      some (t.clock.second / 3600, t.clock.second / 60 % 60, t.clock.second % 60, 0, []) := by
  have hread := @takeClock?_clockText [] t.clock h.second (by rw [h.whole]; decide) nofun
  rw [h.whole] at hread
  rwa [List.append_nil, show (fractionText 0).toList = [] from rfl, List.append_nil] at hread

theorem takeDate? (h : t.IsPlain) :
    Calendar.takeDate? t.fieldText.toList = some (t.clock.date, ' ' :: (clockText t.clock).toList) := by
  obtain ⟨hlow, hhigh⟩ := h.year
  have htext : t.fieldText.toList =
      (dateText t.clock.date).toList ++ ' ' :: (clockText t.clock).toList := by
    simp [fieldText]
  rw [htext]
  exact takeDate?_dateText ⟨by omega, hhigh⟩ h.date

theorem ofClock? (h : t.IsPlain) :
    DateTime.ofClock? t.clock.date (t.clock.second / 3600) (t.clock.second / 60 % 60)
      (t.clock.second % 60) 0 = some t.clock := by
  have hbounds : t.clock.second / 3600 < 24 ∧ t.clock.second / 60 % 60 < 60 ∧
      t.clock.second % 60 ≤ 60 ∧ t.clock.second % 60 ≠ 60 := by
    have := h.second
    omega
  have hsecond : 3600 * (t.clock.second / 3600) + 60 * (t.clock.second / 60 % 60) +
      t.clock.second % 60 = t.clock.second := by omega
  have hclock : (⟨t.clock.date, t.clock.second, 0⟩ : DateTime) = t.clock := by rw [← h.whole]
  simp [DateTime.ofClock?, h.date, hbounds, hsecond, hclock]

/-- A field begins with a digit and ends with one, and there is a blank in it. -/
theorem ends (h : t.IsPlain) :
    ∃ first body last, t.fieldText.toList = first :: (body ++ [last]) ∧ ' ' ∈ body ∧
      first.isDigit = true ∧ last.isDigit = true := by
  have hyear : t.clock.date.year.natAbs < 10 ^ 4 := by have := h.year; omega
  obtain ⟨year, hdigits⟩ : ∃ year, (padded 4 t.clock.date.year.natAbs).toList = year := ⟨_, rfl⟩
  have hlength := @length_padded 4 t.clock.date.year.natAbs (by decide) hyear
  have hfirst := @isDigit_of_mem_padded 4 t.clock.date.year.natAbs
  rw [hdigits] at hlength hfirst
  obtain ⟨tens, ones, hsecond, hlast⟩ := @exists_padded_eq (t.clock.second % 60) (by omega)
  have hwhole : t.clock.secondOfMinute = t.clock.second % 60 := by
    rw [DateTime.secondOfMinute, h.whole, Nat.zero_div, Nat.add_zero]
  have hfour : 0 ≤ t.clock.date.year ∧ t.clock.date.year ≤ 9999 := ⟨by have := h.year; omega, h.year.2⟩
  cases year with
  | nil => exact absurd hlength (by decide)
  | cons first digits =>
      refine ⟨first, digits ++ '-' :: ((padded 2 t.clock.date.month).toList ++ '-' ::
          ((padded 2 t.clock.date.day).toList ++ ' ' :: ((padded 2 t.clock.hour).toList ++ ':' ::
            ((padded 2 t.clock.minute).toList ++ [':', tens])))), ones, ?_, ?_,
        hfirst List.mem_cons_self, hlast⟩
      · simp [fieldText, dateText, clockText, yearText, hfour, hdigits, hwhole, hsecond]
      · simp

theorem clockOfText? (h : t.IsPlain) :
    Calendar.clockOfText? t.fieldText.toList = some t.clock := by
  have hwhole : t.clock.secondOfMinute = t.clock.second % 60 := by
    rw [DateTime.secondOfMinute, h.whole, Nat.zero_div, Nat.add_zero]
  have htext : (clockText t.clock).toList = (padded 2 (t.clock.second / 3600)).toList ++
      ':' :: ((padded 2 (t.clock.second / 60 % 60)).toList ++
        ':' :: ((padded 2 (t.clock.second % 60)).toList ++ [])) := by
    simp [clockText, hwhole, DateTime.hour, DateTime.minute]
  have hsecond := h.second
  have hread {n : Nat} (hn : n < 100) (rest : List Char) :
      takeShort? ((padded 2 n).toList ++ rest) = some (n, rest) :=
    takeShort?_of_takeDigits? (takeDigits?_padded (by decide) hn rest)
  rw [Calendar.clockOfText?, takeLooseDate?_of_takeDate? h.takeDate? h.date]
  simp only [Option.bind_eq_bind, Option.bind_some, List.isEmpty_cons, Bool.false_eq_true, if_false,
    takeShort?_blank, htext]
  simp only [hread (show t.clock.second / 3600 < 100 by omega),
    hread (show t.clock.second / 60 % 60 < 100 by omega),
    hread (show t.clock.second % 60 < 100 by omega), takeChar?, beq_self_eq_true, if_true,
    Option.bind_some, List.isEmpty_nil]
  exact h.ofClock?

/-- A field is read as what the clock of the zone shows. -/
theorem storedInstant?_fieldText (h : t.IsPlain) (zone : Zone) :
    storedInstant? zone t.fieldText = Zoned.ofClock? zone t.clock := by
  obtain ⟨first, body, last, htext, hblank, hfirst, hlast⟩ := h.ends
  have htrim : Text.trimChars t.fieldText.toList = t.fieldText.toList := by
    rw [htext]
    exact Text.trimChars_of_ends body (Text.not_isBlank_of_isDigit hfirst)
      (Text.not_isBlank_of_isDigit hlast)
  have hnumber : Number.int64OfText? t.fieldText.toList = none := by
    rw [Option.eq_none_iff_forall_ne_some]
    intro n hn
    have hnumeral := Number.isNumeralChar_of_mem_int64 hn ' ' (by simp [htext, hblank])
    exact absurd hnumeral (by decide)
  have htimestamp : timestampOfText? t.fieldText.toList = none := by
    rw [timestampOfText?, h.takeDate?]
    simp only [Option.bind_eq_bind, Option.bind_some, beq_self_eq_true, Bool.or_true, if_true,
      h.takeClock?]
    rfl
  rw [storedInstant?, htrim, hnumber]
  dsimp only
  rw [htimestamp]
  dsimp only
  rw [h.clockOfText?, Option.bind_some]

/-- The clock of a zone can show the instant. -/
theorem exists_inZone? (h : t.IsPlain) (hoffset : t.offset.natAbs < 93600) (zone : Zone) :
    ∃ shown, t.inZone? zone = some shown ∧ shown.toSeconds = t.toSeconds := by
  obtain ⟨hlow, hhigh⟩ := toDays_bounds h.year h.date
  have hsecond := h.second
  have hseconds : t.toSeconds = 86400 * t.clock.date.toDays + t.clock.second - t.offset := rfl
  exact Zoned.exists_ofSeconds? zone _ (inRange_ofDays (by omega) (by omega))

end IsPlain

end Stamp

end Calendar

open Calendar

/-! ## The date of a post -/

/-- The field of a post with its date is read as the one instant at which the clock of the zone shows
what the clock of the publication showed, and the formats for dates print this. It is the instant of the
publication exactly if the zone has then the offset that the publication was recorded with. -/
theorem Post.date_read_as_published_iff {post : Post} {t : Stamp} {zone : Zone}
    (hpublished : post.publishedAt = some t) (ht : t.IsPlain) (hoffset : t.offset.natAbs < 93600)
    (honce : ∃! seconds, zone.Shows seconds t.clock.toSeconds) :
    ∃ text read shown, post.field? "date" = some text ∧ storedInstant? zone text = some read ∧
      t.inZone? zone = some shown ∧ read.clock = t.clock ∧
      zone.Shows read.toSeconds t.clock.toSeconds ∧ shown.toSeconds = t.toSeconds ∧
      (read.toSeconds = shown.toSeconds ↔
        ∃ kind, zone.InForce shown.toSeconds kind ∧ kind.offset = t.offset) ∧
      ∀ attrs plain, Format.dateOrText zone attrs plain (.string text) =
        (formatPattern? (if (attrs.trimmed "date_format").isEmpty then plain
          else attrs.trimmed "date_format") read).getD text := by
  obtain ⟨seconds, hshows, honly⟩ := honce
  obtain ⟨read, hread, hclock, hseconds⟩ := Zone.ofClock?_of_shows hshows honly
  obtain ⟨shown, hshown, hinstant⟩ := ht.exists_inZone? hoffset zone
  have hstored := (ht.storedInstant?_fieldText zone).trans hread
  have hreading (kind : TimeKind) :
      t.toSeconds + kind.offset = t.clock.toSeconds ↔ kind.offset = t.offset := by
    rw [Stamp.toSeconds]
    omega
  refine ⟨t.fieldText, read, shown, ?_, hstored, hshown, hclock, hseconds ▸ hshows, hinstant, ?_, ?_⟩
  · exact congrArg (Option.map Stamp.fieldText) hpublished
  · rw [hinstant, hseconds]
    constructor
    · intro hsame
      obtain ⟨kind, hkind, hoffset⟩ := hshows
      rw [hsame] at hkind hoffset
      exact ⟨kind, hkind, (hreading kind).mp hoffset⟩
    · rintro ⟨kind, hkind, hoffset⟩
      exact (honly _ ⟨kind, hkind, (hreading kind).mpr hoffset⟩).symm
  · intro attrs plain
    rw [Format.dateOrText]
    dsimp only [Json.toText]
    rw [hstored]

/-- A zone whose clock is put forward in spring and back in autumn of one year. -/
def summerZone : Zone :=
  ⟨"Europe/Berlin", ⟨3600, "CET"⟩, [(1711846800, ⟨7200, "CEST"⟩), (1729990800, ⟨3600, "CET"⟩)]⟩

/-- A moment in May of that year by the clock of an offset. -/
def mayMoment (offset : Int) : Stamp := ⟨⟨⟨2024, 5, 1⟩, 37800, 0⟩, offset⟩

/-- A post that was published then. -/
def mayPost (offset : Int) : Post :=
  ⟨5, "post", "", "May", "", "", "publish", 0, some (mayMoment offset), none, [], []⟩

theorem summerZone_inForce : summerZone.InForce 1714552200 ⟨7200, "CEST"⟩ := by
  refine .inr (.inl ⟨?_, by decide, rfl⟩)
  intro start hstart
  obtain rfl := Option.some.inj hstart
  decide

theorem summerZone_shows_once : ∃! seconds, summerZone.Shows seconds 1714559400 := by
  refine ⟨1714552200, ⟨_, summerZone_inForce, rfl⟩, ?_⟩
  rintro other ⟨kind, hkind, hreading⟩
  rcases hkind with ⟨-, hstop, rfl⟩ | ⟨hstart, hstop, rfl⟩ | ⟨hstart, rfl⟩
  · dsimp only [summerZone] at hstop hreading
    omega
  · dsimp only at hreading
    omega
  · have hlate := hstart _ rfl
    dsimp only at hreading
    omega

/-- A post that was recorded by the clock of the site is read as published when it was, and one that was
recorded in universal time is not. -/
theorem mayPost_date_read :
    (∃ read, storedInstant? summerZone "2024-05-01 10:30:00" = some read ∧
      read.toSeconds = (mayMoment 7200).toSeconds) ∧
    ∃ read, storedInstant? summerZone "2024-05-01 10:30:00" = some read ∧
      read.toSeconds ≠ (mayMoment 0).toSeconds := by
  have hplain (offset : Int) : (mayMoment offset).IsPlain :=
    ⟨⟨Int.le.intro 2023 rfl, Int.le.intro 7975 rfl⟩, rfl, show 37800 < 86400 by decide, rfl⟩
  constructor
  · obtain ⟨text, read, shown, hfield, hread, -, -, -, hinstant, hsame, -⟩ :=
      @Post.date_read_as_published_iff (mayPost 7200) _ summerZone rfl (hplain 7200) (by decide)
        summerZone_shows_once
    have htext : (mayPost 7200).field? "date" = some "2024-05-01 10:30:00" := by decide +kernel
    obtain rfl := Option.some.inj (htext.symm.trans hfield)
    rw [hinstant] at hsame
    exact ⟨read, hread, hsame.mpr ⟨_, summerZone_inForce, rfl⟩⟩
  · obtain ⟨text, read, shown, hfield, hread, -, -, -, hinstant, hsame, -⟩ :=
      @Post.date_read_as_published_iff (mayPost 0) _ summerZone rfl (hplain 0) (by decide)
        summerZone_shows_once
    have htext : (mayPost 0).field? "date" = some "2024-05-01 10:30:00" := by decide +kernel
    obtain rfl := Option.some.inj (htext.symm.trans hfield)
    rw [hinstant] at hsame
    refine ⟨read, hread, fun heq => ?_⟩
    -- In May the clock of the zone is never at the offset of universal time.
    obtain ⟨kind, hkind, hoffset⟩ := hsame.mp heq
    rcases hkind with ⟨-, hstop, rfl⟩ | ⟨-, -, rfl⟩ | ⟨-, rfl⟩ <;> exact absurd hoffset (by decide)

end DynamicContent
