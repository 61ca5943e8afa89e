/-
# Clock readings and instants

The date of a number of days has that number of days before it. The year is guessed from the mean length
of a year and is off by one at most, and the months of the year are counted off from its first day. So
what the clock of a zone shows at an instant tells the instant, in all years that a clock can show.

A kind of time is in force from the instant at which its period begins until the next one begins, and
the first one has always been. The kind that a zone has at an instant is in force then, and the kind
that is taken for a reading of the clock is in force at an instant at which the clock shows it. So where
there is one such instant only, it is the one that the reading is taken for.
-/

import DynamicContent.Calendar.Zone
import DynamicContent.Proofs.Calendar.Stamp

namespace DynamicContent.Calendar

/-! ## Months -/

theorem daysBeforeMonth_succ (year : Int) {month : Nat} (hmonth : 0 < month) :
    daysBeforeMonth year (month + 1) = daysBeforeMonth year month + daysInMonth year month := by
  obtain ⟨past, rfl⟩ := Nat.exists_eq_succ_of_ne_zero hmonth.ne'
  rw [daysBeforeMonth, Nat.succ_sub_one, Nat.succ_eq_add_one, List.range_succ, List.foldl_append]
  rfl

theorem daysInMonth_le (year : Int) (month : Nat) : daysInMonth year month ≤ 31 := by
  unfold daysInMonth
  split
  · split <;> decide
  all_goals decide

theorem daysBeforeMonth_le (year : Int) (month : Nat) : daysBeforeMonth year month ≤ 31 * month := by
  induction month with
  | zero => exact Nat.zero_le _
  | succ month ih =>
      rcases Nat.eq_zero_or_pos month with rfl | hmonth
      · exact Nat.zero_le _
      · have hdays := daysInMonth_le year month
        rw [daysBeforeMonth_succ year hmonth]
        omega

/-- To count months off changes no day of the year. -/
theorem dayOfYear_monthAndDay (year : Int) (count : Nat) {month : Nat} (hmonth : 0 < month) (day : Nat) :
    Date.dayOfYear ⟨year, (Date.monthAndDay year count month day).1,
        (Date.monthAndDay year count month day).2⟩ = daysBeforeMonth year month + day := by
  induction count generalizing month day with
  | zero => rfl
  | succ count ih =>
      rw [Date.monthAndDay]
      split
      · rfl
      · next hmore =>
          rw [ih (Nat.succ_pos month), daysBeforeMonth_succ year hmonth]
          omega

/-! ## Years -/

theorem ofDays_year_mem (days : Int) :
    let guess := (days + 719162) * 400 / 146097 + 1
    guess - 1 ≤ (Date.ofDays days).year ∧ (Date.ofDays days).year ≤ guess + 1 := by
  dsimp only [Date.ofDays]
  split
  · omega
  · split <;> omega

/-- The year does not begin after the day. -/
theorem daysBeforeYear_ofDays_le (days : Int) : daysBeforeYear (Date.ofDays days).year ≤ days := by
  dsimp only [Date.ofDays]
  split
  · next hlate =>
      dsimp only [daysBeforeYear] at hlate ⊢
      omega
  · split
    · next hearly => exact hearly
    · next hnot _ => exact Int.not_lt.mp hnot

/-! ## Days -/

theorem toDays_ofDays (days : Int) : (Date.ofDays days).toDays = days := by
  have hyear := daysBeforeYear_ofDays_le days
  have hday : (Date.ofDays days).dayOfYear = (days - daysBeforeYear (Date.ofDays days).year).toNat :=
    (dayOfYear_monthAndDay _ 11 Nat.one_pos _).trans (Nat.zero_add _)
  rw [Date.toDays, hday]
  omega

/-- A date of the years 1 to 9999 is not far from the days of these years. -/
theorem toDays_bounds {d : Date} (hyear : 1 ≤ d.year ∧ d.year ≤ 9999) (hvalid : d.isValid = true) :
    -800000 ≤ d.toDays ∧ d.toDays ≤ 3000000 := by
  simp only [Date.isValid, Bool.and_eq_true, decide_eq_true_eq] at hvalid
  obtain ⟨⟨⟨-, hmonth⟩, -⟩, hday⟩ := hvalid
  have hbefore := daysBeforeMonth_le d.year d.month
  have hdays := daysInMonth_le d.year d.month
  dsimp only [Date.toDays, Date.dayOfYear, daysBeforeYear]
  omega

theorem inRange_ofDays {days : Int} (hlow : -1000000 ≤ days) (hhigh : days ≤ 4000000) :
    (Date.ofDays days).inRange = true := by
  have hyear := ofDays_year_mem days
  rw [Date.inRange, Bool.and_eq_true, decide_eq_true_eq, decide_eq_true_eq]
  dsimp only at hyear
  omega

theorem DateTime.toSeconds_ofSeconds (seconds : Int) (nanosecond : Nat) :
    (DateTime.ofSeconds seconds nanosecond).toSeconds = seconds := by
  rw [DateTime.toSeconds, DateTime.ofSeconds]
  dsimp only
  rw [toDays_ofDays]
  omega

/-- What the clock of a zone shows at an instant tells the instant. -/
theorem Zoned.exists_ofSeconds? (zone : Zone) {seconds : Int} (nanosecond : Nat)
    (hrange : (Date.ofDays (seconds / 86400)).inRange = true) :
    ∃ shown, Zoned.ofSeconds? zone seconds nanosecond = some shown ∧ shown.toSeconds = seconds := by
  refine ⟨_, if_pos hrange, ?_⟩
  rw [Zoned.toSeconds, DateTime.toSeconds_ofSeconds]
  exact Int.add_sub_cancel _ _

/-! ## What the clock of a zone shows -/

namespace Zone

/-- Whether a period that begins at `start` has begun at an instant; the first one has no start. -/
def HasBegun (start : Option Int) (seconds : Int) : Prop := ∀ s ∈ start, s ≤ seconds

/-- Whether a kind of time is in force at an instant, in the period of the given kind or later. -/
def InForceFrom (seconds : Int) (inForce : TimeKind) :
    Option Int → TimeKind → List (Int × TimeKind) → Prop
  | start, kind, [] => HasBegun start seconds ∧ inForce = kind
  | start, kind, (stop, next) :: rest =>
    HasBegun start seconds ∧ seconds < stop ∧ inForce = kind ∨
      InForceFrom seconds inForce (some stop) next rest

/-- Whether a kind of time is in force at an instant. -/
def InForce (zone : Zone) (seconds : Int) (kind : TimeKind) : Prop :=
  InForceFrom seconds kind none zone.first zone.changes

/-- Whether the clock of a zone shows a reading at an instant. -/
def Shows (zone : Zone) (seconds reading : Int) : Prop :=
  ∃ kind, zone.InForce seconds kind ∧ seconds + kind.offset = reading

variable {zone : Zone} {seconds reading : Int} {start : Option Int} {kind found : TimeKind}
  {changes : List (Int × TimeKind)}

/-! ### At an instant -/

theorem inForceFrom_kindAfter (h : HasBegun start seconds) :
    InForceFrom seconds (kindAfter seconds kind changes) start kind changes := by
  induction changes generalizing start kind with
  | nil => exact ⟨h, rfl⟩
  | cons change rest ih =>
      obtain ⟨stop, next⟩ := change
      rw [kindAfter]
      by_cases hlt : seconds < stop
      · rw [if_pos hlt]
        exact .inl ⟨h, hlt, rfl⟩
      · rw [if_neg hlt]
        refine .inr (ih fun s hs => ?_)
        obtain rfl := Option.some.inj hs
        exact Int.not_lt.mp hlt

/-- The kind that a zone has at an instant is in force then. -/
theorem inForce_kindAt (zone : Zone) (seconds : Int) : zone.InForce seconds (zone.kindAt seconds) :=
  inForceFrom_kindAfter fun _ => nofun

/-! ### At a reading -/

/-- A period has begun, by its own clock. -/
theorem begun_eq_true_iff :
    (start.map fun s => decide (s + kind.offset ≤ reading)).getD true = true ↔
      HasBegun start (reading - kind.offset) := by
  cases start with
  | none => exact iff_of_true rfl fun _ => nofun
  | some s =>
      have hmove : s + kind.offset ≤ reading ↔ s ≤ reading - kind.offset := by omega
      simp [HasBegun, hmove]

/-- The kind that is taken for a reading is in force at an instant at which the clock shows it. -/
theorem inForceFrom_of_kindShowing? (h : kindShowing? reading start kind changes = some found) :
    InForceFrom (reading - found.offset) found start kind changes := by
  induction changes generalizing start kind with
  | nil =>
      rw [kindShowing?, Option.ite_none_right_eq_some] at h
      obtain ⟨hbegun, hkind⟩ := h
      obtain rfl := Option.some.inj hkind
      exact ⟨begun_eq_true_iff.mp hbegun, rfl⟩
  | cons change rest ih =>
      obtain ⟨stop, next⟩ := change
      rw [kindShowing?] at h
      split at h
      · next hperiod =>
          rw [Bool.and_eq_true, decide_eq_true_eq] at hperiod
          obtain ⟨hbegun, hlt⟩ := hperiod
          obtain rfl := Option.some.inj h
          exact .inl ⟨begun_eq_true_iff.mp hbegun, by omega, rfl⟩
      · exact .inr (ih h)

/-- A kind is taken for every reading that the clock shows. -/
theorem exists_kindShowing? (h : InForceFrom seconds found start kind changes) :
    ∃ taken, kindShowing? (seconds + found.offset) start kind changes = some taken := by
  induction changes generalizing start kind with
  | nil =>
      obtain ⟨hbegun, rfl⟩ := h
      refine ⟨found, ?_⟩
      rw [kindShowing?, if_pos]
      rw [begun_eq_true_iff, Int.add_sub_cancel]
      exact hbegun
  | cons change rest ih =>
      obtain ⟨stop, next⟩ := change
      rw [kindShowing?]
      split
      · exact ⟨kind, rfl⟩
      · next hother =>
          rcases h with ⟨hbegun, hlt, rfl⟩ | hlater
          · refine absurd ?_ hother
            rw [Bool.and_eq_true, begun_eq_true_iff, Int.add_sub_cancel, decide_eq_true_eq]
            exact ⟨hbegun, by omega⟩
          · exact ih hlater

/-- A reading that the clock shows at one instant only is taken for that instant. -/
theorem ofClock?_of_shows {clock : DateTime} (hshows : zone.Shows seconds clock.toSeconds)
    (honly : ∀ other, zone.Shows other clock.toSeconds → other = seconds) :
    ∃ z, Zoned.ofClock? zone clock = some z ∧ z.clock = clock ∧ z.toSeconds = seconds := by
  obtain ⟨kind, hkind, hreading⟩ := hshows
  obtain ⟨taken, htaken⟩ := exists_kindShowing? hkind
  rw [hreading] at htaken
  have hzoned : Zoned.ofClock? zone clock = some ⟨clock, taken⟩ :=
    Option.map_eq_some_iff.mpr ⟨taken, htaken, rfl⟩
  refine ⟨_, hzoned, rfl, ?_⟩
  exact honly _ ⟨taken, inForceFrom_of_kindShowing? htaken, Int.sub_add_cancel _ _⟩

end Zone

end DynamicContent.Calendar
