/-
# The text of a floating number tells it

The text of a value has its shortest digits, with the point or the exponent that says where they stand.
Read as a decimal, it denotes what the digits denote, whichever of the forms it has. So it tells the
value. It also shows that it is the text of a floating number, by a point or an exponent.
-/

import DynamicContent.Proofs.Number.Shortest

namespace DynamicContent.Number

open Extended64 (takeDecimal takeExponent)

/-- The number that a text denotes, which has digits, perhaps a fraction and perhaps an exponent. -/
def denoted? (cs : List Char) : Option ℚ := do
  let (digits, places, rest) ← takeDecimal cs
  let exponent ← takeExponent rest
  some (decimal digits (exponent - places))

/-! ## Reading digits -/

/-- Digits with a fraction. -/
theorem takeDecimal_fraction {whole fraction rest : List Char} (hne : whole ≠ [])
    (hwhole : ∀ c ∈ whole, c.isDigit = true) (hfraction : ∀ c ∈ fraction, c.isDigit = true)
    (hrest : ∀ c ∈ rest.head?, c.isDigit = false) :
    takeDecimal (whole ++ '.' :: (fraction ++ rest)) =
      some (digitsValue 0 (whole ++ fraction), fraction.length, rest) := by
  have hpoint : ∀ c ∈ ('.' :: (fraction ++ rest)).head?, c.isDigit = false := by
    intro c hc
    obtain rfl := Option.some.inj hc
    rfl
  obtain ⟨htake, hdrop⟩ := takeWhile_append_of_stop hwhole hpoint
  obtain ⟨htake', hdrop'⟩ := takeWhile_append_of_stop hfraction hrest
  have hvalue := digitsValue_append 0 whole fraction
  simp [takeDecimal, htake, hdrop, htake', hdrop', hne, hvalue]

/-- Digits without a fraction. -/
theorem takeDecimal_whole {whole rest : List Char} (hne : whole ≠ [])
    (hwhole : ∀ c ∈ whole, c.isDigit = true)
    (hrest : ∀ c ∈ rest.head?, c.isDigit = false ∧ c ≠ '.') :
    takeDecimal (whole ++ rest) = some (digitsValue 0 whole, 0, rest) := by
  obtain ⟨htake, hdrop⟩ := takeWhile_append_of_stop hwhole fun c hc => (hrest c hc).1
  cases rest with
  | nil =>
      rw [List.append_nil] at htake hdrop ⊢
      simp [takeDecimal, htake, hdrop, hne, digitsValue]
  | cons c rest =>
      have hpoint : c ≠ '.' := (hrest c rfl).2
      simp [takeDecimal, htake, hdrop, hne, hpoint, digitsValue]

/-! ## The forms of a text -/

/-- Digits with the point or the exponent that says where they stand. -/
def markedDigits (digits : List Char) (k : Int) : List Char :=
  if -5 ≤ k - 1 && k - 1 < 16 then
    let text := Binary64.positional digits k
    if text.contains '.' then text else text ++ ['.', '0']
  else
    let fraction := match digits.drop 1 with
      | [] => []
      | more => '.' :: more
    let exponent := if k - 1 < 0 then intText (k - 1) else '+' :: intText (k - 1)
    digits.take 1 ++ fraction ++ 'e' :: exponent

theorem markedText_eq (x : Binary64) :
    x.markedText = Binary64.signText x.negative ++
      if x.isZero then ['0', '.', '0']
      else markedDigits x.shortestDigits.1 x.shortestDigits.2 := rfl

/-- The exponent of a text, after its letter. -/
def exponentText (e : Int) : List Char := if e < 0 then intText e else '+' :: intText e

theorem takeExponent_exponentText (e : Int) :
    takeExponent ('e' :: exponentText e) = some e := by
  have hread : intOfText? (exponentText e) = some e := by
    rw [exponentText]
    split
    · exact intOfText?_intText e
    · next hpos =>
        have htext : intText e = natText e.natAbs := if_neg hpos
        have habs : (e.natAbs : Int) = e := by omega
        rw [htext, intOfText?, takeSign]
        dsimp only
        rw [natOfDigits?_natText]
        exact congrArg some habs
  exact hread

variable {digits : List Char} {k : Int}

/-- A text with a point and no exponent: the digits before and after the point denote what the
digits denote at their place. -/
def IsPointed (digits : List Char) (k : Int) (text : List Char) : Prop :=
  ∃ whole fraction, text = whole ++ '.' :: fraction ∧ whole ≠ [] ∧
    (∀ c ∈ whole, c.isDigit = true) ∧ (∀ c ∈ fraction, c.isDigit = true) ∧
    decimal (digitsValue 0 (whole ++ fraction)) (-fraction.length) =
      decimal (digitsValue 0 digits) (k - digits.length)

/-- Where the digits stand behind the point, with zeros before them. -/
theorem isPointed_of_nonpos (hdigits : ∀ c ∈ digits, c.isDigit = true) (hk : k ≤ 0) :
    IsPointed digits k (Binary64.positional digits k) := by
  refine ⟨['0'], List.replicate (-k).toNat '0' ++ digits, ?_, List.cons_ne_nil _ _, ?_, ?_, ?_⟩
  · rw [Binary64.positional, if_pos hk]
    rfl
  · intro c hc
    rw [List.mem_singleton.mp hc]
    rfl
  · intro c hc
    rcases List.mem_append.mp hc with hzero | hdigit
    · exact isDigit_of_mem_zeros hzero
    · exact hdigits c hdigit
  · have hvalue : digitsValue 0 (['0'] ++ (List.replicate (-k).toNat '0' ++ digits)) =
        digitsValue 0 digits := by
      rw [digitsValue_append, digitsValue_append, digitsValue_zeros]
      congr 1
      exact Nat.zero_mul _
    rw [hvalue, List.length_append, List.length_replicate]
    congr 1
    push_cast
    omega

/-- Where the digits stand before the point, with zeros behind them. -/
theorem isPointed_of_length_le (hne : digits ≠ []) (hdigits : ∀ c ∈ digits, c.isDigit = true)
    (hk : 0 < k) (hlength : digits.length ≤ k.toNat) :
    IsPointed digits k (Binary64.positional digits k ++ ['.', '0']) := by
  refine ⟨digits ++ List.replicate (k.toNat - digits.length) '0', ['0'], ?_, ?_, ?_, ?_, ?_⟩
  · rw [Binary64.positional, if_neg (by omega), if_pos hlength]
  · simp [hne]
  · intro c hc
    rcases List.mem_append.mp hc with hdigit | hzero
    · exact hdigits c hdigit
    · exact isDigit_of_mem_zeros hzero
  · intro c hc
    rw [List.mem_singleton.mp hc]
    rfl
  · have hvalue : digitsValue 0 (digits ++ List.replicate (k.toNat - digits.length) '0' ++ ['0']) =
        digitsValue 0 digits * 10 ^ (k.toNat - digits.length) * 10 := by
      rw [digitsValue_append, digitsValue_append, digitsValue_zeros]
      exact Nat.mul_comm 10 _
    have hexponent : k - digits.length = (k.toNat - digits.length : Nat) := by omega
    rw [hvalue, hexponent, decimal, decimal, zpow_natCast]
    push_cast
    rw [List.length_singleton]
    norm_num
    ring

/-- Where the point stands between the digits. -/
theorem isPointed_of_lt_length (hdigits : ∀ c ∈ digits, c.isDigit = true) (hk : 0 < k)
    (hlength : k.toNat < digits.length) : IsPointed digits k (Binary64.positional digits k) := by
  refine ⟨digits.take k.toNat, digits.drop k.toNat, ?_, ?_, ?_, ?_, ?_⟩
  · rw [Binary64.positional, if_neg (by omega), if_neg (by omega)]
  · rw [Ne, List.take_eq_nil_iff]
    rintro (hzero | hnil)
    · omega
    · rw [hnil] at hlength
      contradiction
  · intro c hc
    exact hdigits c (List.mem_of_mem_take hc)
  · intro c hc
    exact hdigits c (List.mem_of_mem_drop hc)
  · rw [List.take_append_drop, List.length_drop]
    congr 1
    omega

theorem IsPointed.point_mem {text : List Char} (h : IsPointed digits k text) : '.' ∈ text := by
  obtain ⟨whole, fraction, rfl, -⟩ := h
  exact List.mem_append_right _ List.mem_cons_self

/-- Zero has one digit before the point and one after it. -/
theorem isPointed_zero : IsPointed ['0'] 0 ['0', '.', '0'] := by
  have hzero : ∀ c ∈ ['0'], c.isDigit = true := by
    intro c hc
    rw [List.mem_singleton.mp hc]
    rfl
  exact ⟨['0'], ['0'], rfl, List.cons_ne_nil _ _, hzero, hzero, rfl⟩

/-- A text has a point and no exponent, or an exponent after its first digit and a fraction, if there is
one. -/
theorem markedDigits_cases (k : Int) (hne : digits ≠ []) (hdigits : ∀ c ∈ digits, c.isDigit = true) :
    IsPointed digits k (markedDigits digits k) ∨
      ∃ c more, digits = c :: more ∧ markedDigits digits k =
        c :: ((if more = [] then [] else '.' :: more) ++ 'e' :: exponentText (k - 1)) := by
  have hpoint : '.' ∉ digits := by
    intro hmem
    exact absurd (hdigits _ hmem) (by decide)
  rw [markedDigits]
  by_cases hplain : (-5 ≤ k - 1 && k - 1 < 16) = true
  · left
    rw [if_pos hplain]
    dsimp only
    by_cases hk : k ≤ 0
    · have hpointed := isPointed_of_nonpos hdigits hk
      rw [if_pos (List.contains_iff_mem.mpr hpointed.point_mem)]
      exact hpointed
    · by_cases hlength : digits.length ≤ k.toNat
      · have hnone : (Binary64.positional digits k).contains '.' = false := by
          rw [Binary64.positional, if_neg hk, if_pos hlength]
          simp [hpoint, List.mem_replicate]
        rw [hnone]
        exact isPointed_of_length_le hne hdigits (by omega) hlength
      · have hpointed := isPointed_of_lt_length hdigits (by omega) (Nat.lt_of_not_le hlength)
        rw [if_pos (List.contains_iff_mem.mpr hpointed.point_mem)]
        exact hpointed
  · right
    rw [if_neg hplain]
    cases digits with
    | nil => exact absurd rfl hne
    | cons c more =>
        refine ⟨c, more, rfl, ?_⟩
        cases more <;> rfl

/-! ## What a text denotes -/

theorem IsPointed.denoted? {text : List Char} (h : IsPointed digits k text) :
    denoted? text = some (decimal (digitsValue 0 digits) (k - digits.length)) := by
  obtain ⟨whole, fraction, rfl, hne, hwhole, hfraction, hvalue⟩ := h
  have htake := takeDecimal_fraction hne hwhole hfraction
    (fun c (hc : c ∈ [].head?) => by contradiction)
  rw [List.append_nil] at htake
  rw [Number.denoted?, htake, ← hvalue]
  simp [takeExponent]

/-- The text of digits denotes what the digits denote at their place. -/
theorem denoted?_markedDigits (hne : digits ≠ []) (hdigits : ∀ c ∈ digits, c.isDigit = true) :
    denoted? (markedDigits digits k) =
      some (decimal (digitsValue 0 digits) (k - digits.length)) := by
  rcases markedDigits_cases k hne hdigits with hpointed | ⟨c, more, rfl, htext⟩
  · exact hpointed.denoted?
  · have hc : ∀ d ∈ [c], d.isDigit = true := by
      intro d hd
      rw [List.mem_singleton.mp hd]
      exact hdigits c List.mem_cons_self
    have hmore : ∀ d ∈ more, d.isDigit = true := fun d hd => hdigits d (List.mem_cons_of_mem _ hd)
    have hletter : ∀ d ∈ ('e' :: exponentText (k - 1)).head?, d.isDigit = false ∧ d ≠ '.' := by
      intro d hd
      obtain rfl := Option.some.inj hd
      exact ⟨rfl, by decide⟩
    have hexponent : k - 1 - more.length = k - (c :: more).length := by
      rw [List.length_cons]
      omega
    rw [htext, denoted?]
    by_cases hnil : more = []
    · subst hnil
      have htake := takeDecimal_whole (List.cons_ne_nil c []) hc hletter
      rw [if_pos rfl, List.nil_append]
      rw [List.singleton_append] at htake
      rw [htake, ← hexponent]
      simp [takeExponent_exponentText]
    · have htake := takeDecimal_fraction (List.cons_ne_nil c []) hc hmore
        (fun d hd => (hletter d hd).1)
      rw [List.singleton_append, List.singleton_append] at htake
      rw [if_neg hnil, List.cons_append, htake, ← hexponent]
      simp [takeExponent_exponentText]

/-- The text of a magnitude. -/
def magnitudeText (x : Binary64) : List Char :=
  if x.isZero then ['0', '.', '0'] else markedDigits x.shortestDigits.1 x.shortestDigits.2

variable {x y : Binary64}

/-- The text of a magnitude denotes zero, or a number in the interval of the value. -/
theorem denoted?_magnitudeText (x : Binary64) :
    ∃ q, denoted? (magnitudeText x) = some q ∧
      (x.isZero = true ∧ q = 0 ∨ x.isZero = false ∧ x.Covers q) := by
  cases hzero : x.isZero with
  | true =>
      refine ⟨decimal (digitsValue 0 ['0']) (0 - ['0'].length), ?_, .inl ⟨rfl, ?_⟩⟩
      · rw [magnitudeText, if_pos hzero]
        exact isPointed_zero.denoted?
      · simp [decimal, digitsValue, digitValue]
  | false =>
      refine ⟨_, ?_, .inr ⟨rfl, Binary64.covers_shortestDigits hzero⟩⟩
      rw [magnitudeText, if_neg (by simp [hzero])]
      exact denoted?_markedDigits (Binary64.shortestDigits_ne_nil hzero)
        fun c hc => Binary64.isDigit_of_mem_shortestDigits hzero hc

/-- The text of a magnitude begins with a digit, so not with a sign. -/
theorem exists_magnitudeText_eq (x : Binary64) :
    ∃ c rest, magnitudeText x = c :: rest ∧ c.isDigit = true := by
  rw [magnitudeText]
  cases hzero : x.isZero with
  | true => exact ⟨'0', ['.', '0'], rfl, rfl⟩
  | false =>
      have hdigits : ∀ c ∈ x.shortestDigits.1, c.isDigit = true :=
        fun c hc => Binary64.isDigit_of_mem_shortestDigits hzero hc
      rw [if_neg Bool.false_ne_true]
      rcases markedDigits_cases x.shortestDigits.2 (Binary64.shortestDigits_ne_nil hzero) hdigits with
        ⟨whole, fraction, htext, hne, hwhole, -⟩ | ⟨c, more, hcons, htext⟩
      · cases whole with
        | nil => exact absurd rfl hne
        | cons c whole => exact ⟨c, _, htext, hwhole c List.mem_cons_self⟩
      · exact ⟨c, _, htext, hdigits c (hcons ▸ List.mem_cons_self)⟩

/-- A character of the text of a number. -/
def IsNumberChar (c : Char) : Prop := c.isDigit = true ∨ c ∈ ['-', '+', '.', 'e']

/-- Whether a text is marked as that of a floating number. -/
def IsMarked (text : List Char) : Prop := '.' ∈ text ∨ 'e' ∈ text

theorem isNumberChar_of_mem_exponentText {e : Int} {c : Char} (h : c ∈ exponentText e) :
    IsNumberChar c := by
  have hint (hmem : c ∈ intText e) : IsNumberChar c := by
    rcases isDigit_of_mem_intText hmem with rfl | hdigit
    · exact .inr (by decide)
    · exact .inl hdigit
  rw [exponentText] at h
  split at h
  · exact hint h
  · rcases List.mem_cons.mp h with rfl | hmem
    · exact .inr (by decide)
    · exact hint hmem

theorem IsPointed.isNumberChar {text : List Char} (h : IsPointed digits k text) :
    ∀ c ∈ text, IsNumberChar c := by
  obtain ⟨whole, fraction, rfl, -, hwhole, hfraction, -⟩ := h
  intro c hc
  rcases List.mem_append.mp hc with hmem | hmem
  · exact .inl (hwhole c hmem)
  · rcases List.mem_cons.mp hmem with rfl | hmem
    · exact .inr (by decide)
    · exact .inl (hfraction c hmem)

/-- The text of digits has characters of numbers only, a point or an exponent among them. -/
theorem isMarked_markedDigits (hne : digits ≠ []) (hdigits : ∀ c ∈ digits, c.isDigit = true) :
    (∀ c ∈ markedDigits digits k, IsNumberChar c) ∧ IsMarked (markedDigits digits k) := by
  rcases markedDigits_cases k hne hdigits with hpointed | ⟨c, more, rfl, htext⟩
  · exact ⟨hpointed.isNumberChar, .inl hpointed.point_mem⟩
  · rw [htext]
    refine ⟨fun d hd => ?_, .inr (by simp)⟩
    rcases List.mem_cons.mp hd with rfl | hd
    · exact .inl (hdigits d List.mem_cons_self)
    · rcases List.mem_append.mp hd with hmem | hmem
      · split at hmem
        · contradiction
        · rcases List.mem_cons.mp hmem with rfl | hmem
          · exact .inr (by decide)
          · exact .inl (hdigits d (List.mem_cons_of_mem _ hmem))
      · rcases List.mem_cons.mp hmem with rfl | hmem
        · exact .inr (by decide)
        · exact isNumberChar_of_mem_exponentText hmem

theorem isMarked_magnitudeText (x : Binary64) :
    (∀ c ∈ magnitudeText x, IsNumberChar c) ∧ IsMarked (magnitudeText x) := by
  rw [magnitudeText]
  cases hzero : x.isZero with
  | true => exact ⟨isPointed_zero.isNumberChar, .inl isPointed_zero.point_mem⟩
  | false =>
      exact isMarked_markedDigits (Binary64.shortestDigits_ne_nil hzero)
        fun c hc => Binary64.isDigit_of_mem_shortestDigits hzero hc

theorem isMarked_markedText (x : Binary64) :
    (∀ c ∈ x.markedText, IsNumberChar c) ∧ IsMarked x.markedText := by
  obtain ⟨hchars, hmarked⟩ := isMarked_magnitudeText x
  rw [markedText_eq, ← magnitudeText]
  refine ⟨fun c hc => ?_, ?_⟩
  · rcases List.mem_append.mp hc with hsign | hmem
    · rw [Binary64.signText] at hsign
      split at hsign
      · exact .inr (by simp [List.mem_singleton.mp hsign])
      · contradiction
    · exact hchars c hmem
  · exact hmarked.imp (List.mem_append_right _) (List.mem_append_right _)

/-- The text of an integer is not so marked. -/
theorem not_isMarked_intText (n : Int) : ¬ IsMarked (intText n) := by
  rintro (hpoint | hletter)
  · rcases isDigit_of_mem_intText hpoint with hsign | hdigit
    · exact absurd hsign (by decide)
    · exact absurd hdigit (by decide)
  · rcases isDigit_of_mem_intText hletter with hsign | hdigit
    · exact absurd hsign (by decide)
    · exact absurd hdigit (by decide)

/-- Zero has one form. -/
theorem exponent_of_isZero (hzero : x.isZero = true) :
    x.significand = 0 ∧ x.exponent = -1074 := by
  have hsignificand : x.significand = 0 := beq_iff_eq.mp hzero
  obtain ⟨-, -, -, hfull⟩ := x.canonical
  rcases hfull with hfull | hleast
  · rw [hsignificand] at hfull
    exact absurd hfull (by decide)
  · exact ⟨hsignificand, hleast⟩

/-- The text of a floating number tells it. -/
theorem markedText_inj (h : x.markedText = y.markedText) : x = y := by
  rw [markedText_eq, markedText_eq, ← magnitudeText, ← magnitudeText] at h
  obtain ⟨c, rest, hx, hc⟩ := exists_magnitudeText_eq x
  obtain ⟨d, rest', hy, hd⟩ := exists_magnitudeText_eq y
  have hminus : '-'.isDigit = false := rfl
  have hsign : x.negative = y.negative := by
    cases hxsign : x.negative with
    | true =>
        cases hysign : y.negative with
        | true => rfl
        | false =>
            rw [hxsign, hysign, hy] at h
            have hhead : '-' = d := (List.cons.inj h).1
            rw [← hhead] at hd
            exact absurd hd (by decide)
    | false =>
        cases hysign : y.negative with
        | false => rfl
        | true =>
            rw [hxsign, hysign, hx] at h
            have hhead : c = '-' := (List.cons.inj h).1
            rw [hhead] at hc
            exact absurd hc (by decide)
  rw [hsign] at h
  have htext := List.append_cancel_left h
  obtain ⟨q, hq, hxq⟩ := denoted?_magnitudeText x
  obtain ⟨r, hr, hyr⟩ := denoted?_magnitudeText y
  rw [htext, hr] at hq
  obtain rfl := Option.some.inj hq
  have hsame : x.significand = y.significand ∧ x.exponent = y.exponent := by
    rcases hxq with ⟨hxzero, hzero⟩ | ⟨hxzero, hxcovers⟩
    · rcases hyr with ⟨hyzero, -⟩ | ⟨hyzero, hycovers⟩
      · obtain ⟨hxs, hxe⟩ := exponent_of_isZero hxzero
        obtain ⟨hys, hye⟩ := exponent_of_isZero hyzero
        exact ⟨hxs.trans hys.symm, hxe.trans hye.symm⟩
      · exact absurd hzero (Binary64.pos_of_covers hyzero hycovers).ne'
    · rcases hyr with ⟨-, hzero⟩ | ⟨-, hycovers⟩
      · exact absurd hzero (Binary64.pos_of_covers hxzero hxcovers).ne'
      · exact Binary64.eq_of_covers hxcovers hycovers
  cases x
  cases y
  simp_all

end DynamicContent.Number
