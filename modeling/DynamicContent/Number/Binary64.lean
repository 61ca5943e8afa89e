/-
# Binary floating point of 64 bits

A finite value is a sign, a significand and a power of two, in the one form that the interchange
format has for it, so equal values with equal signs are equal terms. Everything is exact integer
arithmetic: a ratio is rounded once, to the nearest value, and of two equally near ones to the one
with the even significand.
-/

import DynamicContent.Number.Integer

namespace DynamicContent.Number

/-- The least significand of 53 bits. -/
def leastFull : Nat := 4503599627370496

/-- The pairs of significand and exponent that the format has: at most 53 bits, the exponent in
range, and all 53 bits used unless the exponent is the least. -/
def IsCanonical (significand : Nat) (exponent : Int) : Prop :=
  significand < 2 * leastFull ∧ -1074 ≤ exponent ∧ exponent ≤ 971 ∧
    (leastFull ≤ significand ∨ exponent = -1074)

instance (m : Nat) (e : Int) : Decidable (IsCanonical m e) :=
  inferInstanceAs (Decidable (_ ∧ _))

/-- A finite value `± significand * 2 ^ exponent`. -/
structure Binary64 where
  negative : Bool
  significand : Nat
  exponent : Int
  canonical : IsCanonical significand exponent
deriving DecidableEq

/-- A value of the format, finite or not. -/
inductive Extended64 where
  | finite (value : Binary64)
  | infinite (negative : Bool)
  | notANumber (negative : Bool)
deriving DecidableEq

/-- The integer nearest to `num / den`, the even one of two. -/
def divRoundEven (num den : Nat) : Nat :=
  let q := num / den
  let r := num % den
  if 2 * r < den || (2 * r == den && q % 2 == 0) then q else q + 1

namespace Binary64

/-- Zero with a sign. -/
def zero (negative : Bool) : Binary64 := ⟨negative, 0, -1074, by decide⟩

instance : Inhabited Binary64 := ⟨zero false⟩

/-- Whether the value is zero, of either sign. -/
def isZero (x : Binary64) : Bool := x.significand == 0

/-- The value with a plus sign. -/
def abs (x : Binary64) : Binary64 := { x with negative := false }

/-- The value with the sign turned. -/
def neg (x : Binary64) : Binary64 := { x with negative := !x.negative }

/-- The magnitude as a ratio of natural numbers. -/
def ratio (x : Binary64) : Nat × Nat :=
  (x.significand * Nat.pow 2 x.exponent.toNat, Nat.pow 2 (-x.exponent).toNat)

/-- The exponent at which `num / den` fills all 53 bits, or the least exponent. -/
def exponentOfRatio (num den : Nat) : Int :=
  let e : Int := (num.log2 : Int) - den.log2 - 52
  let e := if num * Nat.pow 2 (-e).toNat < leastFull * (den * Nat.pow 2 e.toNat) then e - 1 else e
  max e (-1074)

/-- The value nearest to `num / den`; `none` if that is beyond the greatest finite value. -/
def ofRatio? (negative : Bool) (num den : Nat) : Option Binary64 :=
  if num = 0 then some (zero negative)
  else
    let e := exponentOfRatio num den
    let m := divRoundEven (num * Nat.pow 2 (-e).toNat) (den * Nat.pow 2 e.toNat)
    let (m, e) := if m = 2 * leastFull then (leastFull, e + 1) else (m, e)
    if h : IsCanonical m e then some ⟨negative, m, e, h⟩ else none

/-- The value nearest to an integer. -/
def ofInt? (n : Int) : Option Binary64 := ofRatio? (decide (n < 0)) n.natAbs 1

/-- The value nearest to `digits * 10 ^ exponent`. Exponents far outside the range are decided by
the number of digits alone, so their powers of ten are never computed. -/
def ofDecimal? (negative : Bool) (digits : Nat) (exponent : Int) : Option Binary64 :=
  let size : Int := (natText digits).length + exponent
  if digits = 0 || size < -400 then some (zero negative)
  else if 400 < size then none
  else ofRatio? negative (digits * Nat.pow 10 exponent.toNat) (Nat.pow 10 (-exponent).toNat)

/-- The product, rounded. -/
def mul? (x y : Binary64) : Option Binary64 :=
  let (a, b) := x.ratio
  let (c, d) := y.ratio
  ofRatio? (x.negative != y.negative) (a * c) (b * d)

/-- The quotient by a value that is not zero, rounded. -/
def div? (x y : Binary64) : Option Binary64 :=
  let (a, b) := x.ratio
  let (c, d) := y.ratio
  ofRatio? (x.negative != y.negative) (a * d) (b * c)

/-- The value in units of the least positive one, as an integer. -/
def units (x : Binary64) : Int :=
  let n : Int := x.significand * Nat.pow 2 (x.exponent + 1074).toNat
  if x.negative then -n else n

end Binary64

namespace Extended64

/-- The order of two values; with a value that is not a number there is none. -/
def compare? : Extended64 → Extended64 → Option Ordering
  | notANumber _, _ | _, notANumber _ => none
  | finite x, finite y => some (compare x.units y.units)
  | infinite a, infinite b => some (compare b a)
  | infinite a, finite _ => some (if a then .lt else .gt)
  | finite _, infinite b => some (if b then .gt else .lt)

/-- Whether the sign is a minus, also of zero. -/
def isNegative : Extended64 → Bool
  | finite x => x.negative
  | infinite s => s
  | notANumber s => s

/-- Reads digits and an optional fraction: the digits of both as one number, the length of the
fraction, and what follows. -/
def takeDecimal (cs : List Char) : Option (Nat × Nat × List Char) :=
  let whole := cs.takeWhile Char.isDigit
  let rest := cs.dropWhile Char.isDigit
  let (fraction, rest) := match rest with
    | '.' :: more => (more.takeWhile Char.isDigit, more.dropWhile Char.isDigit)
    | _ => ([], rest)
  if whole.isEmpty && fraction.isEmpty then none
  else some (digitsValue (digitsValue 0 whole) fraction, fraction.length, rest)

/-- Reads an exponent that extends to the end of the text. -/
def takeExponent : List Char → Option Int
  | [] => some 0
  | c :: cs => if c == 'e' || c == 'E' then intOfText? cs else none

/-- The value that a decimal text denotes: an optional sign, then digits with an optional fraction
and exponent, or one of the words for infinity and for a value that is not a number, in any case. -/
def ofText? (s : List Char) : Option Extended64 :=
  let (negative, cs) := takeSign s
  let word := String.ofList (cs.map Char.toLower)
  if word == "inf" || word == "infinity" then some (infinite negative)
  else if word == "nan" then some (notANumber negative)
  else do
    let (digits, places, rest) ← takeDecimal cs
    let exponent ← takeExponent rest
    match Binary64.ofDecimal? negative digits (exponent - places) with
    | some x => some (finite x)
    | none => some (infinite negative)

end Extended64

end DynamicContent.Number
