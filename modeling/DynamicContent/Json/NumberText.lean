/-
# Numbers in JSON text

A number without fraction and exponent is an integer as long as it fits into 64 bits, signed if it is
negative. Every other number is floating: as many leading digits as fit into 64 bits form an integer,
and a power of ten, itself rounded, scales it in one rounded step. Digits beyond those count only by
their place.
-/

import DynamicContent.Json.Basic

namespace DynamicContent.Json

open Number (Binary64)

/-- The digits read so far, as an integer that fits into 64 bits, and the power of ten it stands for. -/
structure Significand where
  value : Nat
  exponent : Int
  full : Bool

namespace Significand

/-- Reads a digit before the point. Once a digit does not fit, it and all later ones raise the
power of ten. -/
def addWhole (s : Significand) (c : Char) : Significand :=
  let value := 10 * s.value + Number.digitValue c
  if s.full || Number.nat64Max < value then { s with exponent := s.exponent + 1, full := true }
  else { s with value }

/-- Reads a digit after the point. Once a digit does not fit, it and all later ones are dropped. -/
def addFraction (s : Significand) (c : Char) : Significand :=
  let value := 10 * s.value + Number.digitValue c
  if s.full || Number.nat64Max < value then { s with full := true }
  else { s with value, exponent := s.exponent - 1 }

end Significand

/-- A power of ten, rounded. -/
def powerOfTen (n : Nat) : Binary64 := (Binary64.ofRatio? false (Nat.pow 10 n) 1).getD default

/-- Divides by `10 ^ 308` as often as given, or until the value is zero. -/
def scaleDown (by308 : Binary64) : Nat → Binary64 → Option Binary64
  | 0, x => some x
  | n + 1, x => if x.isZero then some x else (x.div? by308).bind (scaleDown by308 n)

/-- Scales by a power of ten. Powers beyond the range of the format are taken off in steps of 308
downwards, and are an error upwards unless the value is zero. -/
def scaleByTen (x : Binary64) (exponent : Int) : Option Binary64 :=
  if 0 ≤ exponent then
    if exponent ≤ 308 then x.mul? (powerOfTen exponent.toNat)
    else if x.isZero then some x else none
  else do
    let places := (-exponent).toNat
    let steps := (places - 1) / 308
    let y ← scaleDown (powerOfTen 308) steps x
    y.div? (powerOfTen (places - 308 * steps))

/-- The floating number of a sign, a significand and an exponent. -/
def floatOf? (negative : Bool) (s : Significand) (exponent : Int) : Option Json := do
  let x ← scaleByTen (← Binary64.ofRatio? false s.value 1) (s.exponent + exponent)
  some (float (if negative then x.neg else x))

/-- The number of an integer without fraction and exponent. Minus zero and whatever does not fit is
floating. -/
def integerOf? (negative : Bool) (digits : List Char) : Option Json :=
  let n := Number.digitsValue 0 digits
  if !negative && n ≤ Number.nat64Max then some (int n)
  else if negative && 0 < n && n ≤ 9223372036854775808 then some (int (-n))
  else floatOf? negative (digits.foldl Significand.addWhole ⟨0, 0, false⟩) 0

/-- The greatest exponent that is read as a number. -/
def exponentLimit : Nat := 2147483647

/-- Reads an exponent after its letter: its value and what follows. -/
def takeExponent? (cs : List Char) : Option (Int × List Char) :=
  let (negative, cs) := Number.takeSign cs
  let digits := cs.takeWhile Char.isDigit
  if digits.isEmpty then none
  else
    let n : Int := Number.digitsValue 0 digits
    some (if negative then -n else n, cs.dropWhile Char.isDigit)

/-- The floating number after a significand: an exponent may follow. An exponent over the limit
gives zero if it is negative or the significand is zero, and is an error otherwise. -/
def takeScaled? (negative : Bool) (s : Significand) : List Char → Option (Json × List Char)
  | c :: cs =>
    if c == 'e' || c == 'E' then do
      let (exponent, rest) ← takeExponent? cs
      if exponentLimit < exponent.natAbs then
        if s.value != 0 && 0 < exponent then none
        else some (float (Binary64.zero negative), rest)
      else
        let value ← floatOf? negative s exponent
        some (value, rest)
    else (floatOf? negative s 0).map (·, c :: cs)
  | [] => (floatOf? negative s 0).map (·, [])

/-- Reads a number at the front of a text. -/
def takeNumber? (cs : List Char) : Option (Json × List Char) :=
  let (negative, cs) := match cs with
    | '-' :: rest => (true, rest)
    | _ => (false, cs)
  let whole := cs.takeWhile Char.isDigit
  let rest := cs.dropWhile Char.isDigit
  if whole.isEmpty || (whole.head? == some '0' && 1 < whole.length) then none
  else
    let start := whole.foldl Significand.addWhole ⟨0, 0, false⟩
    match rest with
    | '.' :: more =>
      let fraction := more.takeWhile Char.isDigit
      if fraction.isEmpty then none
      else
        let s := fraction.foldl Significand.addFraction { start with full := false }
        takeScaled? negative s (more.dropWhile Char.isDigit)
    | 'e' :: _ | 'E' :: _ => takeScaled? negative start rest
    | _ => (integerOf? negative whole).map (·, rest)

end DynamicContent.Json
