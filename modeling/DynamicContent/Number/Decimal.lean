/-
# Decimal text of binary values

Two ways to write a binary value in decimal. The shortest digits are the fewest that read back as
the same value, and of those the nearest to it. Fixed places round the exact value once.
-/

import DynamicContent.Number.Binary64

namespace DynamicContent.Number

namespace Binary64

/-- The decimals that read back as `x` lie between two ratios with one denominator: lower end, value,
upper end, denominator. -/
def readBackInterval (x : Binary64) : Nat × Nat × Nat × Nat :=
  let low := if x.significand = leastFull && x.exponent > -1074 then 1 else 2
  let scale := Nat.pow 2 x.exponent.toNat
  let den := 4 * Nat.pow 2 (-x.exponent).toNat
  ((4 * x.significand - low) * scale, 4 * x.significand * scale, (4 * x.significand + 2) * scale, den)

/-- The number `k` with `10 ^ (k - 1) ≤ num / den < 10 ^ k`, for ratios that are not below every
positive value of the format. -/
def decimalMagnitude (num den : Nat) : Int :=
  ((natText (num * Nat.pow 10 340 / den)).length : Int) - 340

/-- A decimal with `places` digits that reads back as the value, if one exists: of the two
neighbours of the value on that grid the nearer one, or the even one. -/
def digitsOfLength? (x : Binary64) (k : Int) (places : Nat) : Option Nat :=
  let (low, value, high, den) := x.readBackInterval
  let grid := k - places
  let up := Nat.pow 10 (-grid).toNat
  let step := den * Nat.pow 10 grid.toNat
  let d := value * up / step
  let closed := x.significand % 2 == 0
  let lowOk := if closed then low * up ≤ d * step else low * up < d * step
  let highOk := if closed then (d + 1) * step ≤ high * up else (d + 1) * step < high * up
  match decide lowOk, decide highOk with
  | true, true =>
    let below := value * up - d * step
    let above := (d + 1) * step - value * up
    if below < above || (below == above && d % 2 == 0) then some d else some (d + 1)
  | true, false => some d
  | false, true => some (d + 1)
  | false, false => none

/-- The shortest digits of a value that is not zero, without trailing zeros, and the number `k` for
which the value is `0.d₁d₂… * 10 ^ k`. -/
def shortestDigits (x : Binary64) : List Char × Int :=
  let (_, value, _, den) := x.readBackInterval
  let k := decimalMagnitude value den
  match (List.range 17).findSome? fun i => (x.digitsOfLength? k (i + 1)).map (·, i + 1) with
  | none => (['0'], 1)
  | some (d, places) =>
    let digits := natText d
    let k := k + ((digits.length : Int) - places)
    ((digits.reverse.dropWhile (· == '0')).reverse, k)

/-- Digits with the point after the first `k` of them, filled with zeros; no point if nothing would
follow it. -/
def positional (digits : List Char) (k : Int) : List Char :=
  if k ≤ 0 then '0' :: '.' :: (List.replicate (-k).toNat '0' ++ digits)
  else if digits.length ≤ k.toNat then digits ++ List.replicate (k.toNat - digits.length) '0'
  else digits.take k.toNat ++ '.' :: digits.drop k.toNat

/-- The sign of a value, as text. -/
def signText (negative : Bool) : List Char := if negative then ['-'] else []

/-- Shortest digits without an exponent; a whole number has no point. -/
def plainText (x : Binary64) : List Char :=
  signText x.negative ++
    if x.isZero then ['0']
    else
      let (digits, k) := x.shortestDigits
      positional digits k

/-- Shortest digits that show the value is not an integer type: positional with at least one digit
after the point from `0.00001` up to below `10 ^ 16`, otherwise with a signed exponent. -/
def markedText (x : Binary64) : List Char :=
  signText x.negative ++
    if x.isZero then ['0', '.', '0']
    else
      let (digits, k) := x.shortestDigits
      if -5 ≤ k - 1 && k - 1 < 16 then
        let text := positional digits k
        if text.contains '.' then text else text ++ ['.', '0']
      else
        let fraction := match digits.drop 1 with
          | [] => []
          | more => '.' :: more
        let exponent := if k - 1 < 0 then intText (k - 1) else '+' :: intText (k - 1)
        digits.take 1 ++ fraction ++ 'e' :: exponent

/-- The magnitude with `places` digits after the point, rounded from the exact value; a half goes to
the even neighbour. -/
def fixedText (x : Binary64) (places : Nat) : List Char :=
  let (num, den) := x.ratio
  let digits := natText (divRoundEven (num * Nat.pow 10 places) den)
  let digits := List.replicate (places + 1 - digits.length) '0' ++ digits
  let whole := digits.length - places
  if places = 0 then digits else digits.take whole ++ '.' :: digits.drop whole

end Binary64

/-- The text of a magnitude with fixed places, or the name of a value that is not finite. -/
def Extended64.fixedText (x : Extended64) (places : Nat) : List Char :=
  match x with
  | .finite x => x.fixedText places
  | .infinite _ => "inf".toList
  | .notANumber _ => "NaN".toList

/-- Writes a comma before every character that is followed by itself and two more, or by itself and
any further multiple of three, except at the front. -/
def groupThousands : List Char → List Char
  | [] => []
  | [c] => [c]
  | c :: cs => if cs.length % 3 == 0 then c :: ',' :: groupThousands cs else c :: groupThousands cs

/-- Fixed places with thousands grouped by commas. The sign is written only before a text with a
digit other than zero. -/
def Extended64.groupedText (x : Extended64) (places : Nat) : List Char :=
  let fixed := x.fixedText places
  let whole := fixed.takeWhile (· != '.')
  let fraction := fixed.dropWhile (· != '.')
  let isZero := fixed.all fun c => c == '0' || c == '.'
  (if x.isNegative && !isZero then ['-'] else []) ++ groupThousands whole ++ fraction

end DynamicContent.Number
