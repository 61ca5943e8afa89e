/-
# Punycode

The coding of a label of a domain name in ASCII. The ASCII characters come first; the others follow
as differences of code point and place, in a variable-length code of base 36 whose thresholds adapt.
-/

namespace DynamicContent.Url.Punycode

/-- The digits `a` to `z` and `0` to `9`. -/
def digit (n : Nat) : Char := if n < 26 then Char.ofNat (97 + n) else Char.ofNat (22 + n)

/-- The value of a digit in any case. -/
def digitValue? (c : Char) : Option Nat :=
  if 'a' ≤ c && c ≤ 'z' then some (c.toNat - 97)
  else if 'A' ≤ c && c ≤ 'Z' then some (c.toNat - 65)
  else if c.isDigit then some (c.toNat - 22)
  else none

/-- The threshold of the digit at position `k`, counted in steps of 36. -/
def threshold (k bias : Nat) : Nat := if k ≤ bias then 1 else if bias + 26 ≤ k then 26 else k - bias

/-- Divides by 35 until the value is at most 455, and counts the divisions. -/
def shrink (delta : Nat) : Nat × Nat :=
  if delta ≤ 455 then (delta, 0)
  else
    let (value, count) := shrink (delta / 35)
    (value, count + 1)
termination_by delta

/-- The bias after a difference has been coded. -/
def adapt (delta count : Nat) (first : Bool) : Nat :=
  let delta := if first then delta / 700 else delta / 2
  let (value, steps) := shrink (delta + delta / count)
  36 * steps + 36 * value / (value + 38)

/-- The digits of a difference. The first argument bounds their number. -/
def encodeNumber (bias : Nat) : Nat → Nat → Nat → List Char
  | 0, _, _ => []
  | n + 1, k, q =>
    let t := threshold k bias
    if q < t then [digit q]
    else digit (t + (q - t) % (36 - t)) :: encodeNumber bias n (k + 36) ((q - t) / (36 - t))

/-- The state of a coding: the code point reached, the difference collected, the bias, the number of
characters written. -/
structure State where
  point : Nat
  delta : Nat
  bias : Nat
  written : Nat

/-- Codes the places at which one code point occurs. -/
def encodePoint (basic : Nat) (point : Nat) : State → List Char → List Char × State
  | s, [] => ([], s)
  | s, c :: cs =>
    if c.toNat < point then encodePoint basic point { s with delta := s.delta + 1 } cs
    else if c.toNat == point then
      let code := encodeNumber s.bias (s.delta + 1) 36 s.delta
      let bias := adapt s.delta (s.written + 1) (s.written == basic)
      let (more, s) := encodePoint basic point { s with delta := 0, bias, written := s.written + 1 } cs
      (code ++ more, s)
    else encodePoint basic point s cs

/-- Codes the code points of a list, given in ascending order. -/
def encodePoints (basic : Nat) (label : List Char) : State → List Nat → List Char
  | _, [] => []
  | s, point :: points =>
    let s := { s with delta := s.delta + (point - s.point) * (s.written + 1), point }
    let (code, s) := encodePoint basic point s label
    code ++ encodePoints basic label { s with delta := s.delta + 1, point := point + 1 } points

/-- Inserts a code point into an ascending list without repetition. -/
def insertPoint (n : Nat) : List Nat → List Nat
  | [] => [n]
  | m :: ms => if n < m then n :: m :: ms else if n == m then m :: ms else m :: insertPoint n ms

/-- The ASCII form of a label. -/
def encode (label : List Char) : List Char :=
  let basic := label.filter (·.toNat < 128)
  let points := (label.filter (128 ≤ ·.toNat)).foldl (fun points c => insertPoint c.toNat points) []
  (if basic.isEmpty then [] else basic ++ ['-']) ++
    encodePoints basic.length label ⟨128, 0, 72, basic.length⟩ points

/-- Reads a difference: its value and what follows. -/
def decodeNumber? (bias : Nat) : Nat → Nat → Nat → List Char → Option (Nat × List Char)
  | _, _, _, [] => none
  | k, weight, value, c :: cs => do
    let d ← digitValue? c
    let value := value + d * weight
    let t := threshold k bias
    if d < t then some (value, cs)
    else decodeNumber? bias (k + 36) (weight * (36 - t)) value cs

/-- Reads differences and inserts their characters. The first argument bounds their number, the flag
says that none has been read yet. -/
def decodeFrom? : Nat → Bool → Nat → Nat → Nat → List Char → List Char → Option (List Char)
  | _, _, _, _, _, label, [] => some label
  | 0, _, _, _, _, _, _ :: _ => none
  | n + 1, first, point, place, bias, label, cs => do
    let (delta, rest) ← decodeNumber? bias 36 1 0 cs
    let size := label.length + 1
    let point := point + (place + delta) / size
    let i := (place + delta) % size
    if point < 0xD800 || (0xDFFF < point && point ≤ 0x10FFFF) then
      decodeFrom? n false point (i + 1) (adapt delta size first)
        (label.take i ++ Char.ofNat point :: label.drop i) rest
    else none

/-- The label of an ASCII form. -/
def decode? (code : List Char) : Option (List Char) :=
  let tail := (code.reverse.takeWhile (· != '-')).reverse
  let basic := code.take (code.length - tail.length - 1)
  if basic.any (128 ≤ ·.toNat) then none
  else decodeFrom? (tail.length + 1) true 128 0 72 basic tail

end DynamicContent.Url.Punycode
