/-
# Decimal integers

Reading and writing integers of 64 bits in decimal. A sign is at most one character, digits are
ASCII, and a value outside the range is refused.
-/

namespace DynamicContent.Number

/-- The least signed integer of 64 bits. -/
def int64Min : Int := -9223372036854775808

/-- The greatest signed integer of 64 bits. -/
def int64Max : Int := 9223372036854775807

/-- The greatest unsigned integer of 64 bits. -/
def nat64Max : Nat := 18446744073709551615

/-- The value of an ASCII digit. -/
def digitValue (c : Char) : Nat := c.toNat - '0'.toNat

/-- The number that a list of digits denotes, read after `acc`. -/
def digitsValue (acc : Nat) (cs : List Char) : Nat :=
  cs.foldl (fun n c => 10 * n + digitValue c) acc

/-- One or more ASCII digits, as a number. -/
def natOfDigits? (cs : List Char) : Option Nat :=
  if !cs.isEmpty && cs.all Char.isDigit then some (digitsValue 0 cs) else none

/-- Takes at most one sign off the front; the flag says that it is a minus. -/
def takeSign : List Char → Bool × List Char
  | '-' :: cs => (true, cs)
  | '+' :: cs => (false, cs)
  | cs => (false, cs)

/-- An optional sign followed by digits. -/
def intOfText? (cs : List Char) : Option Int :=
  let (negative, digits) := takeSign cs
  (natOfDigits? digits).map fun n => if negative then -(n : Int) else n

/-- A signed decimal integer of 64 bits. -/
def int64OfText? (cs : List Char) : Option Int :=
  (intOfText? cs).filter fun n => int64Min ≤ n && n ≤ int64Max

/-- An unsigned decimal integer of 64 bits; a plus sign may precede it. -/
def nat64OfText? (cs : List Char) : Option Nat :=
  let digits := match cs with
    | '+' :: rest => rest
    | _ => cs
  (natOfDigits? digits).filter (· ≤ nat64Max)

/-- The decimal digits of a number, without leading zeros. -/
def natText (n : Nat) : List Char := Nat.toDigits 10 n

/-- A natural number in decimal, as a string. -/
def natString (n : Nat) : String := String.ofList (natText n)

/-- The decimal text of an integer. -/
def intText (n : Int) : List Char :=
  if n < 0 then '-' :: natText n.natAbs else natText n.natAbs

/-- An integer in decimal, as a string. -/
def intString (n : Int) : String := String.ofList (intText n)

/-- The magnitude of a signed integer of 64 bits; the least one has the greatest for its magnitude. -/
def saturatingAbs (n : Int) : Int := min n.natAbs int64Max

/-- The product of unsigned integers of 64 bits, or the greatest of them if it is greater. -/
def saturatingMul (m n : Nat) : Nat := min (m * n) nat64Max

end DynamicContent.Number
