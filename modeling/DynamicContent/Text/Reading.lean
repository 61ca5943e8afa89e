/-
# Texts read as keys, numbers and flags

Attribute values arrive as text. These readings never fail: what does not fit is dropped, zero or
false.
-/

import DynamicContent.Text.Blank
import DynamicContent.Number.Integer

namespace DynamicContent.Text

/-- The characters a key may hold: lower-case letters, digits, `_` and `-`, all ASCII. -/
def isKeyChar (c : Char) : Bool := c.isLower || c.isDigit || c == '_' || c == '-'

/-- The key that a text stands for: ASCII letters in lower case, everything that no key holds left
out. -/
def toKeyChars (cs : List Char) : List Char := (cs.map Char.toLower).filter isKeyChar

/-- The key that a text stands for. -/
def toKey (s : String) : String := String.ofList (toKeyChars s.toList)

theorem isKeyChar_of_mem_toKeyChars {c : Char} {cs : List Char} (h : c ∈ toKeyChars cs) :
    isKeyChar c = true := (List.mem_filter.1 h).2

/-- An optional sign and the digits after it, as a signed integer of 64 bits; zero if there is no
digit or the number does not fit. -/
def leadingInt (s : String) : Int :=
  let cs := trimChars s.toList
  let (sign, rest) := match cs with
    | '-' :: rest => (['-'], rest)
    | '+' :: rest => (['+'], rest)
    | _ => ([], cs)
  (Number.int64OfText? (sign ++ rest.takeWhile Char.isDigit)).getD 0

/-- Whether a text switches something on: `1`, `true`, `yes` or `on`. -/
def toFlag (s : String) : Bool :=
  let word := asciiLower (trim s)
  word == "1" || word == "true" || word == "yes" || word == "on"

end DynamicContent.Text
