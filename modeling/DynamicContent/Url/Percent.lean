/-
# Percent coding

A byte is written as `%` and two hexadecimal digits. Which characters are written so depends on the
part of an address they stand in; characters outside ASCII always are.
-/

import DynamicContent.Text.Blank

namespace DynamicContent.Url

/-- An upper-case hexadecimal digit. -/
def upperHexDigit (n : Nat) : Char := (Nat.digitChar (n % 16)).toUpper

/-- A byte as `%` and two hexadecimal digits. -/
def percentByte (b : UInt8) : List Char := ['%', upperHexDigit (b.toNat / 16), upperHexDigit b.toNat]

/-- The percent coding of a character. -/
def percentChar (c : Char) : List Char := (String.utf8EncodeChar c).flatMap percentByte

/-- Characters that no part holds as they are: controls and those outside ASCII. -/
def isControlOrNotAscii (c : Char) : Bool := c.toNat < 0x20 || 0x7E < c.toNat

/-- The characters that are coded in a fragment. -/
def codedInFragment (c : Char) : Bool := isControlOrNotAscii c || " \"<>`".toList.contains c

/-- The characters that are coded in a path. -/
def codedInPath (c : Char) : Bool := codedInFragment c || "#?\x7b\x7d".toList.contains c

/-- The characters that are coded in a user name or password. -/
def codedInUserInfo (c : Char) : Bool := codedInPath c || "/:;=@[\\]^|".toList.contains c

/-- The characters that are coded in a query; an apostrophe is one in the schemes of the web. -/
def codedInQuery (special : Bool) (c : Char) : Bool :=
  isControlOrNotAscii c || " \"#<>".toList.contains c || (special && c == '\'')

/-- A text with the characters of a set coded. -/
def percentEncode (coded : Char → Bool) (cs : List Char) : List Char :=
  cs.flatMap fun c => if coded c then percentChar c else [c]

/-- The value of a hexadecimal digit. -/
def hexDigitValue? (c : Char) : Option Nat :=
  if c.isDigit then some (c.toNat - 48)
  else if 'a' ≤ c && c ≤ 'f' then some (c.toNat - 87)
  else if 'A' ≤ c && c ≤ 'F' then some (c.toNat - 55)
  else none

/-- The bytes of a text in which `%` and two hexadecimal digits stand for a byte. -/
def percentDecode : List Char → List UInt8
  | [] => []
  | '%' :: a :: b :: rest =>
    match hexDigitValue? a, hexDigitValue? b with
    | some m, some n => UInt8.ofNat (16 * m + n) :: percentDecode rest
    | _, _ => 37 :: percentDecode (a :: b :: rest)
  | c :: rest => String.utf8EncodeChar c ++ percentDecode rest

/-! ## Query pairs

Pairs of texts as the query of an address: letters, digits and four marks stand for themselves, a space
is `+`, and every other byte is percent coded. -/

/-- The form of one character in a pair. -/
def formChar (c : Char) : List Char :=
  if c.isAlphanum || "*-._".toList.contains c then [c]
  else if c == ' ' then ['+']
  else percentChar c

/-- The form of a text in a pair. -/
def formText (s : String) : List Char := s.toList.flatMap formChar

/-- The query that holds the pairs. -/
def formQuery (pairs : List (String × String)) : String :=
  String.intercalate "&" (pairs.map fun pair =>
    String.ofList (formText pair.1 ++ '=' :: formText pair.2))

end DynamicContent.Url
