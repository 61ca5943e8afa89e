/-
# Character references

An ampersand begins a reference to a character by name or by number. A name is read as far as a known
name goes; without a semicolon only some names are known, and inside an attribute not where a letter,
a digit or an equals sign follows.
-/

import DynamicContent.Json.Parser
import DynamicContent.Html.ReferenceTable
import DynamicContent.Text.Blank

namespace DynamicContent.Html

/-- The character with a code point in hexadecimal. -/
def charOfHex (digits : String) : Char :=
  Char.ofNat (digits.toList.foldl (fun n c => 16 * n + (Json.hexValue? c).getD 0) 0)

/-- The names that a semicolon ends, with the characters they stand for. -/
def namedReferences : List (String × List Char) :=
  (Text.words referenceTable).filterMap fun entry =>
    (Text.cut "=" entry).map fun (name, points) =>
      (name, (Text.splitString (· == '+') points).map charOfHex)

/-- The names that need no semicolon. -/
def openReferences : List String := Text.words openReferenceTable

/-- The characters that a name stands for. -/
def namedReference? (name : List Char) : Option (List Char) :=
  (namedReferences.find? (·.1 == String.ofList name)).map (·.2)

/-- The longest start of a text, of at most so many characters, that is a name without semicolon. -/
def longestOpenName : Nat → List Char → Option (List Char)
  | 0, _ => none
  | n + 1, cs =>
    let name := cs.take (n + 1)
    if openReferences.contains (String.ofList name) then some name else longestOpenName n cs

/-- Numbers that stand for the characters a common single-byte encoding has there. -/
def remappedControls : List (Nat × Nat) :=
  [(0x80, 0x20AC), (0x82, 0x201A), (0x83, 0x0192), (0x84, 0x201E), (0x85, 0x2026), (0x86, 0x2020),
    (0x87, 0x2021), (0x88, 0x02C6), (0x89, 0x2030), (0x8A, 0x0160), (0x8B, 0x2039), (0x8C, 0x0152),
    (0x8E, 0x017D), (0x91, 0x2018), (0x92, 0x2019), (0x93, 0x201C), (0x94, 0x201D), (0x95, 0x2022),
    (0x96, 0x2013), (0x97, 0x2014), (0x98, 0x02DC), (0x99, 0x2122), (0x9A, 0x0161), (0x9B, 0x203A),
    (0x9C, 0x0153), (0x9E, 0x017E), (0x9F, 0x0178)]

/-- The character of a number. -/
def numberedChar (n : Nat) : Char :=
  if n == 0 || 0x10FFFF < n || (0xD800 ≤ n && n ≤ 0xDFFF) then Char.ofNat 0xFFFD
  else
    match remappedControls.find? (·.1 == n) with
    | some (_, m) => Char.ofNat m
    | none => Char.ofNat n

/-- A reference by number after `#`: the character and the length of the reference. -/
def numberedReference? (cs : List Char) : Option (Char × Nat) :=
  let (base, skip, rest) := match cs with
    | 'x' :: rest | 'X' :: rest => (16, 1, rest)
    | _ => (10, 0, cs)
  let digits := rest.takeWhile fun c => ((Json.hexValue? c).filter (· < base)).isSome
  if digits.isEmpty then none
  else
    let n := digits.foldl (fun n c => base * n + (Json.hexValue? c).getD 0) 0
    let closed := (rest.drop digits.length).head? == some ';'
    some (numberedChar n, skip + digits.length + (if closed then 1 else 0))

/-- A reference after its ampersand: the characters and the length of the reference. -/
def reference? (inAttribute : Bool) (cs : List Char) : Option (List Char × Nat) :=
  match cs with
  | '#' :: rest => (numberedReference? rest).map fun (c, n) => ([c], n + 1)
  | _ =>
    let run := (cs.take 40).takeWhile Char.isAlphanum
    let closed := (cs.drop run.length).head? == some ';'
    match if closed then namedReference? run else none with
    | some chars => some (chars, run.length + 1)
    | none =>
      match longestOpenName (min 6 run.length) run with
      | none => none
      | some name =>
        let next := (cs.drop name.length).head?
        if inAttribute && (next == some '=' || (next.map Char.isAlphanum).getD false) then none
        else (namedReference? name).map (·, name.length)

/-- Replaces references. The first argument counts the characters to skip. -/
def decodeFrom (inAttribute : Bool) : Nat → List Char → List Char
  | _, [] => []
  | n + 1, _ :: cs => decodeFrom inAttribute n cs
  | 0, c :: cs =>
    if c == '&' then
      match reference? inAttribute cs with
      | some (chars, n) => chars ++ decodeFrom inAttribute n cs
      | none => c :: decodeFrom inAttribute 0 cs
    else c :: decodeFrom inAttribute 0 cs

/-- The text with its references replaced. -/
def decodeReferences (inAttribute : Bool) (cs : List Char) : List Char := decodeFrom inAttribute 0 cs

end DynamicContent.Html
