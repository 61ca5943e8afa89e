/-
# Upper and lower case

Full case mapping of Unicode text. Only one mapping depends on the neighbours of a character: a
capital sigma at the end of a word becomes the final small sigma.
-/

import DynamicContent.Text.Blank
import DynamicContent.Text.CaseTable

namespace DynamicContent.Text

/-- Maps a code point through the single mappings of `runs`, else through `expansions`. -/
def mapCase (runs : List CaseRun) (expansions : List (Nat × List Nat)) (c : Char) : List Char :=
  match runs.findSome? (CaseRun.map? · c.toNat) with
  | some n => [Char.ofNat n]
  | none =>
    match expansions.find? (·.1 == c.toNat) with
    | some (_, ns) => ns.map Char.ofNat
    | none => [c]

/-- The upper case of a character. -/
def upperChar (c : Char) : List Char :=
  if c.toNat < 0x80 then [c.toUpper] else mapCase upperRuns upperExpansions c

/-- The lower case of a character that does not look at its neighbours. -/
def lowerChar (c : Char) : List Char :=
  if c.toNat < 0x80 then [c.toLower] else mapCase lowerRuns lowerExpansions c

/-- Whether a code point lies in one of the ranges. -/
def inRanges (ranges : List (Nat × Nat)) (c : Char) : Bool :=
  ranges.any fun range => range.1 ≤ c.toNat && c.toNat ≤ range.2

/-- Whether the first character that is not case-ignorable is a cased one. -/
def meetsCased : List Char → Bool
  | [] => false
  | c :: cs => if inRanges caseIgnorableRanges c then meetsCased cs else inRanges casedRanges c

/-- Lower case of `cs`, where `before` holds what precedes, nearest character first. A capital sigma
ends a word if a cased character precedes it and none follows. -/
def lowerFrom (before : List Char) : List Char → List Char
  | [] => []
  | c :: cs =>
    let mapped :=
      if c == 'Σ' then (if meetsCased before && !meetsCased cs then ['ς'] else ['σ'])
      else lowerChar c
    mapped ++ lowerFrom (c :: before) cs

/-- The text in upper case. -/
def upper (s : String) : String := String.ofList (s.toList.flatMap upperChar)

/-- The text in lower case. -/
def lower (s : String) : String := String.ofList (lowerFrom [] s.toList)

/-- The text with its first character in upper case. -/
def capitalize (s : String) : String :=
  match s.toList with
  | [] => ""
  | c :: cs => String.ofList (upperChar c ++ cs)

/-- Upper case for the first character and for each that follows a blank. -/
def capitalizeFrom (atStart : Bool) : List Char → List Char
  | [] => []
  | c :: cs => (if atStart then upperChar c else [c]) ++ capitalizeFrom (isBlank c) cs

/-- The text with the first character of each word in upper case. -/
def capitalizeWords (s : String) : String := String.ofList (capitalizeFrom true s.toList)

end DynamicContent.Text
