/-
# Writing configuration documents

An object as a document of the TOML format: a line for each field, whose value is written out in one
place. The format has no null, so fields and items that are null are left out.
-/

import DynamicContent.Json.Printer

namespace DynamicContent.Toml

/-- Whether a value can be written. -/
def isWritable : Json → Bool
  | .null => false
  | _ => true

/-- One character inside quotes. -/
def escapeChar (c : Char) : List Char :=
  if c.toNat == 0x7f then ['\\', 'u', '0', '0', '7', 'f'] else Json.escapeChar c

/-- A text in quotes. -/
def quoted (text : String) : List Char := '"' :: (text.toList.flatMap escapeChar ++ ['"'])

mutual

/-- A value in one place. -/
def valueChars : Json → List Char
  | .string text => quoted text
  | .array items => '[' :: (itemChars items ++ [']'])
  | .object fields => '{' :: (fieldChars true fields ++ ['}'])
  | other => other.chars

/-- Values, each after the first behind a comma. -/
def itemChars : List Json → List Char
  | [] => []
  | v :: vs =>
    if isWritable v then
      let rest := itemChars vs
      valueChars v ++ if rest.isEmpty then [] else ',' :: rest
    else itemChars vs

/-- Fields in one place, each after the first behind a comma. -/
def fieldChars (first : Bool) : List (String × Json) → List Char
  | [] => []
  | (k, v) :: rest =>
    if isWritable v then
      (if first then [] else [',']) ++ quoted k ++ '=' :: (valueChars v ++ fieldChars false rest)
    else fieldChars first rest

end

/-- The lines of a document. -/
def lineChars : List (String × Json) → List Char
  | [] => []
  | (k, v) :: rest =>
    if isWritable v then quoted k ++ '=' :: (valueChars v ++ '\n' :: lineChars rest)
    else lineChars rest

/-- An object as a document. -/
def print : Json → String
  | .object fields => String.ofList (lineChars fields)
  | _ => ""

end DynamicContent.Toml
