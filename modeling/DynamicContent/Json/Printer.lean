/-
# Compact JSON text

The text of a value without blanks between its parts. A text is quoted with the short escapes where
JSON has them and with four hexadecimal digits for the other characters below the space, so the
output holds no raw control character of that range.
-/

import DynamicContent.Json.Basic
import DynamicContent.Number.Decimal

namespace DynamicContent.Json

/-- A lower-case hexadecimal digit. -/
def hexDigit (n : Nat) : Char := Nat.digitChar (n % 16)

/-- One character inside quotes. -/
def escapeChar (c : Char) : List Char :=
  if c == '"' then ['\\', '"']
  else if c == '\\' then ['\\', '\\']
  else if c.toNat < 0x20 then
    match c.toNat with
    | 8 => ['\\', 'b']
    | 9 => ['\\', 't']
    | 10 => ['\\', 'n']
    | 12 => ['\\', 'f']
    | 13 => ['\\', 'r']
    | n => ['\\', 'u', '0', '0', hexDigit (n / 16), hexDigit n]
  else [c]

/-- A text in quotes. -/
def quoted (text : String) : List Char := '"' :: (text.toList.flatMap escapeChar ++ ['"'])

mutual

/-- The compact text of a value. -/
def chars : Json → List Char
  | null => "null".toList
  | bool true => "true".toList
  | bool false => "false".toList
  | int n => Number.intText n
  | float x => x.markedText
  | string text => quoted text
  | array items => '[' :: (itemChars items ++ [']'])
  | object fields => '{' :: (fieldChars fields ++ ['}'])

/-- Values separated by commas. -/
def itemChars : List Json → List Char
  | [] => []
  | [v] => chars v
  | v :: vs => chars v ++ ',' :: itemChars vs

/-- Fields separated by commas. -/
def fieldChars : List (String × Json) → List Char
  | [] => []
  | [(k, v)] => quoted k ++ ':' :: chars v
  | (k, v) :: rest => quoted k ++ ':' :: (chars v ++ ',' :: fieldChars rest)

end

/-- The compact text of a value. -/
def print (v : Json) : String := String.ofList v.chars

end DynamicContent.Json
