/-
# Values laid out in lines

Two layouts that show the structure of a value: a listing of keys and values, and a literal that
could be read back.
-/

import DynamicContent.Format.Flat

namespace DynamicContent.Json

/-- So many spaces. -/
def spaces (n : Nat) : String := String.ofList (List.replicate n ' ')

/-- A listing with the given lines. -/
def listingOf (column : Nat) (lines : String) : String :=
  "Array\n" ++ spaces column ++ "(\n" ++ lines ++ spaces column ++ ")\n"

mutual

/-- A value as a listing, from a column on. -/
def listing (column : Nat) : Json → String
  | array items => listingOf column (listItems column 0 items)
  | object fields => listingOf column (listFields column fields)
  | v => v.toText

/-- The lines of a list. -/
def listItems (column start : Nat) : List Json → String
  | [] => ""
  | v :: vs =>
    spaces column ++ "    [" ++ Number.natString start ++ "] => " ++ listing (column + 8) v ++ "\n" ++
      listItems column (start + 1) vs

/-- The lines of the fields of an object. -/
def listFields (column : Nat) : List (String × Json) → String
  | [] => ""
  | (k, v) :: rest =>
    spaces column ++ "    [" ++ k ++ "] => " ++ listing (column + 8) v ++ "\n" ++
      listFields column rest

end

/-- A text as a literal: in single quotes, with a backslash before quotes and backslashes. -/
def literalText (text : String) : String :=
  let escaped := text.toList.flatMap fun c => if c == '\\' || c == '\'' then ['\\', c] else [c]
  "'" ++ String.ofList escaped ++ "'"

/-- A literal with the given lines. -/
def literalOf (column : Nat) (lines : String) : String :=
  "array (\n" ++ lines ++ spaces column ++ ")"

/-- Whether a value is an array or an object. -/
def isNested : Json → Bool
  | array _ | object _ => true
  | _ => false

/-- A line with a key and the literal of its value; a nested value begins on a line of its own. -/
def literalLine (column : Nat) (key : String) (nested : Bool) (value : String) : String :=
  spaces column ++ "  " ++ key ++ " => " ++ (if nested then "\n" ++ spaces column ++ "  " else "") ++
    value ++ ",\n"

mutual

/-- A value as a literal, from a column on. -/
def literal (column : Nat) : Json → String
  | null => "NULL"
  | bool value => if value then "true" else "false"
  | string text => literalText text
  | array items => literalOf column (literalItems column 0 items)
  | object fields => literalOf column (literalFields column fields)
  | v => v.toText

/-- The lines of a list. -/
def literalItems (column start : Nat) : List Json → String
  | [] => ""
  | v :: vs =>
    literalLine column (Number.natString start) v.isNested (literal (column + 2) v) ++
      literalItems column (start + 1) vs

/-- The lines of the fields of an object. -/
def literalFields (column : Nat) : List (String × Json) → String
  | [] => ""
  | (k, v) :: rest =>
    literalLine column (literalText k) v.isNested (literal (column + 2) v) ++
      literalFields column rest

end

end DynamicContent.Json
