/-
# Values as flat text

The text of a value where a page shows it: the items of arrays and objects follow one another with a
delimiter between them, and the names of fields are left out. Inside an item the delimiter is always
the plain one.
-/

import DynamicContent.Json.Basic
import DynamicContent.Number.Decimal
import DynamicContent.Text.Blank

namespace DynamicContent.Json

/-- The items of a list under their positions, from the given one on. -/
def indexed (start : Nat) : List Json → List (String × Json)
  | [] => []
  | v :: vs => (Number.natString start, v) :: indexed (start + 1) vs

/-- The fields of an object, or the items of an array under their positions. -/
def entries : Json → List (String × Json)
  | array items => indexed 0 items
  | object fields => fields
  | _ => []

/-- What stands between items unless something else is asked for. -/
def plainDelimiter : String := ", "

mutual

/-- The text of a value: true is `1`, false and null are empty. -/
def toText : Json → String
  | null => ""
  | bool value => if value then "1" else ""
  | int n => Number.intString n
  | float x => String.ofList x.markedText
  | string text => text
  | array items => Text.join plainDelimiter (itemTexts items)
  | object fields => Text.join plainDelimiter (fieldTexts fields)

/-- The texts of a list of values. -/
def itemTexts : List Json → List String
  | [] => []
  | v :: vs => toText v :: itemTexts vs

/-- The texts of the values of a list of fields. -/
def fieldTexts : List (String × Json) → List String
  | [] => []
  | (_, v) :: rest => toText v :: fieldTexts rest

end

/-- The text of a value with a delimiter between its items. -/
def joinItems (delimiter : String) : Json → String
  | array items => Text.join delimiter (itemTexts items)
  | object fields => Text.join delimiter (fieldTexts fields)
  | v => toText v

end DynamicContent.Json
