/-
# Attribute values as JSON

A value is a truth value, a signed integer, a text or a list of values. Nothing else in JSON stands
for one.
-/

import DynamicContent.Attribute.Basic
import DynamicContent.Json.Basic

namespace DynamicContent.AttributeValue

mutual

/-- The value as JSON. -/
def toJson : AttributeValue → Json
  | flag value => .bool value
  | int n => .int n
  | text t => .string t
  | list items => .array (itemsToJson items)

/-- The items of a list as JSON. -/
def itemsToJson : List AttributeValue → List Json
  | [] => []
  | v :: vs => toJson v :: itemsToJson vs

end

mutual

/-- The attribute value that a JSON value stands for. -/
def ofJson? : Json → Option AttributeValue
  | .bool value => some (flag value)
  | .int n => if Number.int64Min ≤ n ∧ n ≤ Number.int64Max then some (int n) else none
  | .string t => some (text t)
  | .array items => (itemsOfJson? items).map list
  | _ => none

/-- The attribute values that a list of JSON values stands for. -/
def itemsOfJson? : List Json → Option (List AttributeValue)
  | [] => some []
  | v :: vs => do
    let head ← ofJson? v
    let tail ← itemsOfJson? vs
    some (head :: tail)

end

end DynamicContent.AttributeValue
