/-
# JSON values

The values of a JSON document. Integers and floating numbers are different values even where they
are equal as numbers, and the fields of an object are kept in ascending order of their names.
-/

import DynamicContent.Data.SortedMap
import DynamicContent.Number.Binary64

namespace DynamicContent

/-- A JSON value. Integers are those of 64 bits, signed or not. -/
inductive Json where
  | null
  | bool (value : Bool)
  | int (value : Int)
  | float (value : Number.Binary64)
  | string (text : String)
  | array (items : List Json)
  | object (fields : List (String × Json))
deriving Inhabited

namespace Json

mutual

/-- Decides equality of two values. -/
def equal : Json → Json → Bool
  | null, null => true
  | bool a, bool b => a == b
  | int a, int b => a == b
  | float a, float b => a == b
  | string a, string b => a == b
  | array a, array b => equalItems a b
  | object a, object b => equalFields a b
  | _, _ => false

/-- Decides equality of two lists of values. -/
def equalItems : List Json → List Json → Bool
  | [], [] => true
  | a :: as, b :: bs => equal a b && equalItems as bs
  | _, _ => false

/-- Decides equality of two lists of fields. -/
def equalFields : List (String × Json) → List (String × Json) → Bool
  | [], [] => true
  | (k, a) :: as, (l, b) :: bs => k == l && equal a b && equalFields as bs
  | _, _ => false

end

instance : BEq Json := ⟨equal⟩

/-- An object with the given fields; of several with one name the last one wins. -/
def ofFields (fields : List (String × Json)) : Json := object (SortedMap.ofList fields)

/-- A natural number. -/
def nat (n : Nat) : Json := int n

/-- A text or null. -/
def ofOptionString : Option String → Json
  | some text => string text
  | none => null

/-- The field of an object. -/
def field? (name : String) : Json → Option Json
  | object fields => SortedMap.find? name fields
  | _ => none

/-- A signed integer of 64 bits. -/
def int64? : Json → Option Int
  | int n => if Number.int64Min ≤ n ∧ n ≤ Number.int64Max then some n else none
  | _ => none

/-- An unsigned integer of 64 bits. -/
def nat64? : Json → Option Nat
  | int n => if 0 ≤ n ∧ n ≤ Number.nat64Max then some n.toNat else none
  | _ => none

/-- A text. -/
def string? : Json → Option String
  | string text => some text
  | _ => none

/-- A truth value. -/
def bool? : Json → Option Bool
  | bool value => some value
  | _ => none

/-- The items of an array. -/
def items? : Json → Option (List Json)
  | array items => some items
  | _ => none

mutual

/-- How deep arrays and objects nest; a value of another kind has depth zero. -/
def depth : Json → Nat
  | array items => itemsDepth items + 1
  | object fields => fieldsDepth fields + 1
  | _ => 0

/-- The greatest depth of a list of values. -/
def itemsDepth : List Json → Nat
  | [] => 0
  | v :: vs => max (depth v) (itemsDepth vs)

/-- The greatest depth of the values of a list of fields. -/
def fieldsDepth : List (String × Json) → Nat
  | [] => 0
  | (_, v) :: rest => max (depth v) (fieldsDepth rest)

end

end Json

end DynamicContent

namespace DynamicContent.Json

/-! ## Reading records

A record is an object with named fields, or an array with the values of the fields in their order. A
field may be left out if it has a default; one that is there must have the right kind. Fields with
unknown names are passed over, but an array may not have more values than there are fields. -/

/-- The fields of a record with the given field names. -/
def recordFields? (names : List String) : Json → Option (List (String × Json))
  | object fields => some fields
  | array items => if items.length ≤ names.length then some (names.zip items) else none
  | _ => none

/-- The value of a field: `absent` if it is left out. -/
def readField {α : Type} (fields : List (String × Json)) (name : String) (absent : Option α)
    (read : Json → Option α) : Option α :=
  match SortedMap.find? name fields with
  | none => absent
  | some v => read v

/-- A list of values of one kind. -/
def listOf? {α : Type} (read : Json → Option α) : Json → Option (List α)
  | array items => items.mapM read
  | _ => none

/-- The fields of an object. -/
def object? : Json → Option (List (String × Json))
  | object fields => some fields
  | _ => none

/-- The fields of an object whose values are of one kind. -/
def mapOf? {α : Type} (read : Json → Option α) : Json → Option (List (String × α))
  | object fields => fields.mapM fun (k, v) => (read v).map (k, ·)
  | _ => none

/-- Null, or a value of one kind. -/
def nullOr? {α : Type} (read : Json → Option α) : Json → Option (Option α)
  | null => some none
  | v => (read v).map some

end DynamicContent.Json
