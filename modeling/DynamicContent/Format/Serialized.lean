/-
# The serialised form

Structured values are stored by the host in a form of their own: a letter for the kind, then the
value, then a semicolon. A text is preceded by its length in bytes, so its characters need no escape.
Lists and maps are both written as a number of pairs; read back, pairs whose keys count up from zero
are a list, and so is the empty map.
-/

import DynamicContent.Format.Flat

namespace DynamicContent.Json

/-! ## Writing -/

/-- A text with its length in bytes. -/
def serializeText (text : String) : List Char :=
  's' :: ':' :: (Number.natText (Text.byteLength text.toList) ++
    (':' :: '"' :: (text.toList ++ ['"', ';'])))

/-- An integer. -/
def serializeInt (n : Int) : List Char := 'i' :: ':' :: (Number.intText n ++ [';'])

/-- A floating number. -/
def serializeFloat (x : Number.Binary64) : List Char := 'd' :: ':' :: (x.plainText ++ [';'])

/-- Pairs with their number. -/
def serializePairs (count : Nat) (body : List Char) : List Char :=
  'a' :: ':' :: (Number.natText count ++ (':' :: '{' :: (body ++ ['}'])))

mutual

/-- The serialised form of a value. An integer beyond the signed ones is written as the floating number
next to it. -/
def serializeChars : Json → List Char
  | null => ['N', ';']
  | bool value => ['b', ':', if value then '1' else '0', ';']
  | int n =>
    if n ≤ Number.int64Max then serializeInt n
    else serializeFloat ((Number.Binary64.ofInt? n).getD default)
  | float x => serializeFloat x
  | string text => serializeText text
  | array items => serializePairs items.length (serializeItems 0 items)
  | object fields => serializePairs fields.length (serializeFields fields)

/-- The items of a list, each after its position. -/
def serializeItems (start : Nat) : List Json → List Char
  | [] => []
  | v :: vs => serializeInt start ++ (serializeChars v ++ serializeItems (start + 1) vs)

/-- The fields of a map, each after its name. -/
def serializeFields : List (String × Json) → List Char
  | [] => []
  | (k, v) :: rest => serializeText k ++ (serializeChars v ++ serializeFields rest)

end

/-- The serialised form of a value. -/
def serialize (v : Json) : String := String.ofList v.serializeChars

/-! ## Reading -/

/-- How deep lists and maps may nest in a serialised value. -/
def serializedDepth : Nat := 64

/-- The characters whose encodings together have exactly so many bytes, and what follows them. -/
def takeBytes? : Nat → List Char → Option (List Char × List Char)
  | 0, cs => some ([], cs)
  | _ + 1, [] => none
  | n + 1, c :: cs =>
    if c.utf8Size ≤ n + 1 then
      (takeBytes? (n + 1 - c.utf8Size) cs).map fun (taken, rest) => (c :: taken, rest)
    else none

/-- A text of a given length in bytes, in quotes. -/
def takeSerializedText? (length : Nat) : List Char → Option (List Char × List Char)
  | '"' :: cs =>
    match takeBytes? length cs with
    | some (text, '"' :: ';' :: rest) => some (text, rest)
    | _ => none
  | _ => none

/-- The key that a value stands for: a text or a number. -/
def keyOf? : Json → Option String
  | string text => some text
  | int n => some (int n).toText
  | float x => some (float x).toText
  | _ => none

/-- Whether keys count up, from the given number on. -/
def countsFrom (start : Nat) : List String → Bool
  | [] => true
  | key :: keys => key == Number.natString start && countsFrom (start + 1) keys

/-- The list or map of a list of pairs. -/
def ofPairs (pairs : List (String × Json)) : Json :=
  if countsFrom 0 (pairs.map (·.1)) then array (pairs.map (·.2)) else ofFields pairs

mutual

/-- Reads a value off the front. The first argument bounds the number of steps, the second says how
deep lists and maps may still nest. -/
def deserializeFrom? : Nat → Nat → List Char → Option (Json × List Char)
  | 0, _, _ => none
  | _ + 1, _, 'N' :: ';' :: cs => some (null, cs)
  | _ + 1, _, 'b' :: ':' :: cs =>
    (Text.cutChars [';'] cs).map fun (value, rest) => (bool (value == ['1']), rest)
  | _ + 1, _, 'i' :: ':' :: cs => do
    let (value, rest) ← Text.cutChars [';'] cs
    some (int (← Number.int64OfText? value), rest)
  | _ + 1, _, 'd' :: ':' :: cs => do
    let (value, rest) ← Text.cutChars [';'] cs
    match Number.Extended64.ofText? value with
    | some (.finite x) => some (float x, rest)
    | _ => none
  | _ + 1, _, 's' :: ':' :: cs => do
    let (length, rest) ← Text.cutChars [':'] cs
    let (text, rest) ← takeSerializedText? (← Number.nat64OfText? length) rest
    some (string (String.ofList text), rest)
  | n + 1, room + 1, 'a' :: ':' :: cs => do
    let (count, rest) ← Text.cutChars [':'] cs
    let count ← Number.nat64OfText? count
    match rest with
    | '{' :: rest =>
      match ← deserializePairs? n room count rest with
      | (pairs, '}' :: rest) => some (ofPairs pairs, rest)
      | _ => none
    | _ => none
  | _ + 1, _, _ => none

/-- Reads a number of pairs off the front. -/
def deserializePairs? : Nat → Nat → Nat → List Char → Option (List (String × Json) × List Char)
  | 0, _, _, _ => none
  | _ + 1, _, 0, cs => some ([], cs)
  | n + 1, room, count + 1, cs => do
    let (key, cs) ← deserializeFrom? n room cs
    let key ← keyOf? key
    let (value, cs) ← deserializeFrom? n room cs
    let (pairs, rest) ← deserializePairs? n room count cs
    some ((key, value) :: pairs, rest)

end

/-- The value of a serialised form, if a whole list of characters is one. -/
def deserializeChars? (cs : List Char) : Option Json :=
  match deserializeFrom? (cs.length + 1) serializedDepth cs with
  | some (value, []) => some value
  | _ => none

/-- The value of a serialised form that may have blanks around it. -/
def deserialize? (text : String) : Option Json := deserializeChars? (Text.trimChars text.toList)

/-- What a text stands for if it is a serialised form, and every other value as it is. -/
def unpacked : Json → Json
  | string text => (deserialize? text).getD (string text)
  | v => v

/-! ## The form that survives -/

/-- Fields in the order of a map, as a list if their names count up from zero. -/
def ofSortedPairs (fields : List (String × Json)) : Json :=
  if countsFrom 0 (fields.map (·.1)) then array (fields.map (·.2)) else object fields

mutual

/-- The value with every map whose keys count up from zero made a list. -/
def listed : Json → Json
  | array items => array (listedItems items)
  | object fields => ofSortedPairs (listedFields fields)
  | v => v

/-- The items of a list, each with its counting maps made lists. -/
def listedItems : List Json → List Json
  | [] => []
  | v :: vs => listed v :: listedItems vs

/-- Fields, the values with their counting maps made lists. -/
def listedFields : List (String × Json) → List (String × Json)
  | [] => []
  | (k, v) :: rest => (k, listed v) :: listedFields rest

end

end DynamicContent.Json
