/-
# Layers of settings

Settings come from several sources, each a *layer* over those before it: tables are merged key by key,
and any other value takes the place of what was there. A key at the top of a layer may be a path with
points, which is how variables of the environment reach into tables.

The sources are not strict about types, so a value is read as whatever is asked for, as far as that makes
sense: a number may be given as text, a flag as a number, and a text as either.
-/

import DynamicContent.Json.Basic
import DynamicContent.Number.Decimal
import DynamicContent.Text.LetterCase

namespace DynamicContent.Program

/-- A value of a layer. -/
inductive Setting where
  | absent
  | flag (value : Bool)
  | int (value : Int)
  | float (value : Number.Extended64)
  | text (value : String)
  | list (items : List Setting)
  | table (fields : List (String × Setting))
deriving Inhabited

namespace Setting

/-! ## Layers -/

/-- The fields of a table; other values have none. -/
def fields : Setting → SortedMap Setting
  | table fields => fields
  | _ => []

mutual

/-- A value with another one over it. An empty table changes nothing. -/
def overlay (below : Setting) : Setting → Setting
  | table [] => below
  | table (field :: fields) => table (overlayFields below.fields (field :: fields))
  | other => other

/-- The fields of a table with those of another one over it. -/
def overlayFields (below : SortedMap Setting) : List (String × Setting) → SortedMap Setting
  | [] => below
  | (key, v) :: rest =>
    overlayFields (below.insert key (overlay ((below.find? key).getD (table [])) v)) rest

end

/-- A value with another one put over it at a path. -/
def overlayAt (below : Setting) (v : Setting) : List String → Setting
  | [] => below.overlay v
  | key :: path =>
    table (below.fields.insert key (overlayAt ((below.fields.find? key).getD (table [])) v path))

/-- Whether a text is a key that may be part of a path. -/
def isKey (s : String) : Bool :=
  !s.isEmpty && s.toList.all fun c => c.isAlphanum || c == '_' || c == '-'

/-- The path that a key at the top stands for; a key that is no path stands for itself. -/
def pathOfKey (key : String) : List String :=
  let path := Text.splitString (· == '.') key
  if path.all isKey then path else [key]

/-- A value with a layer over it. -/
def addLayer (below : Setting) (layer : SortedMap Setting) : Setting :=
  layer.foldl (fun below entry => below.overlayAt entry.2 (pathOfKey entry.1)) below

/-! ## Values from documents and from the environment -/

mutual

/-- A value of a document. An integer beyond the range of signed integers counts as a float. -/
def ofJson : Json → Setting
  | .null => absent
  | .bool b => flag b
  | .int n =>
    if n ≤ Number.int64Max then int n
    else ((Number.Binary64.ofInt? n).map fun x => float (.finite x)).getD absent
  | .float x => float (.finite x)
  | .string s => text s
  | .array items => list (ofJsonItems items)
  | .object fields => table (ofJsonFields fields)

/-- The items of a list of a document. -/
def ofJsonItems : List Json → List Setting
  | [] => []
  | v :: vs => ofJson v :: ofJsonItems vs

/-- The fields of a table of a document. -/
def ofJsonFields : List (String × Json) → List (String × Setting)
  | [] => []
  | (k, v) :: rest => (k, ofJson v) :: ofJsonFields rest

end

/-- The value of a variable of the environment: a flag or a number if it looks like one. -/
def ofVariable (isList : Bool) (s : String) : Setting :=
  match Text.lower s with
  | "true" => flag true
  | "false" => flag false
  | _ =>
    match Number.int64OfText? s.toList with
    | some n => int n
    | none =>
      match Number.Extended64.ofText? s.toList with
      | some x => float x
      | none => if isList then list ((Text.splitCommas s).map text) else text s

/-- What the variables that set something begin with. -/
def variableStart : String := "weft__"

/-- The path in the name of a variable, where two underscores stand for a point. -/
def variablePath : List Char → List Char
  | '_' :: '_' :: cs => '.' :: variablePath cs
  | c :: cs => c :: variablePath cs
  | [] => []

/-- The layer of the environment, whose environment may be in any letter case. -/
def environmentLayer (listKeys : List String) (environment : List (String × String)) :
    SortedMap Setting :=
  SortedMap.ofList <| environment.filterMap fun (name, value) => do
    let rest ← Text.dropPrefix? variableStart (Text.lower name)
    let key := String.ofList (variablePath rest.toList)
    some (key, ofVariable (listKeys.contains key) value)

/-! ## Values as what is asked for -/

/-- The word that a flag may be given by. -/
def flagOfWord? (s : String) : Option Bool :=
  match Text.lower s with
  | "true" | "on" | "yes" => some true
  | "false" | "off" | "no" => some false
  | _ => none

/-- The value as a flag. -/
def toFlag? : Setting → Option Bool
  | flag b => some b
  | int n => some (n != 0)
  | float x => some (match x with
    | .finite x => !x.isZero
    | _ => true)
  | text s =>
    match s with
    | "1" => some true
    | "0" => some false
    | s => flagOfWord? s
  | _ => none

/-- The nearest natural number of 64 bits, a half going up. -/
def roundToNat : Number.Extended64 → Nat
  | .finite x =>
    let (num, den) := x.ratio
    if x.negative then 0 else min ((2 * num + den) / (2 * den)) Number.nat64Max
  | .infinite negative => if negative then 0 else Number.nat64Max
  | .notANumber _ => 0

/-- The value as a natural number of 64 bits. -/
def toNat? : Setting → Option Nat
  | flag b => some (if b then 1 else 0)
  | int n => if 0 ≤ n then some n.toNat else none
  | float x => some (roundToNat x)
  | text s =>
    match flagOfWord? s with
    | some b => some (if b then 1 else 0)
    | none => Number.nat64OfText? s.toList
  | _ => none

/-- The text of a float. -/
def floatText : Number.Extended64 → String
  | .finite x => String.ofList x.plainText
  | .infinite negative => if negative then "-inf" else "inf"
  | .notANumber _ => "NaN"

/-- The value as a text. -/
def toText? : Setting → Option String
  | flag b => some (if b then "true" else "false")
  | int n => some (Number.intString n)
  | float x => some (floatText x)
  | text s => some s
  | _ => none

/-- The value as a list of texts. -/
def toTexts? : Setting → Option (List String)
  | list items => items.mapM toText?
  | _ => none

/-- The value, where there need not be one. -/
def optional {α : Type} (read : Setting → Option α) : Setting → Option (Option α)
  | absent => some none
  | v => (read v).map some

/-- The fields of a section. A list has the values of the fields in their order. -/
def section? (names : List String) : Setting → Option (SortedMap Setting)
  | table fields => some fields
  | list items => some (SortedMap.ofList (names.zip items))
  | _ => none

end Setting

end DynamicContent.Program
