/-
# Maps in key order

A map from text to values as the list of its entries in ascending order of keys. The order of texts
by code point is also the order of their UTF-8 encodings by byte. A map built by `insert` from the
empty map has each key once, so two such maps with the same entries are the same list.
-/

namespace DynamicContent

/-- Entries in ascending order of keys. -/
abbrev SortedMap (α : Type) := List (String × α)

namespace SortedMap

variable {α : Type}

/-- The entries keep their order and no key repeats. -/
def Sorted (entries : SortedMap α) : Prop := entries.Pairwise fun a b => a.1 < b.1

/-- Sets the value of a key. -/
def insert (key : String) (value : α) : SortedMap α → SortedMap α
  | [] => [(key, value)]
  | (k, v) :: rest =>
    if key < k then (key, value) :: (k, v) :: rest
    else if key = k then (key, value) :: rest
    else (k, v) :: insert key value rest

/-- The value of a key. -/
def find? (key : String) : SortedMap α → Option α
  | [] => none
  | (k, v) :: rest => if k = key then some v else find? key rest

/-- Whether a key has a value. -/
def contains (key : String) (entries : SortedMap α) : Bool := (entries.find? key).isSome

/-- Removes a key. -/
def erase (key : String) (entries : SortedMap α) : SortedMap α := entries.filter (·.1 != key)

/-- The map that holds the entries of a list; of several entries with one key the last one wins. -/
def ofList (entries : List (String × α)) : SortedMap α :=
  entries.foldl (fun map entry => insert entry.1 entry.2 map) []

/-- The keys in order. -/
def keys (entries : SortedMap α) : List String := entries.map (·.1)

/-- Applies `f` to the value of a key; a missing one counts as `start`. -/
def modify (key : String) (start : α) (f : α → α) (entries : SortedMap α) : SortedMap α :=
  insert key (f ((entries.find? key).getD start)) entries

end SortedMap

end DynamicContent
