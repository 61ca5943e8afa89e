/-
# Allowed functions

Markup may call a function only if it is registered and its name is on the list: the common ones, and
those that the operator adds. A listed name that is not registered is left out.
-/

import DynamicContent.Function.Basic

namespace DynamicContent

/-- The names of the allowed functions, in order and without repetition. -/
structure Allowlist where
  names : List String
deriving Inhabited

namespace Allowlist

/-- The functions that every site allows. -/
def common : List String :=
  ["date", "current_year", "strtoupper", "strtolower", "ucfirst", "ucwords", "trim", "strlen",
    "word_count", "implode", "number_format", "max", "min", "abs"]

/-- The members of a list that are not in `seen` and do not occur earlier. -/
def firstOccurrences (seen : List String) : List String → List String
  | [] => []
  | x :: xs => if seen.contains x then firstOccurrences seen xs else x :: firstOccurrences (x :: seen) xs

/-- Names as they are kept, without empty and repeated ones, in the order of their first occurrence. -/
def normalize (entries : List String) : List String :=
  firstOccurrences [] ((entries.map functionName).filter (!·.isEmpty))

/-- The names of a text that has one on each line or between commas. -/
def ofText (raw : String) : List String :=
  normalize (Text.splitString (fun c => c == '\n' || c == ',') raw)

/-- The common functions and the given ones, as far as they are registered. -/
def build (entries : List String) (functions : Functions) : Allowlist :=
  let listed := (common ++ normalize entries).filter functions.contains
  ⟨(SortedMap.ofList (listed.map fun name => (name, ()))).keys⟩

/-- Whether a function may be called. -/
def allows (list : Allowlist) (name : String) : Bool := list.names.contains (functionName name)

end Allowlist

end DynamicContent
