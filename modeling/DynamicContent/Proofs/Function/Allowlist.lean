/-
# Which functions may be called

A function may be called exactly if its name is listed, by every site or by the operator, and it is
registered. So for two sets of functions that agree on the listed names the same ones may be called.
-/

import DynamicContent.Function.Allowlist
import DynamicContent.Proofs.Data.SortedMap
import DynamicContent.Proofs.Text.Casing

namespace DynamicContent

theorem functionName_functionName (name : String) :
    functionName (functionName name) = functionName name :=
  Text.asciiLower_trim_idempotent name

namespace Functions

theorem contains_functionName (functions : Functions) (name : String) :
    functions.contains (functionName name) = functions.contains name := by
  rw [contains, contains, functionName_functionName]

/-- A name is registered if a call by it is not in vain. -/
theorem contains_eq_isSome_call? (functions : Functions) (name : String) (args : List String) :
    functions.contains name = (functions.call? name args).isSome := by
  rw [contains, SortedMap.contains, call?, Option.isSome_map]

end Functions

namespace Allowlist

/-- Whether a name is listed, by every site or among the given entries. -/
def Lists (entries : List String) (name : String) : Prop :=
  functionName name ∈ common ++ normalize entries

instance (entries : List String) (name : String) : Decidable (Lists entries name) :=
  inferInstanceAs (Decidable (functionName name ∈ common ++ normalize entries))

theorem allows_build_iff {entries : List String} {functions : Functions} {name : String} :
    (build entries functions).allows name = true ↔
      Lists entries name ∧ functions.contains name = true := by
  rw [allows, build, List.contains_iff_mem, SortedMap.mem_keys_ofList, List.map_map, Lists]
  simp only [Function.comp_def, List.map_id_fun', id, List.mem_filter,
    Functions.contains_functionName]

/-- Sets of functions that agree on what is listed allow the same ones. -/
theorem allows_build_eq {entries : List String} {functions functions' : Functions}
    (h : ∀ name, Lists entries name → functions'.call? name = functions.call? name)
    (name : String) :
    (build entries functions').allows name = (build entries functions).allows name := by
  rw [Bool.eq_iff_iff, allows_build_iff, allows_build_iff]
  refine and_congr_right fun hlisted => ?_
  rw [Functions.contains_eq_isSome_call? _ name [], Functions.contains_eq_isSome_call? _ name [],
    h name hlisted]

end Allowlist

end DynamicContent
