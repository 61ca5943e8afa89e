/-
# The key of a query tells it

The result of a query is kept under the digest of its kind and arguments as JSON text. Before the
digest nothing is lost: all thirteen fields of a query for posts are in its arguments, each under a name
of its own, and the text of the arguments tells them. Only a clause on the metadata that asks for null
has the arguments of one without a value.
-/

import DynamicContent.Proofs.Cache.Key
import DynamicContent.Proofs.Data.SortedMap
import DynamicContent.Proofs.Json.Telling
import DynamicContent.Query.Memo

namespace DynamicContent

/-- Of two objects with the same fields, the last field of a name has one value. -/
theorem Json.find?_eq_of_ofFields_eq {fields fields' : List (String × Json)}
    (h : ofFields fields = ofFields fields') (name : String) :
    SortedMap.find? name fields.reverse = SortedMap.find? name fields'.reverse := by
  rw [← SortedMap.find?_ofList, ← SortedMap.find?_ofList, Json.object.inj h]

/-- Lists whose members are mapped to the same are equal, if the members are told by that. -/
theorem eq_of_map_eq {α β : Type} {f : α → β} {xs ys : List α}
    (hinj : ∀ x ∈ xs, ∀ y ∈ ys, f x = f y → x = y) (h : xs.map f = ys.map f) : xs = ys := by
  induction xs generalizing ys with
  | nil => exact (List.map_eq_nil_iff.mp h.symm).symm
  | cons x xs ih =>
      cases ys with
      | nil => contradiction
      | cons y ys =>
          obtain ⟨hfirst, hrest⟩ := List.cons.inj h
          have hxs : xs = ys := ih (fun a ha b hb =>
            hinj a (List.mem_cons_of_mem _ ha) b (List.mem_cons_of_mem _ hb)) hrest
          rw [hinj x List.mem_cons_self y List.mem_cons_self hfirst, hxs]

theorem array_map_inj {α : Type} {f : α → Json} {xs ys : List α}
    (hinj : ∀ x ∈ xs, ∀ y ∈ ys, f x = f y → x = y)
    (h : Json.array (xs.map f) = .array (ys.map f)) : xs = ys :=
  eq_of_map_eq hinj (Json.array.inj h)

theorem Json.nat_inj {m n : Nat} (h : Json.nat m = .nat n) : m = n := Int.ofNat.inj (Json.int.inj h)

theorem Json.ofOptionString_inj {s t : Option String}
    (h : Json.ofOptionString s = .ofOptionString t) : s = t := by
  cases s <;> cases t <;> simp_all [Json.ofOptionString]

theorem Json.ofOptionNat_inj {m n : Option Nat} (h : Json.ofOptionNat m = .ofOptionNat n) :
    m = n := by
  cases m <;> cases n <;> simp_all [Json.ofOptionNat, Json.nat]

theorem SortOrder.label_inj {a b : SortOrder} (h : a.label = b.label) : a = b := by
  revert h
  cases a <;> cases b <;> decide

theorem SearchColumn.label_inj {a b : SearchColumn} (h : a.label = b.label) : a = b := by
  revert h
  cases a <;> cases b <;> decide

theorem TermField.label_inj {a b : TermField} (h : a.label = b.label) : a = b := by
  revert h
  cases a <;> cases b <;> decide

theorem TermOperator.label_inj {a b : TermOperator} (h : a.label = b.label) : a = b := by
  revert h
  cases a <;> cases b <;> decide

/-- A clause that does not ask for null is told by its fields. -/
theorem MetaClause.toJson_inj {a b : MetaClause} (ha : a.value ≠ some .null)
    (hb : b.value ≠ some .null) (h : a.toJson = b.toJson) : a = b := by
  have hfield := Json.find?_eq_of_ofFields_eq h
  have hkey := Option.some.inj (hfield "key")
  have hvalue : a.value.getD .null = b.value.getD .null := Option.some.inj (hfield "value")
  have hcompare := Option.some.inj (hfield "compare")
  have htype := Option.some.inj (hfield "value_type")
  have hsame : a.value = b.value := by
    cases hav : a.value with
    | none =>
        cases hbv : b.value with
        | none => rfl
        | some w =>
            rw [hav, hbv] at hvalue
            exact absurd (hbv.trans (congrArg some hvalue.symm)) hb
    | some v =>
        cases hbv : b.value with
        | none =>
            rw [hav, hbv] at hvalue
            exact absurd (hav.trans (congrArg some hvalue)) ha
        | some w =>
            rw [hav, hbv] at hvalue
            exact congrArg some hvalue
  cases a
  cases b
  simp only [MetaClause.mk.injEq]
  exact ⟨Json.string.inj hkey, hsame, Json.string.inj hcompare, Json.ofOptionString_inj htype⟩

theorem TermClause.toJson_inj {a b : TermClause} (h : a.toJson = b.toJson) : a = b := by
  have hfield := Json.find?_eq_of_ofFields_eq h
  have htaxonomy := Option.some.inj (hfield "taxonomy")
  have hterm := Option.some.inj (hfield "field")
  have hterms := Option.some.inj (hfield "terms")
  have hoperator := Option.some.inj (hfield "operator")
  cases a
  cases b
  simp only [TermClause.mk.injEq]
  exact ⟨Json.string.inj htaxonomy, TermField.label_inj (Json.string.inj hterm),
    array_map_inj (fun _ _ _ _ => Json.string.inj) hterms,
    TermOperator.label_inj (Json.string.inj hoperator)⟩

/-- Whether no clause of a query on the metadata asks for null. -/
def PostQuery.HasNoNull (query : PostQuery) : Prop :=
  ∀ clause ∈ query.metaClauses, clause.value ≠ some .null

/-- A query that does not ask for null is told by its fields. -/
theorem PostQuery.toJson_inj {p q : PostQuery} (hp : p.HasNoNull) (hq : q.HasNoNull)
    (h : p.toJson = q.toJson) : p = q := by
  have hfield := Json.find?_eq_of_ofFields_eq h
  have htypes := Option.some.inj (hfield "post_types")
  have hstatuses := Option.some.inj (hfield "statuses")
  have hperPage := Option.some.inj (hfield "per_page")
  have hpaged := Option.some.inj (hfield "paged")
  have hoffset := Option.some.inj (hfield "offset")
  have horderBy := Option.some.inj (hfield "order_by")
  have horder := Option.some.inj (hfield "order")
  have hauthor := Option.some.inj (hfield "author")
  have hsearch := Option.some.inj (hfield "search")
  have hcolumns := Option.some.inj (hfield "search_columns")
  have hmeta := Option.some.inj (hfield "meta_query")
  have hterms := Option.some.inj (hfield "tax_query")
  have hexclude := Option.some.inj (hfield "exclude")
  cases p
  cases q
  simp only [PostQuery.mk.injEq]
  exact ⟨array_map_inj (fun _ _ _ _ => Json.string.inj) htypes,
    array_map_inj (fun _ _ _ _ => Json.string.inj) hstatuses, Json.nat_inj hperPage,
    Json.nat_inj hpaged, Json.nat_inj hoffset, Json.string.inj horderBy,
    SortOrder.label_inj (Json.string.inj horder), Json.ofOptionNat_inj hauthor,
    Json.ofOptionString_inj hsearch,
    array_map_inj (fun _ _ _ _ heq => SearchColumn.label_inj (Json.string.inj heq)) hcolumns,
    array_map_inj (fun a ha b hb => MetaClause.toJson_inj (hp a ha) (hq b hb)) hmeta,
    array_map_inj (fun _ _ _ _ => TermClause.toJson_inj) hterms,
    array_map_inj (fun _ _ _ _ => Json.nat_inj) hexclude⟩

namespace QueryMemo

open Cache

/-- The message whose digest a result is kept under. -/
def message (kind : String) (payload : Json) : List UInt8 :=
  argumentBytes group
    (argumentText (.ofFields [("kind", .string kind), ("payload", payload)]))

theorem key_eq (kind : String) (payload : Json) :
    key kind payload = Digest.hex (message kind payload) := rfl

/-- The message tells the kind and the arguments. -/
theorem message_inj {kind kind' : String} {payload payload' : Json}
    (h : message kind payload = message kind' payload') : kind = kind' ∧ payload = payload' := by
  have htext := argumentBytes_inj h
  have hfield := Json.find?_eq_of_ofFields_eq (Json.chars_inj htext)
  exact ⟨Json.string.inj (Option.some.inj (hfield "kind")), Option.some.inj (hfield "payload")⟩

end QueryMemo

end DynamicContent
