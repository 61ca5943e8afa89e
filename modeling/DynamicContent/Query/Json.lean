/-
# Queries as JSON

The arguments of a query as a JSON value, which is also what its results are looked up by.
-/

import DynamicContent.Query.Basic

namespace DynamicContent

/-- The names of the directions. -/
def SortOrder.label : SortOrder → String
  | ascending => "Asc"
  | descending => "Desc"

/-- The names of the columns. -/
def SearchColumn.label : SearchColumn → String
  | title => "Title"
  | excerpt => "Excerpt"
  | content => "Content"

/-- The names of the fields of terms. -/
def TermField.label : TermField → String
  | termId => "TermId"
  | name => "Name"
  | slug => "Slug"

/-- The names of the operators. -/
def TermOperator.label : TermOperator → String
  | anyOf => "In"
  | noneOf => "NotIn"
  | allOf => "And"
  | present => "Exists"
  | absent => "NotExists"

/-- The member of a list that a JSON value names: by its name, or by an object with the name and
null. -/
def Json.namedIn? {α : Type} (name : α → String) (values : List α) : Json → Option α
  | string text => values.find? fun value => name value == text
  | object [(text, null)] => values.find? fun value => name value == text
  | _ => none

/-- The fields of a record, of which an array must have all. -/
def Json.completeFields? (names : List String) : Json → Option (List (String × Json))
  | object fields => some fields
  | array items => if items.length = names.length then some (names.zip items) else none
  | _ => none

/-- A number or null. -/
def Json.ofOptionNat : Option Nat → Json
  | some n => nat n
  | none => null

namespace MetaClause

/-- A clause with its fields. -/
def toJson (clause : MetaClause) : Json :=
  .ofFields [("key", .string clause.key), ("value", clause.value.getD .null),
    ("compare", .string clause.compare), ("value_type", .ofOptionString clause.valueType)]

/-- Reads a clause. -/
def ofJson? (v : Json) : Option MetaClause := do
  let fields ← v.completeFields? ["key", "value", "compare", "value_type"]
  some {
    key := ← Json.readField fields "key" none Json.string?
    value := ← Json.readField fields "value" (some none) (Json.nullOr? some)
    compare := ← Json.readField fields "compare" none Json.string?
    valueType := ← Json.readField fields "value_type" (some none) (Json.nullOr? Json.string?) }

end MetaClause

namespace TermClause

/-- A clause with its fields. -/
def toJson (clause : TermClause) : Json :=
  .ofFields [("taxonomy", .string clause.taxonomy), ("field", .string clause.field.label),
    ("terms", .array (clause.terms.map .string)), ("operator", .string clause.operator.label)]

/-- Reads a clause. -/
def ofJson? (v : Json) : Option TermClause := do
  let fields ← v.completeFields? ["taxonomy", "field", "terms", "operator"]
  some {
    taxonomy := ← Json.readField fields "taxonomy" none Json.string?
    field := ← Json.readField fields "field" none
      (Json.namedIn? TermField.label [.termId, .name, .slug])
    terms := ← Json.readField fields "terms" none (Json.listOf? Json.string?)
    operator := ← Json.readField fields "operator" none
      (Json.namedIn? TermOperator.label [.anyOf, .noneOf, .allOf, .present, .absent]) }

end TermClause

namespace PostQuery

/-- A query with its fields. -/
def toJson (query : PostQuery) : Json :=
  .ofFields [("post_types", .array (query.postTypes.map .string)),
    ("statuses", .array (query.statuses.map .string)), ("per_page", .nat query.perPage),
    ("paged", .nat query.paged), ("offset", .nat query.offset),
    ("order_by", .string query.orderBy), ("order", .string query.order.label),
    ("author", .ofOptionNat query.author), ("search", .ofOptionString query.search),
    ("search_columns", .array (query.searchColumns.map fun column => .string column.label)),
    ("meta_query", .array (query.metaClauses.map MetaClause.toJson)),
    ("tax_query", .array (query.termClauses.map TermClause.toJson)),
    ("exclude", .array (query.exclude.map .nat))]

/-- Reads a query. -/
def ofJson? (v : Json) : Option PostQuery := do
  let fields ← v.object?
  some {
    postTypes := ← Json.readField fields "post_types" none (Json.listOf? Json.string?)
    statuses := ← Json.readField fields "statuses" none (Json.listOf? Json.string?)
    perPage := ← Json.readField fields "per_page" none Json.nat64?
    paged := ← Json.readField fields "paged" none Json.nat64?
    offset := ← Json.readField fields "offset" none Json.nat64?
    orderBy := ← Json.readField fields "order_by" none Json.string?
    order := ← Json.readField fields "order" none
      (Json.namedIn? SortOrder.label [.ascending, .descending])
    author := ← Json.readField fields "author" (some none) (Json.nullOr? Json.nat64?)
    search := ← Json.readField fields "search" (some none) (Json.nullOr? Json.string?)
    searchColumns := ← Json.readField fields "search_columns" none
      (Json.listOf? (Json.namedIn? SearchColumn.label [.title, .excerpt, .content]))
    metaClauses := ← Json.readField fields "meta_query" none (Json.listOf? MetaClause.ofJson?)
    termClauses := ← Json.readField fields "tax_query" none (Json.listOf? TermClause.ofJson?)
    exclude := ← Json.readField fields "exclude" none (Json.listOf? Json.nat64?) }

/-- The plain query with some of its fields replaced. -/
def ofChanges? (changes : List (String × Json)) : Option PostQuery := do
  let fields ← PostQuery.plain.toJson.object?
  ofJson? (.object (changes.foldl (fun all (k, v) => SortedMap.insert k v all) fields))

end PostQuery

end DynamicContent
