/-
# Queries from attributes

The attributes of a loop describe a query. What they say is text from the page, so every part of it
is cleaned, and what cannot be read is as if it were not there. Clauses may be given as JSON rows:
a list of objects, of which other values are passed over.
-/

import DynamicContent.Attribute.Basic
import DynamicContent.Html.Strip
import DynamicContent.Json.Parser
import DynamicContent.Number.Decimal
import DynamicContent.Query.Basic

namespace DynamicContent.Query

/-- The items of a text between commas, cleaned and without blank ones. -/
def splitList (raw : String) : List String :=
  ((Text.splitCommas raw).map Html.plainText).filter (!·.isEmpty)

/-- The columns that a search covers. -/
def searchColumns (mode : String) : List SearchColumn :=
  match Text.asciiLower mode with
  | "title" => [.title]
  | "title_excerpt" | "excerpt_title" => [.title, .excerpt]
  | _ => [.title, .excerpt, .content]

/-- The objects of a JSON list. -/
def rows (raw : String) : List Json :=
  match Json.parse? raw with
  | some (.array items) => items.filter fun item => item.object?.isSome
  | _ => []

/-- The text of a plain value, cleaned; empty for any other value. -/
def cleanText : Json → String
  | .string text => Html.plainText text
  | .int n => Number.intString n
  | .float x => String.ofList x.markedText
  | .bool value => if value then "true" else "false"
  | _ => ""

/-- The texts that a value of a row stands for, as a value again. -/
def cleanValue : Json → Json
  | .array items => .array (items.map fun item => .string (cleanText item))
  | v => .string (cleanText v)

/-- How values are compared unless a clause says otherwise. -/
def plainCompare : String := "="

/-- A comparison in upper case; the plain one if there is none. -/
def compareOf (text : String) : String :=
  if text.isEmpty then plainCompare else Text.asciiUpper text

/-- A row as a clause on the metadata; `none` if it names no key. -/
def metaClause? (row : Json) : Option MetaClause := do
  let key ← row.field? "key"
  some {
    key := Text.toKey (cleanText key)
    value := (row.field? "value").map cleanValue
    compare := compareOf (((row.field? "compare").map cleanText).getD "")
    valueType := (row.field? "type").map fun kind => Text.asciiUpper (cleanText kind) }

/-- The clauses on the metadata that JSON rows describe. -/
def metaClauses (raw : String) : List MetaClause := (rows raw).filterMap metaClause?

/-- The field that the terms of a row name. -/
def termField (name : Option String) : TermField :=
  match name with
  | some "term_id" => .termId
  | some "name" => .name
  | _ => .slug

/-- The operator that a row names. -/
def termOperator (name : Option String) : TermOperator :=
  match name with
  | some "NOT IN" => .noneOf
  | some "AND" => .allOf
  | some "EXISTS" => .present
  | some "NOT EXISTS" => .absent
  | _ => .anyOf

/-- The terms that a value of a row stands for. -/
def termsOf : Option Json → List String
  | some (.array items) => items.map cleanText
  | some v => [cleanText v]
  | none => []

/-- A row as a clause on the terms; `none` if it names no taxonomy. -/
def termClause? (row : Json) : Option TermClause := do
  let taxonomy := Text.toKey (cleanText (← row.field? "taxonomy"))
  if taxonomy.isEmpty then none
  else
    some {
      taxonomy
      field := termField ((row.field? "field").bind Json.string?)
      terms := termsOf (row.field? "terms")
      operator := termOperator ((row.field? "operator").bind Json.string?) }

/-- The clauses on the terms that JSON rows describe. -/
def termClauses (raw : String) : List TermClause := (rows raw).filterMap termClause?

/-- The clause on the metadata that the attributes describe themselves. -/
def ownMetaClause (attrs : Attributes) : List MetaClause :=
  let key := Text.toKey (attrs.text "meta_key")
  if key.isEmpty then []
  else
    let value := Html.plainText (attrs.text "meta_value")
    [{ key
       value := if value.isEmpty then none else some (.string value)
       compare := compareOf (attrs.trimmed "meta_compare")
       valueType := none }]

/-- A list of texts, or another one if it is empty. -/
def orElseList (items absent : List String) : List String := if items.isEmpty then absent else items

/-- A positive number, or another one. -/
def positiveOr (absent : Nat) (n : Int) : Nat := if 0 < n then n.toNat else absent

/-- The query that attributes describe. -/
def ofAttributes (attrs : Attributes) : PostQuery :=
  let orderBy := Html.plainText (attrs.text "orderby")
  let search := attrs.trimmed "s"
  { postTypes := orElseList (splitList (attrs.text "post_type")) ["post"]
    statuses := orElseList (splitList (attrs.text "post_status")) ["publish"]
    perPage := positiveOr plainPerPage (attrs.int "posts_per_page")
    paged := positiveOr 1 (attrs.int "paged")
    offset := (attrs.int "offset").toNat
    orderBy := if orderBy.isEmpty then "date" else Text.asciiLower orderBy
    order := if Text.eqIgnoringCase (attrs.trimmed "order") "asc" then .ascending else .descending
    author := if 0 < attrs.int "author" then some (attrs.int "author").toNat else none
    search := if search.isEmpty then none else some search
    searchColumns := if search.isEmpty then PostQuery.plain.searchColumns
      else searchColumns (attrs.trimmed "search_in")
    metaClauses := ownMetaClause attrs ++ metaClauses (attrs.text "meta_query")
    termClauses := termClauses (attrs.text "tax_query")
    exclude := [] }

end DynamicContent.Query
