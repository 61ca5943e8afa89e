/-
# Queries

A query asks for the posts of some types and states, in an order and one page at a time. Clauses on
the metadata and on the terms of a post restrict it further.
-/

import DynamicContent.Json.Basic

namespace DynamicContent

/-- The direction of an order. -/
inductive SortOrder where
  | ascending
  | descending
deriving DecidableEq, Inhabited

/-- A column that is searched for a text. -/
inductive SearchColumn where
  | title
  | excerpt
  | content
deriving DecidableEq, Inhabited

/-- What the terms of a clause are compared with. -/
inductive TermField where
  | termId
  | name
  | slug
deriving DecidableEq, Inhabited

/-- How the terms of a clause restrict the posts. -/
inductive TermOperator where
  | anyOf
  | noneOf
  | allOf
  | present
  | absent
deriving DecidableEq, Inhabited

/-- A clause on the metadata of a post. -/
structure MetaClause where
  key : String
  value : Option Json
  compare : String
  valueType : Option String
deriving Inhabited

/-- A clause on the terms of a post. -/
structure TermClause where
  taxonomy : String
  field : TermField
  terms : List String
  operator : TermOperator
deriving DecidableEq, Inhabited

/-- A query for posts. -/
structure PostQuery where
  postTypes : List String
  statuses : List String
  perPage : Nat
  paged : Nat
  offset : Nat
  orderBy : String
  order : SortOrder
  author : Option Nat
  search : Option String
  searchColumns : List SearchColumn
  metaClauses : List MetaClause
  termClauses : List TermClause
  exclude : List Nat
deriving Inhabited

/-- The number of posts on a page unless something else is asked for. -/
def plainPerPage : Nat := 10

/-- The query for the newest published posts. -/
def PostQuery.plain : PostQuery where
  postTypes := ["post"]
  statuses := ["publish"]
  perPage := plainPerPage
  paged := 1
  offset := 0
  orderBy := "date"
  order := .descending
  author := none
  search := none
  searchColumns := [.title, .excerpt, .content]
  metaClauses := []
  termClauses := []
  exclude := []

end DynamicContent
