/-
# Answering queries

The posts that a query asks for: those that meet all its conditions, in its order, and of these one
page. Posts that are equal in the order follow each other by number, so an order never depends on
how the records were written down.
-/

import DynamicContent.Json.Printer
import DynamicContent.Site.Content
import DynamicContent.Text.LetterCase

namespace DynamicContent.Site

/-- Whether a list of names accepts one: if it is empty, or has the name or `any`. -/
def accepts (accepted : List String) (name : String) : Bool :=
  accepted.isEmpty || accepted.any fun item => item == "any" || item == name

/-- The text of a column. -/
def searchedText (post : Post) : SearchColumn → String
  | .title => post.title
  | .excerpt => post.excerpt
  | .content => post.content

/-- Whether a text occurs in a column; letter case does not matter. -/
def hasText (post : Post) (search : String) (columns : List SearchColumn) : Bool :=
  columns.any fun column => Text.contains (Text.lower (searchedText post column)) (Text.lower search)

/-! ## Clauses on the metadata -/

/-- The text that a value is compared by. -/
def comparedText : Json → String
  | .string text => text
  | .bool value => if value then "1" else ""
  | .null => ""
  | v => v.print

/-- The number that a text is. -/
def number? (text : String) : Option Number.Extended64 :=
  Number.Extended64.ofText? (Text.trimChars text.toList)

/-- The order of texts by code point. -/
def compareTexts (s t : String) : Ordering :=
  if s < t then .lt else if s = t then .eq else .gt

/-- The order of two texts: as numbers if both are, else as texts unless numbers are asked for. -/
def compareValues (numeric : Bool) (stored expected : String) : Option Ordering :=
  match number? stored, number? expected with
  | some x, some y => x.compare? y
  | _, _ => if numeric then none else some (compareTexts stored expected)

/-- Whether a type of values is one of numbers. -/
def isNumericType (valueType : Option String) : Bool :=
  match valueType with
  | some kind => ["NUMERIC", "DECIMAL", "SIGNED", "UNSIGNED"].contains kind
  | none => false

/-- The texts that a value lists: its items, or what stands between commas. -/
def listedTexts : Json → List String
  | .array items => items.map comparedText
  | v => (Text.splitCommas (comparedText v)).map Text.trim

/-- Whether a stored text satisfies the comparison of a clause with an expected value. -/
def meetsComparison (clause : MetaClause) (stored : String) (expected : Json) : Bool :=
  let numeric := isNumericType clause.valueType
  let list := listedTexts expected
  let text := comparedText expected
  let order := compareValues numeric stored text
  let isLike := Text.contains (Text.lower stored) (Text.lower text)
  let isBetween := match list with
    | [low, high] =>
      (compareValues numeric stored low).any Ordering.isGE &&
        (compareValues numeric stored high).any Ordering.isLE
    | _ => false
  match clause.compare with
  | "=" => order == some .eq
  | "!=" => order != some .eq
  | ">" => order == some .gt
  | ">=" => order.any Ordering.isGE
  | "<" => order == some .lt
  | "<=" => order.any Ordering.isLE
  | "LIKE" => isLike
  | "NOT LIKE" => !isLike
  | "IN" => list.contains stored
  | "NOT IN" => !list.contains stored
  | "BETWEEN" => isBetween
  | "NOT BETWEEN" => !isBetween
  | _ => false

/-- Whether a post meets a clause on its metadata. A clause without a value is met by any value. -/
def meetsMeta (post : Post) (clause : MetaClause) : Bool :=
  let stored := post.metadata.find? clause.key
  match clause.compare with
  | "EXISTS" => stored.isSome
  | "NOT EXISTS" => stored.isNone
  | _ =>
    match stored, clause.value with
    | none, _ => false
    | some _, none => true
    | some v, some expected => meetsComparison clause (comparedText v) expected

/-! ## Clauses on the terms -/

/-- The terms of a post in a taxonomy. -/
def termsIn (site : Site) (post : Post) (taxonomy : String) : List Term :=
  (post.termIds.filterMap fun id => site.terms.find? (·.id == id)).filter (·.taxonomy == taxonomy)

/-- Whether a term is the one that a text names. -/
def isNamed (field : TermField) (term : Term) (wanted : String) : Bool :=
  let wanted := Text.trim wanted
  match field with
  | .termId => Number.natString term.id == wanted
  | .name => Text.eqIgnoringCase term.name wanted
  | .slug => term.slug == wanted

/-- Whether a post meets a clause on its terms. -/
def meetsTerms (site : Site) (post : Post) (clause : TermClause) : Bool :=
  let assigned := site.termsIn post clause.taxonomy
  let has (wanted : String) : Bool := assigned.any fun term => isNamed clause.field term wanted
  match clause.operator with
  | .anyOf => clause.terms.any has
  | .noneOf => !clause.terms.any has
  | .allOf => clause.terms.all has
  | .present => !assigned.isEmpty
  | .absent => assigned.isEmpty

/-! ## Whole queries -/

/-- Whether a post meets all conditions of a query. -/
def meets (site : Site) (query : PostQuery) (post : Post) : Bool :=
  accepts query.postTypes post.postType && accepts query.statuses post.status &&
    !query.exclude.contains post.id && query.author.all (· == post.authorId) &&
    query.search.all (fun search => hasText post search query.searchColumns) &&
    query.metaClauses.all (meetsMeta post) && query.termClauses.all (site.meetsTerms post)

/-- The order of instants that may be missing; a missing one is the earliest. -/
def compareStamps : Option Calendar.Stamp → Option Calendar.Stamp → Ordering
  | none, none => .eq
  | none, some _ => .lt
  | some _, none => .gt
  | some s, some t => s.compareInstant t

/-- The order of posts by a column, and by number where that leaves them equal. -/
def comparePosts (orderBy : String) (p q : Post) : Ordering :=
  let byColumn := match orderBy with
    | "title" => compareTexts (Text.lower p.title) (Text.lower q.title)
    | "name" | "slug" => compareTexts p.slug q.slug
    | "modified" => compareStamps p.modifiedAt q.modifiedAt
    | "author" => compare p.authorId q.authorId
    | "id" => .eq
    | _ => compareStamps p.publishedAt q.publishedAt
  byColumn.then (compare p.id q.id)

/-- All posts that a query asks for, in its order. -/
def allFound (site : Site) (query : PostQuery) : List Post :=
  let found := (site.posts.filter (site.meets query)).mergeSort fun p q =>
    (comparePosts query.orderBy p q).isLE
  match query.order with
  | .ascending => found
  | .descending => found.reverse

/-- How many posts precede the page that a query asks for; a number that does not fit into 64 bits is
the greatest that does. -/
def pageStart (query : PostQuery) : Nat :=
  if 0 < query.offset then query.offset
  else Number.saturatingMul (query.paged - 1) query.perPage

/-- The page of posts that a query asks for. -/
def queryPosts (site : Site) (query : PostQuery) : Except ContentError (List Post) :=
  if site.unreachable then .error (.persistence "storage unavailable")
  else if site.failsQueries then .error (.persistence "fixture configured to fail queries")
  else .ok (((site.allFound query).drop (pageStart query)).take query.perPage)

end DynamicContent.Site
