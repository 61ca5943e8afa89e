/-
# Records as JSON

A record is read strictly: a field of the wrong kind is refused, and so is a record without its
number or, for terms and users, without its names. What is left out has a default.
-/

import DynamicContent.Record.Basic

namespace DynamicContent

/-- A recorded instant, or null. -/
def stampOfJson? (v : Json) : Option (Option Calendar.Stamp) :=
  v.nullOr? fun v => v.string?.bind Calendar.Stamp.ofText?

/-- A recorded instant as JSON. -/
def stampToJson (t : Option Calendar.Stamp) : Json := .ofOptionString (t.map Calendar.Stamp.text)

namespace Post

/-- The fields of a post in their order. -/
def fieldNames : List String :=
  ["id", "post_type", "slug", "title", "excerpt", "content", "status", "author_id", "published_at",
    "modified_at", "term_ids", "meta"]

/-- Reads a post. -/
def ofJson? (v : Json) : Option Post := do
  let fields ← v.recordFields? fieldNames
  some {
    id := ← Json.readField fields "id" none Json.nat64?
    postType := ← Json.readField fields "post_type" (some "post") Json.string?
    slug := ← Json.readField fields "slug" (some "") Json.string?
    title := ← Json.readField fields "title" (some "") Json.string?
    excerpt := ← Json.readField fields "excerpt" (some "") Json.string?
    content := ← Json.readField fields "content" (some "") Json.string?
    status := ← Json.readField fields "status" (some "publish") Json.string?
    authorId := ← Json.readField fields "author_id" (some 0) Json.nat64?
    publishedAt := ← Json.readField fields "published_at" (some none) stampOfJson?
    modifiedAt := ← Json.readField fields "modified_at" (some none) stampOfJson?
    termIds := ← Json.readField fields "term_ids" (some []) (Json.listOf? Json.nat64?)
    metadata := ← Json.readField fields "meta" (some []) Json.object? }

/-- A post with all its fields. -/
def toJson (post : Post) : Json :=
  .ofFields [("id", .nat post.id), ("post_type", .string post.postType), ("slug", .string post.slug),
    ("title", .string post.title), ("excerpt", .string post.excerpt),
    ("content", .string post.content), ("status", .string post.status),
    ("author_id", .nat post.authorId), ("published_at", stampToJson post.publishedAt),
    ("modified_at", stampToJson post.modifiedAt), ("term_ids", .array (post.termIds.map .nat)),
    ("meta", .object post.metadata)]

end Post

namespace Term

/-- The fields of a term in their order. -/
def fieldNames : List String :=
  ["id", "taxonomy", "name", "slug", "description", "parent", "count", "meta"]

/-- Reads a term. -/
def ofJson? (v : Json) : Option Term := do
  let fields ← v.recordFields? fieldNames
  some {
    id := ← Json.readField fields "id" none Json.nat64?
    taxonomy := ← Json.readField fields "taxonomy" none Json.string?
    name := ← Json.readField fields "name" none Json.string?
    slug := ← Json.readField fields "slug" (some "") Json.string?
    description := ← Json.readField fields "description" (some "") Json.string?
    parent := ← Json.readField fields "parent" (some 0) Json.nat64?
    count := ← Json.readField fields "count" (some 0) Json.nat64?
    metadata := ← Json.readField fields "meta" (some []) Json.object? }

/-- A term with all its fields. -/
def toJson (term : Term) : Json :=
  .ofFields [("id", .nat term.id), ("taxonomy", .string term.taxonomy), ("name", .string term.name),
    ("slug", .string term.slug), ("description", .string term.description),
    ("parent", .nat term.parent), ("count", .nat term.count), ("meta", .object term.metadata)]

end Term

namespace User

/-- The fields of a user in their order. -/
def fieldNames : List String :=
  ["id", "login", "email", "display_name", "nicename", "url", "registered", "roles", "meta"]

/-- Reads a user. -/
def ofJson? (v : Json) : Option User := do
  let fields ← v.recordFields? fieldNames
  some {
    id := ← Json.readField fields "id" none Json.nat64?
    login := ← Json.readField fields "login" none Json.string?
    email := ← Json.readField fields "email" (some "") Json.string?
    displayName := ← Json.readField fields "display_name" (some "") Json.string?
    nicename := ← Json.readField fields "nicename" (some "") Json.string?
    url := ← Json.readField fields "url" (some "") Json.string?
    registered := ← Json.readField fields "registered" (some none) stampOfJson?
    roles := ← Json.readField fields "roles" (some []) (Json.listOf? Json.string?)
    metadata := ← Json.readField fields "meta" (some []) Json.object? }

/-- A user with all its fields. -/
def toJson (user : User) : Json :=
  .ofFields [("id", .nat user.id), ("login", .string user.login), ("email", .string user.email),
    ("display_name", .string user.displayName), ("nicename", .string user.nicename),
    ("url", .string user.url), ("registered", stampToJson user.registered),
    ("roles", .array (user.roles.map .string)), ("meta", .object user.metadata)]

end User

end DynamicContent
