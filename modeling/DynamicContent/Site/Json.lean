/-
# Sites from documents

A site is described by one document: a table of its settings and lists of its records. Whatever is
left out is empty. The numbers of records of one kind must be positive and distinct.
-/

import DynamicContent.Record.Json
import DynamicContent.Site.Content

namespace DynamicContent

/-- Why a document describes no site. -/
inductive SiteDocumentError where
  | undecodable
  | idNotPositive
  | duplicateId (id : Nat)
deriving DecidableEq, Inhabited

/-- What is reported of a document that describes no site. -/
def SiteDocumentError.message : SiteDocumentError → String
  | undecodable => "the document cannot be decoded"
  | idNotPositive => "record ids must be positive"
  | duplicateId id => "duplicate record id " ++ Number.natString id

namespace Site

/-- Puts a record among records in ascending order of their numbers. -/
def insertById {α : Type} (id : α → Nat) (record : α) : List α → List α
  | [] => [record]
  | r :: rest => if id record < id r then record :: r :: rest else r :: insertById id record rest

/-- Records in ascending order of their numbers. -/
def indexById {α : Type} (id : α → Nat) (records : List α) : Except SiteDocumentError (List α) :=
  records.foldlM (fun indexed record =>
    if id record = 0 then .error .idNotPositive
    else if indexed.any fun r => id r = id record then .error (.duplicateId (id record))
    else .ok (insertById id record indexed)) []

/-- The base address with a slash at its end. -/
def baseUrlOf (written : Option String) : String :=
  let url := Text.trim (written.getD "")
  let url := if url.isEmpty then plainBaseUrl else url
  if Text.endsWith url "/" then url else url ++ "/"

/-- An attachment with its number. -/
def attachmentOfJson? (v : Json) : Option (Nat × String) := do
  let fields ← v.recordFields? ["id", "url"]
  some (← Json.readField fields "id" none Json.nat64?, ← Json.readField fields "url" none Json.string?)

/-- A template with its number. -/
def templateOfJson? (v : Json) : Option (Nat × Template) := do
  let fields ← v.recordFields? ["id", "html", "fail"]
  some (← Json.readField fields "id" none Json.nat64?,
    { html := ← Json.readField fields "html" (some "") Json.string?
      fails := ← Json.readField fields "fail" (some false) Json.bool? })

/-- A document to embed with its address. -/
def embedOfJson? (v : Json) : Option (String × String) := do
  let fields ← v.recordFields? ["url", "html"]
  some (← Json.readField fields "url" none Json.string?,
    ← Json.readField fields "html" none Json.string?)

/-- The site of a document whose records are still in the order in which they were written. -/
def decode? (v : Json) : Option Site := do
  let fields ← v.object?
  some {
    baseUrl := baseUrlOf (← Json.readField fields "base_url" (some none) (Json.nullOr? Json.string?))
    builderActive := ← Json.readField fields "builder_active" (some false) Json.bool?
    failsQueries := ← Json.readField fields "fail_queries" (some false) Json.bool?
    options := ← Json.readField fields "options" (some []) Json.object?
    constants := ← Json.readField fields "constants" (some []) Json.object?
    posts := ← Json.readField fields "posts" (some []) (Json.listOf? Post.ofJson?)
    terms := ← Json.readField fields "terms" (some []) (Json.listOf? Term.ofJson?)
    users := ← Json.readField fields "users" (some []) (Json.listOf? User.ofJson?)
    attachments :=
      (← Json.readField fields "attachments" (some []) (Json.listOf? attachmentOfJson?)).reverse
    templates := (← Json.readField fields "templates" (some []) (Json.listOf? templateOfJson?)).reverse
    embeds :=
      SortedMap.ofList (← Json.readField fields "embeds" (some []) (Json.listOf? embedOfJson?))
    unreachable := false }

/-- The site that a document describes. -/
def ofJson (v : Json) : Except SiteDocumentError Site :=
  match decode? v with
  | none => .error .undecodable
  | some site => do
    let posts ← indexById Post.id site.posts
    let terms ← indexById Term.id site.terms
    let users ← indexById User.id site.users
    return { site with posts, terms, users }

end Site

end DynamicContent
