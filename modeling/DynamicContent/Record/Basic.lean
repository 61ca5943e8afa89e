/-
# Records

The posts, terms and users of a site. Their columns are read by name; the name of a column may carry
the kind of the record in front. Structured values are kept as metadata beside the columns.
-/

import DynamicContent.Calendar.Stamp
import DynamicContent.Json.Basic

namespace DynamicContent

/-- A post. -/
structure Post where
  id : Nat
  postType : String
  slug : String
  title : String
  excerpt : String
  content : String
  status : String
  authorId : Nat
  publishedAt : Option Calendar.Stamp
  modifiedAt : Option Calendar.Stamp
  termIds : List Nat
  metadata : SortedMap Json
deriving Inhabited

/-- A term of a taxonomy. -/
structure Term where
  id : Nat
  taxonomy : String
  name : String
  slug : String
  description : String
  parent : Nat
  count : Nat
  metadata : SortedMap Json
deriving Inhabited

/-- A user. Nothing secret is part of it. -/
structure User where
  id : Nat
  login : String
  email : String
  displayName : String
  nicename : String
  url : String
  registered : Option Calendar.Stamp
  roles : List String
  metadata : SortedMap Json
deriving Inhabited

/-- The name of a column without the kind of the record in front of it. -/
def columnName (kind name : String) : String :=
  let lowered := Text.asciiLower (Text.trim name)
  (Text.dropPrefix? kind lowered).getD lowered

/-- A value of the metadata that is a text. -/
def metaText? (metadata : SortedMap Json) (key : String) : Option String :=
  (metadata.find? key).bind Json.string?

/-- A column of a post. -/
def Post.field? (post : Post) (name : String) : Option String :=
  match columnName "post_" name with
  | "id" => some (Number.natString post.id)
  | "type" => some post.postType
  | "name" | "slug" => some post.slug
  | "title" => some post.title
  | "excerpt" => some post.excerpt
  | "content" => some post.content
  | "status" => some post.status
  | "author" => some (Number.natString post.authorId)
  | "date" => post.publishedAt.map Calendar.Stamp.fieldText
  | "modified" => post.modifiedAt.map Calendar.Stamp.fieldText
  | _ => none

/-- A column of a term. -/
def Term.field? (term : Term) (name : String) : Option String :=
  match columnName "term_" name with
  | "id" => some (Number.natString term.id)
  | "taxonomy" => some term.taxonomy
  | "name" => some term.name
  | "slug" => some term.slug
  | "description" => some term.description
  | "parent" => some (Number.natString term.parent)
  | "count" => some (Number.natString term.count)
  | _ => none

/-- A column of a user. -/
def User.field? (user : User) (name : String) : Option String :=
  match columnName "user_" name with
  | "id" => some (Number.natString user.id)
  | "login" => some user.login
  | "email" => some user.email
  | "display_name" | "name" => some user.displayName
  | "nicename" => some user.nicename
  | "url" => some user.url
  | "registered" => user.registered.map Calendar.Stamp.fieldText
  | "roles" => some (Text.join "," user.roles)
  | _ => none

end DynamicContent
