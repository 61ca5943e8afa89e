/-
# The content of a site

Posts, terms and users by number, with options, constants, attachments, templates and embedded
documents. A site whose storage is out of reach answers no question about its content or options;
constants, templates and embedded documents do not need the storage.
-/

import DynamicContent.Query.Basic
import DynamicContent.Record.Basic
import DynamicContent.Number.Integer

namespace DynamicContent

/-- Why content could not be read. -/
inductive ContentError where
  | persistence (cause : String)
  | invalidInput (cause : String)
deriving DecidableEq, Inhabited

/-- What is reported of a failed reading. -/
def ContentError.message : ContentError → String
  | persistence cause => "persistence error: " ++ cause
  | invalidInput cause => "invalid input: " ++ cause

/-- Why a template gave no markup. -/
inductive TemplateError where
  | engineUnavailable
  | empty (id : Nat)
  | failed (id : Nat) (cause : String)
deriving DecidableEq, Inhabited

/-- What is reported of a template without markup. -/
def TemplateError.message : TemplateError → String
  | engineUnavailable => "template engine unavailable"
  | empty id => "template `" ++ Number.natString id ++ "` produced no output"
  | failed id cause => "template `" ++ Number.natString id ++ "` failed: " ++ cause

/-- A template of the page builder. -/
structure Template where
  html : String
  fails : Bool
deriving Inhabited

/-- A site. Records are in ascending order of their numbers; of several attachments or templates with
one number the first counts. -/
structure Site where
  baseUrl : String
  builderActive : Bool
  failsQueries : Bool
  options : SortedMap Json
  constants : SortedMap Json
  posts : List Post
  terms : List Term
  users : List User
  attachments : List (Nat × String)
  templates : List (Nat × Template)
  embeds : SortedMap String
  unreachable : Bool
deriving Inhabited

namespace Site

/-- The base address of a site that names none. -/
def plainBaseUrl : String := "http://localhost/"

/-- A site without content. -/
def empty : Site := ⟨plainBaseUrl, false, false, [], [], [], [], [], [], [], [], false⟩

/-- An answer, unless the storage is out of reach. -/
def answer {α : Type} (site : Site) (a : α) : Except ContentError α :=
  if site.unreachable then .error (.persistence "storage unavailable") else .ok a

/-- The post with a number. -/
def post? (site : Site) (id : Nat) : Except ContentError (Option Post) :=
  site.answer (site.posts.find? (·.id == id))

/-- The term with a number. -/
def term? (site : Site) (id : Nat) : Except ContentError (Option Term) :=
  site.answer (site.terms.find? (·.id == id))

/-- The user with a number. -/
def user? (site : Site) (id : Nat) : Except ContentError (Option User) :=
  site.answer (site.users.find? (·.id == id))

/-- The address of an attachment. -/
def attachmentUrl? (site : Site) (id : Nat) : Except ContentError (Option String) :=
  site.answer ((site.attachments.find? (·.1 == id)).map (·.2))

/-- The address of a post. -/
def permalink? (site : Site) (id : Nat) : Except ContentError (Option String) :=
  site.answer ((site.posts.find? (·.id == id)).map fun post =>
    if post.slug.isEmpty then site.baseUrl ++ "?p=" ++ Number.natString post.id
    else site.baseUrl ++ post.slug ++ "/")

/-- The address of a term. -/
def termLink? (site : Site) (id : Nat) : Except ContentError (Option String) :=
  site.answer ((site.terms.find? (·.id == id)).map fun term =>
    let slug := if term.slug.isEmpty then Number.natString term.id else term.slug
    site.baseUrl ++ term.taxonomy ++ "/" ++ slug ++ "/")

/-- The value of an option. -/
def option? (site : Site) (name : String) : Except ContentError (Option Json) :=
  site.answer (site.options.find? name)

/-- The value of a constant. -/
def constant? (site : Site) (name : String) : Option Json := site.constants.find? name

/-- The document to embed for an address. -/
def embed? (site : Site) (url : String) : Option String := site.embeds.find? url

/-- The markup of a template before it is expanded; `none` if there is no such template. -/
def templateSource (site : Site) (id : Nat) : Except TemplateError (Option String) :=
  if !site.builderActive then .error .engineUnavailable
  else
    match site.templates.find? (·.1 == id) with
    | none => .ok none
    | some (_, template) =>
      if template.fails then .error (.failed id "fixture template marked as failing")
      else .ok (some template.html)

end Site

end DynamicContent
