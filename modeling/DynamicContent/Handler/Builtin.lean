/-
# The handlers of every engine

Some look something up, and others have something done. Each handler has a long name and one of two
letters.
-/

import DynamicContent.Engine.World
import DynamicContent.Html.Strip

namespace DynamicContent.Handler

/-! ## Directives that look something up

The parameter is the name of what is looked up: a value of the request, an option or constant of the
site, or a field or metadata of a post, term or user. For a record the parameter may be `name@id`, else
it is the current one. What is not there, or cannot be looked up now, is the empty text.

Options and constants are remembered in the cache, unless their lifetime is zero. Only text is given out,
so a value of another kind is the same as none; and since a lookup that fails is taken for one that
found nothing, it is remembered like one. -/

/-- A handler that depends on the parameter and the scope alone. -/
def ofLookup (lookup : String → Scope → Option String) : Handler :=
  ⟨fun param scope => pure ((lookup param scope).getD ""), .text⟩

/-- A handler that depends on the parameter and the request alone. -/
def ofRequest (lookup : Request → String → Option String) : Handler :=
  ofLookup fun param scope => lookup scope.request param

/-- A value of the query. -/
def queryValue : Handler := ofRequest fun request name => request.query.find? name

/-- A value of the body. -/
def bodyValue : Handler := ofRequest fun request name => request.body.find? name

/-- A value of the body or the query. -/
def requestValue : Handler := ofRequest Request.value?

/-- A value of the server, which may also be under the name in capitals. -/
def serverValue : Handler := ofRequest fun request name =>
  (request.server.find? name).orElse fun _ => request.server.find? (Text.asciiUpper name)

/-- A cookie. -/
def cookieValue : Handler := ofRequest fun request name => request.cookies.find? name

/-- A value of the session. -/
def sessionValue : Handler := ofRequest Request.sessionValue?

/-! ## Options and constants -/

/-- The group of the cache that options and constants are in. -/
def lookupGroup : String := "dynamic"

/-- The key of an option or constant. -/
def lookupKey (kind name : String) : String :=
  Cache.argumentKey (.ofFields [("kind", .string kind), ("param", .string name)]) lookupGroup

/-- The text of a value that is text. -/
def textOnly (v : Option Json) : Option String := v.bind Json.string?

/-- A text looked up by name, remembered under a kind; nothing has the empty name. -/
def remembered (kind : String) (lookup : Site → String → Option String) : Handler where
  answer name scope := do
    let host := scope.host
    let lifetime := host.limits.lookupLifetime
    if name.isEmpty then pure ""
    else if lifetime = 0 then pure ((lookup host.site name).getD "")
    else do
      let value ← (host.cache.remember (Json.nullOr? Json.string?)
        (fun value => some (Json.ofOptionString value)) (lookupKey kind name) lifetime lookupGroup
        (pure (lookup host.site name)) : Cache.CacheM Cache.Store (Option String))
      pure (value.getD "")
  cleaner := .text

/-- An option of the site. -/
def optionValue : Handler :=
  remembered "option" fun site name => textOnly (Site.found (site.option? name))

/-- A constant of the site. -/
def constantValue : Handler := remembered "const" fun site name => textOnly (site.constant? name)

/-! ## Records -/

/-- The name and the number in a parameter. An `@` that no number follows belongs to the name. -/
def splitTarget (param : String) : String × Option Nat :=
  match Text.cutLast '@' param with
  | some (name, id) =>
    match Number.nat64OfText? (Text.trimChars id.toList) with
    | some id => (Text.trim name, some id)
    | none => (param, none)
  | none => (param, none)

/-- A handler that reads something of a record: the given one, or else the current one. -/
def ofRecord {α : Type} (current : Request → Option Nat)
    (record : Site → Nat → Except ContentError (Option α)) (read : α → String → Option String) :
    Handler :=
  ofLookup fun param scope => do
    let (name, id) := splitTarget param
    let id ← id.orElse fun _ => current scope.request
    read (← Site.found (record scope.host.site id)) name

/-- A field of a post. -/
def postField : Handler := ofRecord Request.currentPost Site.post? Post.field?

/-- Metadata of a post. -/
def postMeta : Handler := ofRecord Request.currentPost Site.post? fun post => metaText? post.metadata

/-- A field of a term. -/
def termField : Handler := ofRecord Request.queriedTerm Site.term? Term.field?

/-- Metadata of a term. -/
def termMeta : Handler := ofRecord Request.queriedTerm Site.term? fun term => metaText? term.metadata

/-- A field of a user. -/
def userField : Handler := ofRecord (·.viewer.userId) Site.user? User.field?

/-- Metadata of a user. -/
def userMeta : Handler := ofRecord (·.viewer.userId) Site.user? fun user => metaText? user.metadata

/-! ## Directives that have something done

A function is called by its name and its arguments, a shortcode is rendered and stripped of its tags, and
an address of the site is given by its kind. Of a function that may not be called only those hear who
may change that. -/

/-- What is said of a function to those who manage the site. -/
def functionNotice (name what : String) : String := "Function \"" ++ name ++ "\" " ++ what

/-- The answer to a call: `name, argument, argument`. -/
def callFunction (host : Host) (request : Request) (call : String) : String :=
  match (Text.splitCommas call).map Text.trim with
  | [] => ""
  | name :: args =>
    let notice (what : String) := if request.isPrivileged then functionNotice name what else ""
    if name.isEmpty then ""
    else if !host.allowlist.allows name then notice "is not allowlisted."
    else
      match host.functions.call? name args with
      | some (.ok value) => value
      | some (.error _) => ""
      | none => notice "does not exist."

/-- The call of a function. -/
def functionCall : Handler :=
  ⟨fun param scope => pure (callFunction scope.host scope.request param), .text⟩

/-- What stands in the parentheses around a text, or the text itself. -/
def withoutParentheses (s : String) : String :=
  match s.toList with
  | '(' :: rest => if rest.getLast? = some ')' then String.ofList rest.dropLast else s
  | _ => s

/-- A shortcode without its brackets, which may be in parentheses. -/
def shortcode : Handler where
  answer param scope := do
    let inner := Text.trim (withoutParentheses (Text.trim param))
    if inner.isEmpty then pure ""
    else pure (Html.strip (← scope.expandShortcodes ("[" ++ inner ++ "]")))
  cleaner := .text

/-- An address of the site. -/
def siteUrl : Handler :=
  ⟨fun kind scope => pure ((scope.host.urls.ofKind? kind scope.request).getD ""), .url⟩

/-! ## Their names -/

/-- The handlers with their names. -/
def builtin : List (List String × Handler) := [
  (["get", "ge"], queryValue),
  (["post", "po"], bodyValue),
  (["request", "rq"], requestValue),
  (["server", "sv"], serverValue),
  (["cookie", "ck"], cookieValue),
  (["session", "ss"], sessionValue),
  (["option", "op"], optionValue),
  (["const", "co"], constantValue),
  (["post_field", "pf"], postField),
  (["post_meta", "pm"], postMeta),
  (["term_field", "tf"], termField),
  (["term_meta", "tm"], termMeta),
  (["user_field", "uf"], userField),
  (["user_meta", "um"], userMeta),
  (["func", "fn"], functionCall),
  (["shortcode", "sc"], shortcode),
  (["url", "ur"], siteUrl)]

end DynamicContent.Handler
