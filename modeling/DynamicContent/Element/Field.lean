/-
# Fields

Elements that show an option, or a field or metadata of a post, term or user. Posts and users are the
current ones unless the attributes say otherwise; a term is the queried one, if its taxonomy is the
one that is asked for. A value that is not there is the null value, which is shown as nothing.
-/

import DynamicContent.Element.Finish

namespace DynamicContent.Element

/-- Where the value of a field is. -/
inductive FieldSource where
  | option
  | postField
  | postMeta
  | termField
  | termMeta
  | userField
  | userMeta
deriving DecidableEq, Inhabited

namespace FieldSource

/-- All sources. -/
def all : List FieldSource :=
  [option, postField, postMeta, termField, termMeta, userField, userMeta]

/-- The type of the elements with a source. -/
def typeTag : FieldSource → String
  | option => "option"
  | postField => "post-field"
  | postMeta => "post-meta"
  | termField => "term-field"
  | termMeta => "term-meta"
  | userField => "user-field"
  | userMeta => "user-meta"

/-- A number as the value of an attribute, zero if there is none or it is too large. -/
def idValue (id : Option Nat) : AttributeValue :=
  match id with
  | some id => .int (if (id : Int) ≤ Number.int64Max then id else 0)
  | none => .int 0

/-- The defaults of the elements with a source. -/
def defaults (source : FieldSource) (request : Request) : Attributes :=
  let plain := defaultsWith ["name"]
  match source with
  | option => plain
  | postField | postMeta => plain.insert "id" (idValue request.currentPost)
  | termField | termMeta => (defaultsWith ["name", "taxonomy", "key"]).insert "id" (.int 0)
  | userField | userMeta => plain.insert "id" (idValue request.viewer.userId)

/-- The term that attributes denote. -/
def term? (site : Site) (request : Request) (attrs : Attributes) : Option Term := do
  match positiveId? attrs "id" with
  | some id => Site.found (site.term? id)
  | none =>
    let term ← Site.found (site.term? (← request.queriedTerm))
    let taxonomy := attrs.trimmed "taxonomy"
    if taxonomy.isEmpty || term.taxonomy = taxonomy then some term else none

/-- The value that attributes denote. -/
def value? (source : FieldSource) (site : Site) (request : Request) (attrs : Attributes) :
    Option Json := do
  let name := attrs.trimmed "name"
  let post? : Option Post := do Site.found (site.post? (← positiveId? attrs "id"))
  let user? : Option User := do Site.found (site.user? (← positiveId? attrs "id"))
  match source with
  | option => if name.isEmpty then none else Site.found (site.option? name)
  | postField => Json.string (← (← post?).field? name)
  | postMeta => (← post?).metadata.find? name
  | termField => Json.string (← (← term? site request attrs).field? name)
  | termMeta =>
    let key := attrs.trimmed "key"
    (← term? site request attrs).metadata.find? (if key.isEmpty then name else key)
  | userField => Json.string (← (← user?).field? name)
  | userMeta => (← user?).metadata.find? name

/-- Whether what stands inside an element with a source is shown after the value. -/
def showsContent : FieldSource → Bool
  | postField | termMeta => true
  | _ => false

/-- Renders the elements with a source. -/
def renderer (source : FieldSource) : Renderer where
  typeTag := source.typeTag
  defaults scope := pure (source.defaults scope.request)
  render attrs content scope := do
    let value := (source.value? scope.host.site scope.request attrs).getD .null
    let html := finishValue scope.host value attrs
    if source.showsContent && !content.isEmpty then pure (html ++ (← scope.expandText content))
    else pure html

end FieldSource

end DynamicContent.Element
