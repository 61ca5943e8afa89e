/-
# Templates of the page builder

A template is shown by its number. What it expands to is remembered for each revision of it, and on a
page that shows it again within that time it is not expanded again. Whatever keeps a template from
being shown is said in its place.
-/

import DynamicContent.Cache.Key
import DynamicContent.Element.Finish

namespace DynamicContent.Element

/-- Why a template is not shown. -/
inductive TemplateProblem where
  | inactive
  | missingId
  | notFound
  | wrongType
  | unsupportedKind
  | recursive
  | empty
  | failed
deriving DecidableEq, Inhabited

/-- What is said in place of a template. -/
def TemplateProblem.message : TemplateProblem → String
  | inactive => "Page builder is not active."
  | missingId => "Missing or invalid \"id\" attribute."
  | notFound => "Template not found."
  | wrongType => "The provided ID is not a page-builder template."
  | unsupportedKind => "Unsupported page-builder template type."
  | recursive => "Recursive rendering detected."
  | empty => "Template is empty or cannot be rendered."
  | failed => "An error occurred while rendering the template."

/-- The group of the cache that templates are in. -/
def templateGroup : String := "templates"

/-- The type of the posts that are templates. -/
def templateType : String := "builder_template"

/-- Where the metadata of a template says which kind of template it is. -/
def templateKindKey : String := "_builder_template_type"

/-- For how many seconds a template is remembered. -/
def templateLifetime : Nat := 600

/-- The kind of a template, empty if it has none. -/
def templateKind (template : Post) : String := (metaText? template.metadata templateKindKey).getD ""

/-- Whether a template of a kind can be shown. -/
def isSupportedKind (kind : String) : Bool := ["", "section", "page"].contains kind

/-- The key of what the present revision of a template expands to. -/
def revisionKey (template : Post) : String :=
  Cache.templateKey template.id ((template.modifiedAt.map (·.toSeconds)).getD 0)
    (templateKind template)

/-- What a template of a kind expands to, with what belongs around it. -/
def templateMarkup (kind html : String) : String :=
  if kind = "section" && !html.isEmpty then
    "<div class=\"weft-builder-section\">" ++ html ++ "</div>"
  else html

/-- The template that attributes denote. -/
def template? (site : Site) (attrs : Attributes) : Except TemplateProblem Post := do
  if !site.builderActive then throw .inactive
  let some id := positiveId? attrs "id" | throw .missingId
  let some template := Site.found (site.post? id) | throw .notFound
  if template.postType ≠ templateType then throw .wrongType
  pure template

/-- What a template expands to, remembered or else expanded. -/
def expandTemplate (scope : Scope) (template : Post) : RenderM (Except TemplateProblem String) := do
  let cache := scope.host.cache
  let key := revisionKey template
  match ← (cache.get Json.string? key templateGroup : Cache.CacheM Cache.Store (Option String)) with
  | some html => pure (.ok html)
  | none =>
    match scope.host.site.templateSource template.id with
    | .error _ => pure (.error .failed)
    | .ok source =>
      let inner ← match source with
        | some source => scope.expandText source
        | none => pure ""
      let html := templateMarkup (templateKind template) inner
      if isBlankText html then pure (.error .empty)
      else
        let _ ← (cache.set key (some (.string html)) templateLifetime templateGroup :
          Cache.CacheM Cache.Store Bool)
        pure (.ok html)

/-- What is shown of a template: its markup as it is, or what keeps it from being shown. -/
def showTemplate (attrs : Attributes) : Except TemplateProblem String → String
  | .ok html => wrap html attrs
  | .error problem => finishMarkup .post problem.message attrs

/-- The defaults of a template. -/
def templateDefaults : Attributes :=
  (commonDefaults.insertText "name" "template").insert "id" (.int 0)

/-- Renders a template of the page builder. -/
def pageTemplate : Renderer where
  typeTag := "builder"
  defaults _ := pure templateDefaults
  render attrs _ scope := do
    if !Text.eqIgnoringCase (attrs.trimmed "name") "template" then pure ""
    else
      match template? scope.host.site attrs with
      | .error problem => pure (showTemplate attrs (.error problem))
      | .ok template =>
        RenderM.needAsset scope.request "weft-builder-frontend"
        let recursive : RenderM (Except TemplateProblem String) := pure (.error .recursive)
        let shown ←
          if !isSupportedKind (templateKind template) then pure (.error .unsupportedKind)
          else if scope.request.currentPost = some template.id then recursive
          else RenderM.insideTemplate template.id recursive (expandTemplate scope template)
        pure (showTemplate attrs shown)

end DynamicContent.Element
