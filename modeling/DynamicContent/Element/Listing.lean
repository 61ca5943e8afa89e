/-
# Lists of posts

The posts that a query finds, each shown by what stands inside the element with that post as the current
one. What stands after the mark `[tag else]` is shown if there are no posts.

A page that lists posts is a post itself, and a search that the page's own words answer would find it.
The attribute `exclude_current` with any value but `0` leaves it out then.
-/

import DynamicContent.Element.Finish
import DynamicContent.Html.Strip
import DynamicContent.Query.OfAttributes
import DynamicContent.Shortcode.Piece
import DynamicContent.Text.LetterCase

namespace DynamicContent.Element

/-- The parts of a post that a search in some parts of posts reads. -/
def searchedTexts (mode : String) (post : Post) : List String :=
  let inTitle := ["title", "title_excerpt", "excerpt_title", "all", ""].contains mode
  let inExcerpt := ["title_excerpt", "excerpt_title", "all", ""].contains mode
  let inContent := ["all", ""].contains mode
  (if inTitle then [post.title] else []) ++ (if inExcerpt then [post.excerpt] else [])
    ++ (if inContent then [post.content] else [])

/-- The current post, if a search would find it. -/
def searchedPage? (host : Host) (request : Request) (query : PostQuery) (attrs : Attributes) :
    Option Nat := do
  let search ← query.search
  let id ← request.currentPost
  let page ← Site.found (host.site.post? id)
  let mode := Text.asciiLower (attrs.trimmed "search_in")
  let words := String.join ((searchedTexts mode page).map (" " ++ ·))
  if Text.contains (Text.lower (Html.strip words)) (Text.lower search) then some id else none

/-- The query of a list. -/
def listingQuery (host : Host) (request : Request) (attrs : Attributes) : PostQuery :=
  let query := Query.ofAttributes attrs
  if attrs.trimmed "exclude_current" = "0" then query
  else
    match searchedPage? host request query attrs with
    | some id => { query with exclude := query.exclude ++ [id] }
    | none => query

/-- The defaults of a list. -/
def listingDefaults : Attributes :=
  let texts (entries : List (String × String)) (attrs : Attributes) :=
    entries.foldl (fun attrs entry => attrs.insertText entry.1 entry.2) attrs
  let attrs := texts [("name", "post"), ("post_type", "post")] commonDefaults
  let attrs := attrs.insert "posts_per_page" (.int 3)
  let attrs := texts [("orderby", "date"), ("order", "DESC"), ("author", "")] attrs
  let attrs := (attrs.insert "paged" (.int 1)).insert "offset" (.int 0)
  texts [("post_status", "publish"), ("s", ""), ("meta_key", ""), ("meta_value", ""),
    ("meta_compare", ""), ("meta_query", ""), ("tax_query", ""), ("search_in", ""),
    ("exclude_current", "0")] attrs

/-- The markup of some posts, each with itself as the current one. -/
def listItems (scope : Scope) (item : String) : List Post → RenderM String
  | [] => pure ""
  | post :: rest => do
    let first ← scope.expandFor (scope.request.withCurrentPost post.id) item
    let others ← listItems scope item rest
    pure (first ++ others)

/-- Renders a list of posts. -/
def listing : Renderer where
  typeTag := "loop"
  defaults _ := pure listingDefaults
  render attrs content scope := do
    if !Text.eqIgnoringCase (attrs.trimmed "name") "post" then pure ""
    else
      let host := scope.host
      let (item, other) := Shortcode.splitElse host.tag content
      let query := listingQuery host scope.request attrs
      let posts ← host.queries.posts query (RenderM.askPosts host.site query)
      if posts.isEmpty then
        if isBlankText other then pure ""
        else pure (Html.sanitize .post (← scope.expandText other))
      else pure (finishMarkup .post (← listItems scope item posts) attrs)

end DynamicContent.Element
