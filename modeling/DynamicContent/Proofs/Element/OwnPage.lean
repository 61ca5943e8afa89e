/-
# A list on the page that it would find

A list that is shown on a page searches posts, and the page is one of them. It leaves the page out if the
page's own words answer the search, but these are looked through without their tags, for the parts of
posts that the attribute `search_in` names, and in the site as it can be reached now. The posts are found
by their columns with all tags, by all columns if `search_in` names no parts, and they may be remembered.
So the page is left out unless one of these makes a difference, and where it does the page is listed.
-/

import DynamicContent.Element.Listing
import DynamicContent.Engine.Setup
import DynamicContent.Proofs.Cache.ReadBack
import DynamicContent.Proofs.Html.PlainText
import DynamicContent.Proofs.Site.Reordered
import DynamicContent.Proofs.Text.Casing

namespace DynamicContent

namespace RenderM

variable {α β : Type}

theorem bind_run (action : RenderM α) (next : α → RenderM β) (w : World) :
    (action >>= next) w = next (action w).1 (action w).2 := rfl

/-- An action on the cache changes nothing else. -/
theorem lift_run (action : Cache.CacheM Cache.Store α) (w : World) :
    (liftM action : RenderM α) w =
      ((action w.cache).1, { w with cache := (action w.cache).2 }) := rfl

/-- To count a question does not change the answer. -/
theorem askPosts_fst (site : Site) (query : PostQuery) (w : World) :
    (askPosts site query w).1 = site.queryPosts query := by
  rw [askPosts]
  split <;> rfl

end RenderM

namespace QueryMemo

/-- The posts of a query are those that are remembered or else, if the site answers, those that it
answers with. -/
theorem posts_askPosts_fst (memo : QueryMemo Cache.Store) (site : Site) (query : PostQuery) (w : World) :
    (memo.posts query (RenderM.askPosts site query) w).1 =
      match memo.lifetime? none with
      | none => (site.queryPosts query).toOption.getD []
      | some _ =>
        (memo.cache.remembered? (Json.listOf? Post.ofJson?) (key postsKind query.toJson) group
          w.cache.store).getD ((site.queryPosts query).toOption.getD []) := by
  rw [posts]
  cases memo.lifetime? none with
  | none =>
      dsimp only
      rw [RenderM.bind_run, RenderM.askPosts_fst]
      cases site.queryPosts query <;> rfl
  | some lifetime =>
      obtain ⟨counters, hget⟩ := memo.cache.get_eq (Json.listOf? Post.ofJson?)
        (key postsKind query.toJson) group w.cache
      dsimp only
      rw [RenderM.bind_run, RenderM.lift_run, hget]
      dsimp only
      cases memo.cache.remembered? (Json.listOf? Post.ofJson?) (key postsKind query.toJson) group
          w.cache.store with
      | some hit => rfl
      | none =>
          dsimp only
          rw [RenderM.bind_run, RenderM.askPosts_fst]
          cases site.queryPosts query <;> rfl

end QueryMemo

namespace Element

variable {document : Json} {site : Site} {host : Host} {request : Request} {attrs : Attributes}
  {query : PostQuery} {id : Nat} {down : Bool} {w : World}

/-- The posts that a host has for a query. -/
def postsFor (host : Host) (query : PostQuery) : RenderM (List Post) :=
  host.queries.posts query (RenderM.askPosts host.site query)

/-- The posts that a list shows. -/
def listed (host : Host) (request : Request) (attrs : Attributes) : RenderM (List Post) :=
  postsFor host (listingQuery host request attrs)

/-- A list of posts shows its items for these posts. -/
theorem listing_render (hname : Text.eqIgnoringCase (attrs.trimmed "name") "post" = true)
    (content : String) (scope : Scope) :
    listing.render attrs content scope = (do
      let (item, other) := Shortcode.splitElse scope.host.tag content
      let posts ← listed scope.host scope.request attrs
      if posts.isEmpty then
        if isBlankText other then pure ""
        else pure (Html.sanitize .post (← scope.expandText other))
      else pure (finishMarkup .post (← listItems scope item posts) attrs)) := by
  rw [listing]
  dsimp only
  rw [hname]
  rfl

/-- The values of `search_in` that name parts of posts. -/
def searchModes : List String := ["", "all", "title", "title_excerpt", "excerpt_title"]

/-- What is looked for in a page to tell whether a search finds it. -/
def searchedWords (attrs : Attributes) (page : Post) : String :=
  Text.spaced (searchedTexts (Text.asciiLower (attrs.trimmed "search_in")) page)

/-- Whether a page answers the search of a list by its words without tags. -/
def Answers (attrs : Attributes) (page : Post) : Prop :=
  Text.contains (Text.lower (Html.strip (searchedWords attrs page)))
    (Text.lower (attrs.trimmed "s")) = true

/-- Whether all that the cache has for a query is what a site answers it with. -/
def RemembersRightly (host : Host) (site : Site) (query : PostQuery) (w : World) : Prop :=
  ∀ hit, host.queries.cache.remembered? (Json.listOf? Post.ofJson?)
      (QueryMemo.key QueryMemo.postsKind query.toJson) QueryMemo.group w.cache.store = some hit →
    site.queryPosts query = .ok hit

/-! ## What is shown -/

theorem ofAttributes_search (hsearch : attrs.trimmed "s" ≠ "") :
    (Query.ofAttributes attrs).search = some (attrs.trimmed "s") := by
  have hblank : ¬ (attrs.trimmed "s").isEmpty = true := fun h => hsearch (String.isEmpty_iff.mp h)
  simp only [Query.ofAttributes, if_neg hblank]

theorem ofAttributes_searchColumns (hsearch : attrs.trimmed "s" ≠ "") :
    (Query.ofAttributes attrs).searchColumns = Query.searchColumns (attrs.trimmed "search_in") := by
  have hblank : ¬ (attrs.trimmed "s").isEmpty = true := fun h => hsearch (String.isEmpty_iff.mp h)
  simp only [Query.ofAttributes, if_neg hblank]

/-- The current page is looked up and its words are looked through. -/
theorem searchedPage?_eq_some_iff {found : Nat} (hsearch : attrs.trimmed "s" ≠ "")
    (hcurrent : request.currentPost = some id) :
    searchedPage? host request (Query.ofAttributes attrs) attrs = some found ↔
      found = id ∧ ∃ page, host.site.post? id = .ok (some page) ∧ Answers attrs page := by
  rw [searchedPage?, ofAttributes_search hsearch, hcurrent]
  simp only [Option.bind_eq_bind, Option.bind_some]
  cases hpage : host.site.post? id with
  | error _ => simp [Site.found]
  | ok page =>
      cases page with
      | none => simp [Site.found]
      | some page =>
          simp only [Site.found, Option.bind_some, Option.ite_none_right_eq_some, Except.ok.injEq,
            Option.some.injEq, exists_eq_left']
          exact and_comm.trans (and_congr_left' eq_comm)

/-- What is shown for a query was found by the site. -/
theorem mem_posts_of_postsFor (hhost : host.site = { site with unreachable := down })
    (hcache : RemembersRightly host site query w) :
    ∀ post ∈ (postsFor host query w).1, post ∈ site.posts ∧ site.meets query post = true := by
  have hasked : ∀ post ∈ (host.site.queryPosts query).toOption.getD [],
      post ∈ site.posts ∧ site.meets query post = true := by
    cases hfound : host.site.queryPosts query with
    | error _ => exact List.forall_mem_nil _
    | ok found =>
        have hmem := Site.mem_posts_of_queryPosts hfound
        rw [hhost] at hmem
        exact hmem
  rw [postsFor, QueryMemo.posts_askPosts_fst]
  split
  · exact hasked
  · cases hhit : host.queries.cache.remembered? (Json.listOf? Post.ofJson?)
        (QueryMemo.key QueryMemo.postsKind query.toJson) QueryMemo.group w.cache.store with
    | some hit => exact Site.mem_posts_of_queryPosts (hcache hit hhit)
    | none => exact hasked

/-- A page that answers the search is excluded. -/
theorem mem_exclude_of_searchedPage? (hexclude : attrs.trimmed "exclude_current" ≠ "0")
    (hpage : searchedPage? host request (Query.ofAttributes attrs) attrs = some id) :
    id ∈ (listingQuery host request attrs).exclude := by
  rw [listingQuery, if_neg hexclude]
  simp only [hpage]
  exact List.mem_append_right _ (List.mem_singleton_self id)

theorem listingQuery_eq (hpage : searchedPage? host request (Query.ofAttributes attrs) attrs = none) :
    listingQuery host request attrs = Query.ofAttributes attrs := by
  simp only [listingQuery, hpage, ite_self]

/-- A post that is excluded is not shown. -/
theorem id_ne_of_excluded (hhost : host.site = { site with unreachable := down })
    (hcache : RemembersRightly host site query w) (hexcluded : id ∈ query.exclude) :
    ∀ post ∈ (postsFor host query w).1, post.id ≠ id := by
  rintro post hpost rfl
  obtain ⟨-, hmeets⟩ := mem_posts_of_postsFor hhost hcache post hpost
  obtain ⟨-, -, hlisted, -⟩ := Site.meets_iff.mp hmeets
  exact hlisted hexcluded

/-- Where `search_in` names parts of posts, these are the columns that are searched. -/
theorem searchedTexts_eq {mode : String} (hmode : Text.asciiLower mode ∈ searchModes) (page : Post) :
    searchedTexts (Text.asciiLower mode) page =
      (Query.searchColumns mode).map (Site.searchedText page) := by
  rw [Query.searchColumns]
  simp only [searchModes, List.mem_cons, List.not_mem_nil, or_false] at hmode
  rcases hmode with hmode | hmode | hmode | hmode | hmode <;> rw [hmode] <;> rfl

/-- A post that is found is found by the words that would be looked through, with their tags. -/
theorem contains_searchedWords {page : Post} (hsearch : attrs.trimmed "s" ≠ "")
    (hmode : Text.asciiLower (attrs.trimmed "search_in") ∈ searchModes)
    (hmeets : site.meets (Query.ofAttributes attrs) page = true) :
    Text.contains (Text.lower (searchedWords attrs page)) (Text.lower (attrs.trimmed "s")) = true := by
  obtain ⟨-, -, -, -, htexts, -⟩ := Site.meets_iff.mp hmeets
  have htext := htexts _ (ofAttributes_search hsearch)
  rw [ofAttributes_searchColumns hsearch] at htext
  obtain ⟨column, hcolumn, hcontains⟩ := List.any_eq_true.mp htext
  refine Text.contains_lower_spaced_of_mem (s := Site.searchedText page column) ?_ hcontains
  rw [searchedTexts_eq hmode]
  exact List.mem_map_of_mem hcolumn

/-! ## The page itself -/

/-- On a page that its search would find a list shows the page exactly if it would show it with no post
excluded and the page cannot be reached or does not answer by its words. So it never does if
`search_in` names parts of posts, no element begins in these and the site can be reached. -/
theorem ownPage_listed_iff (hsite : Site.ofJson document = .ok site)
    (hhost : host.site = { site with unreachable := down }) (hcurrent : request.currentPost = some id)
    (hsearch : attrs.trimmed "s" ≠ "") (hexclude : attrs.trimmed "exclude_current" ≠ "0")
    (hcache : RemembersRightly host site (listingQuery host request attrs) w) :
    ((∃ post ∈ (listed host request attrs w).1, post.id = id) ↔
        (∃ post ∈ (postsFor host (Query.ofAttributes attrs) w).1, post.id = id) ∧
          ∀ page, host.site.post? id = .ok (some page) → ¬ Answers attrs page) ∧
      (Text.asciiLower (attrs.trimmed "search_in") ∈ searchModes →
        (∀ page ∈ site.posts, page.id = id → Html.Tagless (searchedWords attrs page).toList) →
        down = false → ∀ post ∈ (listed host request attrs w).1, post.id ≠ id) := by
  rw [listed]
  cases hpage : searchedPage? host request (Query.ofAttributes attrs) attrs with
  | some found =>
      obtain ⟨rfl, page, hfound, hanswers⟩ := (searchedPage?_eq_some_iff hsearch hcurrent).mp hpage
      have hnone := id_ne_of_excluded hhost hcache (mem_exclude_of_searchedPage? hexclude hpage)
      refine ⟨iff_of_false ?_ ?_, fun _ _ _ => hnone⟩
      · rintro ⟨post, hpost, hid⟩
        exact hnone post hpost hid
      · rintro ⟨-, hsilent⟩
        exact hsilent page hfound hanswers
  | none =>
      have hsilent (page : Post) (hfound : host.site.post? id = .ok (some page)) :
          ¬ Answers attrs page := by
        intro hanswers
        have hsome := (searchedPage?_eq_some_iff hsearch hcurrent).mpr ⟨rfl, page, hfound, hanswers⟩
        exact Option.some_ne_none id (hsome.symm.trans hpage)
      -- Nothing is excluded. If the page were found it would be by a column, and then by its words.
      rw [listingQuery_eq hpage] at hcache ⊢
      refine ⟨(and_iff_left hsilent).symm, ?_⟩
      rintro hmode htagless rfl post hpost rfl
      obtain ⟨hpost, hmeets⟩ := mem_posts_of_postsFor hhost hcache post hpost
      have hcontains := contains_searchedWords hsearch hmode hmeets
      have hstrip := (Html.strip_eq_self_iff _).mpr (htagless post hpost rfl)
      have hreachable := (Site.posts_of_ofJson hsite).2.2
      refine hsilent post ?_ ?_
      · rw [hhost, ← hreachable]
        exact Site.post?_eq_of_mem hsite hpost
      · rw [Answers, hstrip]
        exact hcontains

/-- A document with one post. -/
def teaDocument : Json :=
  .object [("posts", .array [.object [("id", .int 5), ("title", .string "Tea")]])]

/-- The site with this post. -/
def teaSite : Site :=
  { Site.empty with posts := [⟨5, "post", "", "Tea", "", "", "publish", 0, none, none, [], []⟩] }

/-- What a rendering of this site reads. -/
def teaHost : Host := (Setup.plain 0).host teaSite ⟨Cache.Store.backend 0, ""⟩

/-- A request for the page of this post. -/
def teaRequest : Request := { Request.anonymous with currentPost := some 5 }

/-- The attributes of a list on it that searches for its title and leaves it out. -/
def teaAttributes : Attributes :=
  ⟨[("name", .text "post"), ("s", .text "tea"), ("exclude_current", .text "1")]⟩

theorem tea_found : teaSite.queryPosts (Query.ofAttributes teaAttributes) = .ok teaSite.posts := by
  have hmeets : teaSite.posts.filter (teaSite.meets (Query.ofAttributes teaAttributes)) =
      teaSite.posts := by
    rw [List.filter_eq_self]
    decide +kernel
  have hall : teaSite.allFound (Query.ofAttributes teaAttributes) = teaSite.posts := by
    have horder : (Query.ofAttributes teaAttributes).order = .descending := by decide +kernel
    rw [Site.allFound, hmeets, horder]
    exact congrArg List.reverse (List.mergeSort_singleton _)
  have hstart : Site.pageStart (Query.ofAttributes teaAttributes) = 0 := by decide +kernel
  have hperPage : (Query.ofAttributes teaAttributes).perPage = 10 := by decide +kernel
  rw [Site.queryPosts, hall, hstart, hperPage]
  rfl

/-- The list would show the page, and does not. -/
theorem tea_not_listed :
    (∃ post ∈ (postsFor teaHost (Query.ofAttributes teaAttributes) (World.start .broken)).1,
        post.id = 5) ∧
      ∀ post ∈ (listed teaHost teaRequest teaAttributes (World.start .broken)).1, post.id ≠ 5 := by
  have hsite : Site.ofJson teaDocument = .ok teaSite := rfl
  have hcache (query : PostQuery) : RemembersRightly teaHost teaSite query (World.start .broken) :=
    fun hit hhit => by contradiction
  have hsearch : teaAttributes.trimmed "s" ≠ "" := by decide +kernel
  have hexclude : teaAttributes.trimmed "exclude_current" ≠ "0" := by decide +kernel
  have hmode : Text.asciiLower (teaAttributes.trimmed "search_in") ∈ searchModes := by decide +kernel
  have htagless : ∀ page ∈ teaSite.posts, page.id = 5 →
      Html.Tagless (searchedWords teaAttributes page).toList := by
    intro page hpage _
    obtain rfl := List.mem_singleton.mp hpage
    exact Html.Tagless.of_not_mem (by decide +kernel)
  have hfound : (postsFor teaHost (Query.ofAttributes teaAttributes) (World.start .broken)).1 =
      (teaSite.queryPosts (Query.ofAttributes teaAttributes)).toOption.getD [] :=
    QueryMemo.posts_askPosts_fst teaHost.queries teaSite _ _
  rw [hfound, tea_found]
  refine ⟨⟨_, List.mem_singleton_self _, rfl⟩, ?_⟩
  exact (ownPage_listed_iff hsite rfl rfl hsearch hexclude (hcache _)).2 hmode htagless rfl

end Element

end DynamicContent
