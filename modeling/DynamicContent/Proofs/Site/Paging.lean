/-
# Pages of a query

A query asks for one page of the posts that it finds. These are all posts that meet its conditions, in a
strict order: posts that a column leaves equal follow each other by number, and no two have the same.
The pages cut this list into pieces of one length. How many posts precede a page is computed with a limit,
but the limit is only met behind the last post, where every page is empty.
-/

import DynamicContent.Proofs.Site.Reordered

namespace DynamicContent

/-- The other direction. -/
def SortOrder.opposite : SortOrder → SortOrder
  | .ascending => .descending
  | .descending => .ascending

namespace Site

variable {document : Json} {site : Site} {query : PostQuery}

/-- The first pages of a query, one after the other. -/
def firstPages (site : Site) (query : PostQuery) : Nat → Except ContentError (List Post)
  | 0 => .ok []
  | count + 1 => do
    let earlier ← site.firstPages query count
    let page ← site.queryPosts { query with paged := count + 1 }
    return earlier ++ page

/-! ## The order of posts -/

/-- Whether a post precedes another one in the order of a query. -/
def Precedes (query : PostQuery) (p q : Post) : Prop :=
  match query.order with
  | .ascending => comparePosts query.orderBy p q = .lt
  | .descending => comparePosts query.orderBy q p = .lt

theorem transCmp_compareInstant : Std.TransCmp Calendar.Stamp.compareInstant :=
  inferInstanceAs (Std.TransCmp (compareLex (compareOn Calendar.Stamp.toSeconds)
    (compareOn fun t : Calendar.Stamp => t.clock.nanosecond)))

theorem transCmp_compareStamps : Std.TransCmp compareStamps := by
  let _ : Ord Calendar.Stamp := ⟨Calendar.Stamp.compareInstant⟩
  have _ : Std.TransOrd Calendar.Stamp := transCmp_compareInstant
  have hstamps : compareStamps =
      (compare : Option Calendar.Stamp → Option Calendar.Stamp → Ordering) := by
    funext s t
    cases s <;> cases t <;> rfl
  rw [hstamps]
  infer_instance

/-- Posts can be ordered by a column if its values can. -/
theorem transCmp_on {α : Type} {compared : α → α → Ordering} (h : Std.TransCmp compared)
    (column : Post → α) : Std.TransCmp fun p q => compared (column p) (column q) where
  eq_swap := h.eq_swap
  isLE_trans := h.isLE_trans

/-- Whatever column posts are ordered by, this is an order. -/
theorem transCmp_comparePosts (orderBy : String) : Std.TransCmp (comparePosts orderBy) := by
  have htexts : Std.TransCmp compareTexts := inferInstanceAs (Std.TransOrd String)
  have hnumbers : Std.TransCmp (compare : Nat → Nat → Ordering) := inferInstance
  have hthen {byColumn : Post → Post → Ordering} (h : Std.TransCmp byColumn) :
      Std.TransCmp fun p q => (byColumn p q).then (compare p.id q.id) :=
    inferInstanceAs (Std.TransCmp (compareLex byColumn (compareOn Post.id)))
  unfold comparePosts
  split
  · exact hthen (transCmp_on htexts fun p => Text.lower p.title)
  · exact hthen (transCmp_on htexts Post.slug)
  · exact hthen (transCmp_on htexts Post.slug)
  · exact hthen (transCmp_on transCmp_compareStamps Post.modifiedAt)
  · exact hthen (transCmp_on hnumbers Post.authorId)
  · exact transCmp_on hnumbers Post.id
  · exact hthen (transCmp_on transCmp_compareStamps Post.publishedAt)

theorem id_eq_of_comparePosts {orderBy : String} {p q : Post} (h : comparePosts orderBy p q = .eq) :
    p.id = q.id :=
  Nat.compare_eq_eq.mp (Ordering.then_eq_eq.mp h).2

/-! ## What a query finds -/

/-- The opposite order is the reverse one. -/
theorem allFound_opposite (site : Site) (query : PostQuery) :
    site.allFound { query with order := query.order.opposite } = (site.allFound query).reverse := by
  have hmeets : site.meets { query with order := query.order.opposite } = site.meets query := rfl
  rw [allFound, allFound, hmeets]
  cases query.order with
  | ascending => rfl
  | descending => exact (List.reverse_reverse _).symm

/-- What a query finds has distinct numbers if the posts of the site do. -/
theorem nodup_allFound (hids : site.posts.Pairwise fun p q => p.id < q.id) (query : PostQuery) :
    ((site.allFound query).map Post.id).Nodup :=
  ((site.allFound_perm query).map Post.id).nodup_iff.mpr (nodup_of_sorted (hids.filter _))

/-- What a query finds is in its order. -/
theorem pairwise_precedes_allFound (hids : site.posts.Pairwise fun p q => p.id < q.id)
    (query : PostQuery) : (site.allFound query).Pairwise (Precedes query) := by
  have horder := transCmp_comparePosts query.orderBy
  let sorted := (site.posts.filter (site.meets query)).mergeSort fun p q =>
    (comparePosts query.orderBy p q).isLE
  have htotal (p q : Post) : ((comparePosts query.orderBy p q).isLE ||
      (comparePosts query.orderBy q p).isLE) = true := by
    have hswap : comparePosts query.orderBy q p = (comparePosts query.orderBy p q).swap :=
      horder.eq_swap
    rw [hswap]
    cases comparePosts query.orderBy p q <;> rfl
  have hle : sorted.Pairwise fun p q => (comparePosts query.orderBy p q).isLE :=
    List.pairwise_mergeSort (fun _ _ _ => Std.TransCmp.isLE_trans) htotal _
  have hne : sorted.Pairwise fun p q => p.id ≠ q.id :=
    List.pairwise_map.mp (((List.mergeSort_perm _ _).map Post.id).nodup_iff.mpr
      (nodup_of_sorted (hids.filter _)))
  -- Only posts of one number are equal in the order, and no two have one.
  have hlt : sorted.Pairwise fun p q => comparePosts query.orderBy p q = .lt := by
    refine (hle.and hne).imp fun {p q} ⟨hle, hne⟩ => ?_
    cases h : comparePosts query.orderBy p q with
    | lt => rfl
    | eq => exact absurd (id_eq_of_comparePosts h) hne
    | gt =>
        rw [h] at hle
        contradiction
  unfold Precedes
  rw [allFound]
  cases query.order with
  | ascending => exact hlt
  | descending => exact List.pairwise_reverse.mpr hlt

/-! ## Pages -/

/-- No product is too great for the start of a page. -/
theorem pageStart_le (query : PostQuery) (hoffset : query.offset = 0) :
    pageStart query ≤ Number.nat64Max := by
  rw [pageStart, if_neg (by omega)]
  exact Nat.min_le_right _ _

/-- The limit of 64 bits leaves out no post. -/
theorem drop_pageStart {posts : List Post} (hposts : posts.length ≤ Number.nat64Max)
    (query : PostQuery) (hoffset : query.offset = 0) :
    posts.drop (pageStart query) = posts.drop ((query.paged - 1) * query.perPage) := by
  rw [pageStart, if_neg (by omega), Number.saturatingMul]
  rcases Nat.le_total ((query.paged - 1) * query.perPage) Number.nat64Max with hfits | hlimit
  · rw [Nat.min_eq_left hfits]
  · -- Either start is behind the last post.
    rw [Nat.min_eq_right hlimit, List.drop_eq_nil_of_le hposts,
      List.drop_eq_nil_of_le (hposts.trans hlimit)]

/-- A page holds the posts that follow those of all pages before it. -/
theorem queryPosts_page (hsite : ofJson document = .ok site) (hfails : site.failsQueries = false)
    (query : PostQuery) (hoffset : query.offset = 0) (paged : Nat) :
    site.queryPosts { query with paged } =
      .ok (((site.allFound query).drop ((paged - 1) * query.perPage)).take query.perPage) := by
  have hreachable := (posts_of_ofJson hsite).2.2
  have hlength : (site.allFound query).length ≤ Number.nat64Max := by
    rw [(site.allFound_perm query).length_eq]
    exact (List.length_filter_le _ _).trans (length_posts_le hsite)
  have hstart := drop_pageStart hlength { query with paged } hoffset
  rw [queryPosts, hreachable, hfails]
  exact congrArg (fun posts => Except.ok (posts.take query.perPage)) hstart

/-- The first pages are the first posts that the query finds. -/
theorem firstPages_eq (hsite : ofJson document = .ok site) (hfails : site.failsQueries = false)
    (query : PostQuery) (hoffset : query.offset = 0) (count : Nat) :
    site.firstPages query count = .ok ((site.allFound query).take (count * query.perPage)) := by
  induction count with
  | zero =>
      rw [firstPages, Nat.zero_mul]
      rfl
  | succ count ih =>
      rw [firstPages, ih, queryPosts_page hsite hfails query hoffset, Nat.add_sub_cancel, Nat.add_mul,
        Nat.one_mul, List.take_add]
      rfl

/-- Behind a page that is not full there are only empty ones. -/
theorem queryPosts_eq_nil (hsite : ofJson document = .ok site) (hfails : site.failsQueries = false)
    (hoffset : query.offset = 0) {paged later : Nat} (hpaged : 1 ≤ paged) (hlater : paged < later)
    {page : List Post} (hpage : site.queryPosts { query with paged } = .ok page)
    (hshort : page.length < query.perPage) : site.queryPosts { query with paged := later } = .ok [] := by
  rw [queryPosts_page hsite hfails query hoffset] at hpage ⊢
  obtain rfl := Except.ok.inj hpage
  rw [List.length_take, List.length_drop] at hshort
  have hend : (site.allFound query).length ≤ (paged - 1) * query.perPage + query.perPage := by omega
  have hnext : (paged - 1) * query.perPage + query.perPage = paged * query.perPage := by
    rw [← Nat.succ_mul, Nat.succ_eq_add_one, Nat.sub_add_cancel hpaged]
  have hbehind : paged * query.perPage ≤ (later - 1) * query.perPage :=
    Nat.mul_le_mul_right _ (by omega)
  rw [List.drop_eq_nil_of_le (hend.trans (hnext.le.trans hbehind)), List.take_nil]

/-- The pages of a query hold each post that meets its conditions once, in its order. No page is longer
than asked for, those behind a page that is not full are empty, and where a page starts is a number of 64
bits. The opposite order gives the reverse list. The order in which a document lists its records is
without effect on any query. -/
theorem pages_exact (hsite : ofJson document = .ok site) (hfails : site.failsQueries = false)
    (hoffset : query.offset = 0) (hperPage : 1 ≤ query.perPage) :
    (∃ found : List Post, found.Perm (site.posts.filter (site.meets query)) ∧
        (found.map Post.id).Nodup ∧ found.Pairwise (Precedes query) ∧
        (∀ count, site.firstPages query count = .ok (found.take (count * query.perPage))) ∧
        ∀ count, found.length ≤ count → site.firstPages query count = .ok found ∧
          site.firstPages { query with order := query.order.opposite } count = .ok found.reverse) ∧
      (∀ paged, pageStart { query with paged } ≤ Number.nat64Max ∧
        ∃ page, site.queryPosts { query with paged } = .ok page ∧ page.length ≤ query.perPage ∧
          (1 ≤ paged → page.length < query.perPage → ∀ later, paged < later →
            site.queryPosts { query with paged := later } = .ok [])) ∧
      ∀ other, document.SameRows other →
        ∃ site', ofJson other = .ok site' ∧
          ∀ query', site'.queryPosts query' = site.queryPosts query' := by
  have hids := (posts_of_ofJson hsite).2.1
  have hall {posts : List Post} {count : Nat} (hcount : posts.length ≤ count) :
      posts.take (count * query.perPage) = posts :=
    List.take_of_length_le (hcount.trans (Nat.le_mul_of_pos_right count hperPage))
  refine ⟨⟨site.allFound query, site.allFound_perm query, nodup_allFound hids query,
    pairwise_precedes_allFound hids query, firstPages_eq hsite hfails query hoffset,
    fun count hcount => ⟨?_, ?_⟩⟩, fun paged => ⟨?_, ?_⟩, fun other h => queryPosts_of_sameRows h hsite⟩
  · rw [firstPages_eq hsite hfails query hoffset, hall hcount]
  · rw [firstPages_eq hsite hfails { query with order := query.order.opposite } hoffset,
      allFound_opposite, hall (List.length_reverse.trans_le hcount)]
  · exact pageStart_le _ hoffset
  · refine ⟨_, queryPosts_page hsite hfails query hoffset paged, List.length_take_le _ _, ?_⟩
    intro hpaged hshort later hlater
    exact queryPosts_eq_nil hsite hfails hoffset hpaged hlater
      (queryPosts_page hsite hfails query hoffset paged) hshort

/-- A document that lists three posts. -/
def shelfDocument : Json :=
  .object [("posts", .array [.object [("id", .int 8)], .object [("id", .int 2)],
    .object [("id", .int 5), ("title", .string "Tea")]])]

/-- The document with the same posts by number. -/
def tidyShelfDocument : Json :=
  .object [("posts", .array [.object [("id", .int 2)], .object [("id", .int 5), ("title", .string "Tea")],
    .object [("id", .int 8)]])]

/-- The site with these posts. -/
def shelfSite : Site :=
  { Site.empty with posts := [(2, ""), (5, "Tea"), (8, "")].map fun (id, title) =>
      ⟨id, "post", "", title, "", "", "publish", 0, none, none, [], []⟩ }

theorem shelfDocument_sameRows : shelfDocument.SameRows tidyShelfDocument := by
  refine ⟨_, _, rfl, rfl, fun name => ?_⟩
  simp only [SortedMap.find?]
  split
  · exact .some (Json.SameItems.array ((List.Perm.swap _ _ _).trans ((List.Perm.swap _ _ _).cons _)))
  · exact .none

/-- A query for pages of two posts. -/
def pairQuery : PostQuery := { PostQuery.plain with perPage := 2 }

/-- The three posts stand on the first pages, in either order. -/
theorem shelf_pages_exact :
    (∃ found : List Post, found.length = 3 ∧ shelfSite.firstPages pairQuery 3 = .ok found ∧
        shelfSite.firstPages { pairQuery with order := .ascending } 3 = .ok found.reverse) ∧
      ∃ site', ofJson tidyShelfDocument = .ok site' ∧
        ∀ query, site'.queryPosts query = shelfSite.queryPosts query := by
  have hsite : ofJson shelfDocument = .ok shelfSite := rfl
  have hoffset : pairQuery.offset = 0 := rfl
  obtain ⟨⟨found, hperm, -, -, -, hpages⟩, -, hrows⟩ := pages_exact hsite rfl hoffset (by decide)
  have hlength : found.length = 3 := hperm.length_eq
  exact ⟨⟨found, hlength, hpages 3 hlength.le⟩, hrows tidyShelfDocument shelfDocument_sameRows⟩

end Site

end DynamicContent
