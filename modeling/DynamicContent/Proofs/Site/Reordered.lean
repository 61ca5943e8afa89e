/-
# Sites do not depend on the order of their records

A document lists its records in some order, and a site has them in ascending order of their numbers,
which is one order for the same records. So documents that list them in different orders describe sites
that answer queries alike.
-/

import DynamicContent.Proofs.Site.Posts
import Mathlib.Data.Finset.Card
import Mathlib.Order.Interval.Finset.Nat

namespace DynamicContent

/-! ## Rows in another order -/

namespace Json

/-- The same value, but for the order of the items if it is an array. -/
inductive SameItems : Json → Json → Prop
  | same (v : Json) : SameItems v v
  | array {items others : List Json} (h : items.Perm others) : SameItems (.array items) (.array others)

/-- Documents with the same fields, but for the order of the rows in each list. -/
def SameRows (document other : Json) : Prop :=
  ∃ fields others, document = .object fields ∧ other = .object others ∧
    ∀ name, Option.Rel SameItems (SortedMap.find? name fields) (SortedMap.find? name others)

variable {α : Type} {read : Json → Option α} {fields others : List (String × Json)} {name : String}

/-- Rows are read in the order in which they stand. -/
theorem mapM_of_perm {rows rows' : List Json} (h : rows.Perm rows') {xs : List α}
    (hread : rows.mapM read = some xs) : ∃ ys, rows'.mapM read = some ys ∧ xs.Perm ys := by
  induction h generalizing xs with
  | nil => exact ⟨xs, hread, .refl xs⟩
  | cons row _ ih =>
      rw [List.mapM_cons] at hread
      obtain ⟨x, hx, hread⟩ := Option.bind_eq_some_iff.mp hread
      obtain ⟨rest, hrest, hread⟩ := Option.bind_eq_some_iff.mp hread
      obtain rfl := Option.some.inj hread
      obtain ⟨ys, hys, hperm⟩ := ih hrest
      refine ⟨x :: ys, ?_, hperm.cons x⟩
      rw [List.mapM_cons, hx, hys]
      rfl
  | swap row row' rows =>
      rw [List.mapM_cons, List.mapM_cons] at hread
      obtain ⟨x', hx', hread⟩ := Option.bind_eq_some_iff.mp hread
      obtain ⟨behind, hbehind, hread⟩ := Option.bind_eq_some_iff.mp hread
      obtain ⟨x, hx, hbehind⟩ := Option.bind_eq_some_iff.mp hbehind
      obtain ⟨rest, hrest, hbehind⟩ := Option.bind_eq_some_iff.mp hbehind
      obtain rfl := Option.some.inj hread
      obtain rfl := Option.some.inj hbehind
      refine ⟨x :: x' :: rest, ?_, .swap x x' rest⟩
      rw [List.mapM_cons, List.mapM_cons, hx, hx', hrest]
      rfl
  | trans _ _ ih ih' =>
      obtain ⟨ys, hys, hperm⟩ := ih hread
      obtain ⟨zs, hzs, hperm'⟩ := ih' hys
      exact ⟨zs, hzs, hperm.trans hperm'⟩

/-- A list of rows in another order is read in that order. -/
theorem readField_rows (h : Option.Rel SameItems (SortedMap.find? name fields)
      (SortedMap.find? name others)) {absent : List α} {xs : List α}
    (hread : readField fields name (some absent) (listOf? read) = some xs) :
    ∃ ys, readField others name (some absent) (listOf? read) = some ys ∧ xs.Perm ys := by
  rw [readField] at hread ⊢
  generalize SortedMap.find? name fields = found, SortedMap.find? name others = found' at h hread ⊢
  cases h with
  | none => exact ⟨xs, hread, .refl xs⟩
  | some h =>
      cases h with
      | same v => exact ⟨xs, hread, .refl xs⟩
      | array h => exact mapM_of_perm h hread

/-- A field that is no list is read as it was. -/
theorem readField_value (hread : ∀ items, read (.array items) = none)
    (h : Option.Rel SameItems (SortedMap.find? name fields) (SortedMap.find? name others))
    (absent : Option α) : readField others name absent read = readField fields name absent read := by
  rw [readField, readField]
  generalize SortedMap.find? name fields = found, SortedMap.find? name others = found' at h ⊢
  cases h with
  | none => rfl
  | some h =>
      cases h with
      | same v => rfl
      | array h => exact (hread _).trans (hread _).symm

end Json

/-! ## Documents -/

namespace Site

variable {document other : Json} {site : Site} {query : PostQuery}

/-- Sites with the same records, which may be in different orders, and of which one can be asked if the
other can. -/
structure SameRecords (site other : Site) : Prop where
  posts : site.posts.Perm other.posts
  terms : site.terms.Perm other.terms
  users : site.users.Perm other.users
  failsQueries : other.failsQueries = site.failsQueries
  unreachable : other.unreachable = site.unreachable

theorem decode?_of_sameRows (h : document.SameRows other) (hsite : decode? document = some site) :
    ∃ site', decode? other = some site' ∧ site.SameRecords site' := by
  obtain ⟨fields, others, rfl, rfl, hsame⟩ := h
  obtain ⟨_, baseUrl, attachments, templates, embeds, hfields, hbase, hbuilder, hfails, hoptions,
    hconstants, hposts, hterms, husers, hattachments, htemplates, hembeds, hsite⟩ :=
    exists_of_decode? hsite
  obtain rfl := Json.object.inj hfields
  rw [← Json.readField_value (fun _ => rfl) (hsame _)] at hbase hbuilder hfails hoptions hconstants
  obtain ⟨posts', hposts', hpostsPerm⟩ := Json.readField_rows (hsame _) hposts
  obtain ⟨terms', hterms', htermsPerm⟩ := Json.readField_rows (hsame _) hterms
  obtain ⟨users', husers', husersPerm⟩ := Json.readField_rows (hsame _) husers
  obtain ⟨attachments', hattachments', -⟩ := Json.readField_rows (hsame _) hattachments
  obtain ⟨templates', htemplates', -⟩ := Json.readField_rows (hsame _) htemplates
  obtain ⟨embeds', hembeds', -⟩ := Json.readField_rows (hsame _) hembeds
  refine ⟨⟨baseUrlOf baseUrl, site.builderActive, site.failsQueries, site.options, site.constants,
    posts', terms', users', attachments'.reverse, templates'.reverse, SortedMap.ofList embeds', false⟩,
    ?_, hpostsPerm, htermsPerm, husersPerm, rfl, (congrArg unreachable hsite).symm⟩
  refine Option.bind_eq_some_iff.mpr ⟨baseUrl, hbase, ?_⟩
  refine Option.bind_eq_some_iff.mpr ⟨site.builderActive, hbuilder, ?_⟩
  refine Option.bind_eq_some_iff.mpr ⟨site.failsQueries, hfails, ?_⟩
  refine Option.bind_eq_some_iff.mpr ⟨site.options, hoptions, ?_⟩
  refine Option.bind_eq_some_iff.mpr ⟨site.constants, hconstants, ?_⟩
  refine Option.bind_eq_some_iff.mpr ⟨posts', hposts', ?_⟩
  refine Option.bind_eq_some_iff.mpr ⟨terms', hterms', ?_⟩
  refine Option.bind_eq_some_iff.mpr ⟨users', husers', ?_⟩
  refine Option.bind_eq_some_iff.mpr ⟨attachments', hattachments', ?_⟩
  refine Option.bind_eq_some_iff.mpr ⟨templates', htemplates', ?_⟩
  exact Option.bind_eq_some_iff.mpr ⟨embeds', hembeds', rfl⟩

/-- Sites with the same posts and terms answer queries alike. -/
theorem queryPosts_congr {site' : Site} (hposts : site'.posts = site.posts)
    (hterms : site'.terms = site.terms) (hfails : site'.failsQueries = site.failsQueries)
    (hunreachable : site'.unreachable = site.unreachable) (query : PostQuery) :
    site'.queryPosts query = site.queryPosts query := by
  have hterms : site'.meetsTerms = site.meetsTerms := by
    funext post clause
    simp only [meetsTerms, termsIn, hterms]
  have hmeets : site'.meets query = site.meets query := by
    funext post
    rw [meets, meets, hterms]
  simp only [queryPosts, allFound, hmeets, hposts, hfails, hunreachable]

/-- A document that lists the rows of another one in other orders describes a site that answers every
query as that one's does. -/
theorem queryPosts_of_sameRows (h : document.SameRows other) (hsite : ofJson document = .ok site) :
    ∃ site', ofJson other = .ok site' ∧ ∀ query, site'.queryPosts query = site.queryPosts query := by
  obtain ⟨written, hwritten, hposts, hterms, husers, hsite⟩ := exists_of_ofJson hsite
  obtain ⟨written', hwritten', hsame⟩ := decode?_of_sameRows h hwritten
  let site' : Site := { written' with posts := site.posts, terms := site.terms, users := site.users }
  have hfails : site'.failsQueries = site.failsQueries :=
    hsame.failsQueries.trans (congrArg failsQueries hsite).symm
  have hunreachable : site'.unreachable = site.unreachable :=
    hsame.unreachable.trans (congrArg unreachable hsite).symm
  refine ⟨site', ?_, queryPosts_congr rfl rfl hfails hunreachable⟩
  rw [ofJson, hwritten']
  dsimp only
  rw [indexById_of_perm hsame.posts hposts, indexById_of_perm hsame.terms hterms,
    indexById_of_perm hsame.users husers]
  rfl

/-- The posts of a site that a document describes have positive and ascending numbers, and the site is
within reach. -/
theorem posts_of_ofJson (hsite : ofJson document = .ok site) :
    (∀ post ∈ site.posts, post.id ≠ 0) ∧ (site.posts.Pairwise fun p q => p.id < q.id) ∧
      site.unreachable = false := by
  obtain ⟨written, hwritten, hposts, -, -, hsite⟩ := exists_of_ofJson hsite
  obtain ⟨_, _, _, _, _, -, -, -, -, -, -, -, -, -, -, -, -, hreachable⟩ := exists_of_decode? hwritten
  obtain ⟨hpositive, -, hperm, hsorted⟩ := indexById_eq_ok_iff.mp hposts
  refine ⟨fun post hpost => hpositive post (hperm.mem_iff.mp hpost), hsorted, ?_⟩
  rw [hsite]
  exact congrArg unreachable hreachable

/-- A post of a site is looked up by its number. -/
theorem post?_eq_of_mem (hsite : ofJson document = .ok site) {post : Post}
    (hpost : post ∈ site.posts) : site.post? post.id = .ok (some post) := by
  obtain ⟨-, hsorted, hreachable⟩ := posts_of_ofJson hsite
  rw [post?, answer, if_neg (by rw [hreachable]; exact Bool.false_ne_true)]
  cases hfound : site.posts.find? (·.id == post.id) with
  | none =>
      have hother := List.find?_eq_none.mp hfound post hpost
      exact absurd (beq_self_eq_true post.id) hother
  | some found =>
      have hid := List.find?_some hfound
      rw [List.inj_on_of_nodup_map (nodup_of_sorted hsorted) (List.mem_of_find?_eq_some hfound) hpost
        (eq_of_beq hid)]

/-- A site has no more posts than there are numbers for them. -/
theorem length_posts_le (hsite : ofJson document = .ok site) :
    site.posts.length ≤ Number.nat64Max := by
  obtain ⟨hpositive, hsorted, -⟩ := posts_of_ofJson hsite
  have hsub : (site.posts.map Post.id).toFinset ⊆ Finset.Icc 1 Number.nat64Max := by
    intro id hid
    obtain ⟨post, hpost, rfl⟩ := List.mem_map.mp (List.mem_toFinset.mp hid)
    exact Finset.mem_Icc.mpr ⟨Nat.pos_of_ne_zero (hpositive post hpost),
      (postsHaveJson_of_ofJson hsite post hpost).id⟩
  have hcard := Finset.card_le_card hsub
  rwa [List.toFinset_card_of_nodup (nodup_of_sorted hsorted), List.length_map, Nat.card_Icc,
    Nat.add_sub_cancel] at hcard

end Site

end DynamicContent
