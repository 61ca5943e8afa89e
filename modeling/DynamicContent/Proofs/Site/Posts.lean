/-
# The posts of a site

A document gives a site no posts but those that it lists, whatever order they are put in, and a query
finds none but those of the site. So every post that is found is told by its fields.
-/

import DynamicContent.Proofs.Record.ReadBack
import DynamicContent.Proofs.Site.Numbered
import DynamicContent.Site.Search

namespace DynamicContent.Site

/-! ## Sites from documents -/

theorem exists_of_bind_eq_ok {ε β γ : Type} {x : Except ε β} {f : β → Except ε γ} {c : γ}
    (h : x >>= f = .ok c) : ∃ b, x = .ok b ∧ f b = .ok c := by
  cases x with
  | error _ => contradiction
  | ok b => exact ⟨b, rfl, h⟩

/-- Whether all posts of a site are told by their fields in JSON. -/
def PostsHaveJson (site : Site) : Prop := ∀ post ∈ site.posts, post.HasJson

/-- A document describes a site if its fields can be read. -/
theorem exists_of_decode? {document : Json} {site : Site} (h : decode? document = some site) :
    ∃ fields baseUrl attachments templates embeds, document = .object fields ∧
      Json.readField fields "base_url" (some none) (Json.nullOr? Json.string?) = some baseUrl ∧
      Json.readField fields "builder_active" (some false) Json.bool? = some site.builderActive ∧
      Json.readField fields "fail_queries" (some false) Json.bool? = some site.failsQueries ∧
      Json.readField fields "options" (some []) Json.object? = some site.options ∧
      Json.readField fields "constants" (some []) Json.object? = some site.constants ∧
      Json.readField fields "posts" (some []) (Json.listOf? Post.ofJson?) = some site.posts ∧
      Json.readField fields "terms" (some []) (Json.listOf? Term.ofJson?) = some site.terms ∧
      Json.readField fields "users" (some []) (Json.listOf? User.ofJson?) = some site.users ∧
      Json.readField fields "attachments" (some []) (Json.listOf? attachmentOfJson?) =
        some attachments ∧
      Json.readField fields "templates" (some []) (Json.listOf? templateOfJson?) = some templates ∧
      Json.readField fields "embeds" (some []) (Json.listOf? embedOfJson?) = some embeds ∧
      site = { site with
        baseUrl := baseUrlOf baseUrl, attachments := attachments.reverse
        templates := templates.reverse, embeds := SortedMap.ofList embeds, unreachable := false } := by
  cases document with
  | object fields =>
      obtain ⟨baseUrl, hbase, h⟩ := Option.bind_eq_some_iff.mp h
      obtain ⟨builderActive, hbuilder, h⟩ := Option.bind_eq_some_iff.mp h
      obtain ⟨failsQueries, hfails, h⟩ := Option.bind_eq_some_iff.mp h
      obtain ⟨options, hoptions, h⟩ := Option.bind_eq_some_iff.mp h
      obtain ⟨constants, hconstants, h⟩ := Option.bind_eq_some_iff.mp h
      obtain ⟨posts, hposts, h⟩ := Option.bind_eq_some_iff.mp h
      obtain ⟨terms, hterms, h⟩ := Option.bind_eq_some_iff.mp h
      obtain ⟨users, husers, h⟩ := Option.bind_eq_some_iff.mp h
      obtain ⟨attachments, hattachments, h⟩ := Option.bind_eq_some_iff.mp h
      obtain ⟨templates, htemplates, h⟩ := Option.bind_eq_some_iff.mp h
      obtain ⟨embeds, hembeds, h⟩ := Option.bind_eq_some_iff.mp h
      obtain rfl := Option.some.inj h
      exact ⟨fields, baseUrl, attachments, templates, embeds, rfl, hbase, hbuilder, hfails, hoptions,
        hconstants, hposts, hterms, husers, hattachments, htemplates, hembeds, rfl⟩
  | _ => contradiction

theorem postsHaveJson_of_decode? {document : Json} {site : Site} (h : decode? document = some site) :
    site.PostsHaveJson := by
  obtain ⟨fields, _, _, _, _, -, -, -, -, -, -, hposts, -⟩ := exists_of_decode? h
  exact Json.forall_of_readField (P := fun posts => ∀ post ∈ posts, post.HasJson)
    (fun _ ha => Option.some.inj ha ▸ List.forall_mem_nil _)
    (fun _ _ => Json.forall_of_listOf? fun _ _ => Post.hasJson_of_ofJson?) hposts

/-- The records of a site are those that its document lists, by number. -/
theorem exists_of_ofJson {document : Json} {site : Site} (h : ofJson document = .ok site) :
    ∃ written, decode? document = some written ∧
      indexById Post.id written.posts = .ok site.posts ∧
      indexById Term.id written.terms = .ok site.terms ∧
      indexById User.id written.users = .ok site.users ∧
      site = { written with posts := site.posts, terms := site.terms, users := site.users } := by
  rw [ofJson] at h
  split at h
  · contradiction
  · next written hwritten =>
      obtain ⟨posts, hposts, h⟩ := exists_of_bind_eq_ok h
      obtain ⟨terms, hterms, h⟩ := exists_of_bind_eq_ok h
      obtain ⟨users, husers, h⟩ := exists_of_bind_eq_ok h
      obtain rfl := Except.ok.inj h
      exact ⟨written, hwritten, hposts, hterms, husers, rfl⟩

/-- The posts of a site that a document describes are told by their fields. -/
theorem postsHaveJson_of_ofJson {document : Json} {site : Site} (h : ofJson document = .ok site) :
    site.PostsHaveJson := by
  obtain ⟨written, hwritten, hposts, -⟩ := exists_of_ofJson h
  obtain ⟨-, -, hperm, -⟩ := indexById_eq_ok_iff.mp hposts
  exact fun post hpost => postsHaveJson_of_decode? hwritten post (hperm.mem_iff.mp hpost)

/-! ## Queries -/

variable {site : Site} {query : PostQuery} {found : List Post}

/-- The conditions of a query, one by one. -/
theorem meets_iff {post : Post} : site.meets query post = true ↔
    accepts query.postTypes post.postType = true ∧ accepts query.statuses post.status = true ∧
      post.id ∉ query.exclude ∧ (∀ author ∈ query.author, author = post.authorId) ∧
      (∀ search ∈ query.search, hasText post search query.searchColumns = true) ∧
      (∀ clause ∈ query.metaClauses, meetsMeta post clause = true) ∧
      ∀ clause ∈ query.termClauses, site.meetsTerms post clause = true := by
  simp only [meets, Bool.and_eq_true, Bool.not_eq_true', List.contains_eq_mem, decide_eq_false_iff_not,
    Option.all_eq_true, List.all_eq_true, beq_iff_eq, Option.mem_def, and_assoc]

/-- A query finds the posts that meet its conditions. -/
theorem allFound_perm (site : Site) (query : PostQuery) :
    (site.allFound query).Perm (site.posts.filter (site.meets query)) := by
  rw [allFound]
  cases query.order with
  | ascending => exact List.mergeSort_perm _ _
  | descending => exact (List.reverse_perm _).trans (List.mergeSort_perm _ _)

/-- A query finds no posts but those of the site that meet its conditions. -/
theorem mem_posts_of_queryPosts (h : site.queryPosts query = .ok found) :
    ∀ post ∈ found, post ∈ site.posts ∧ site.meets query post = true := by
  rw [queryPosts] at h
  split at h
  · contradiction
  · split at h
    · contradiction
    · obtain rfl := Except.ok.inj h
      intro post hpost
      have hall : post ∈ site.allFound query := List.mem_of_mem_drop (List.mem_of_mem_take hpost)
      exact List.mem_filter.mp ((site.allFound_perm query).mem_iff.mp hall)

/-- What a query finds is read back from its fields. -/
theorem listOf?_of_queryPosts (hsite : site.PostsHaveJson) (h : site.queryPosts query = .ok found) :
    Json.listOf? Post.ofJson? (.array (found.map Post.toJson)) = some found :=
  Json.listOf?_map fun post hpost =>
    Post.ofJson?_toJson (hsite post (mem_posts_of_queryPosts h post hpost).1)

end DynamicContent.Site
