/-
# Posts are read back

A post is written with all its fields, each under a name of its own, and read by these names. So it is
read back if each field is: a number if it has no more than 64 bits, an instant if a timestamp can tell
it, and texts, numbers of terms and metadata as they are. Every post that is read is such a post.
-/

import DynamicContent.Proofs.Calendar.Stamp
import DynamicContent.Proofs.Data.SortedMap
import DynamicContent.Record.Json

namespace DynamicContent

open Number (nat64Max)

/-! ## Fields -/

namespace Json

/-- A field is read from an object if its value is, and the value is the last one of that name. -/
theorem readField_ofList {α : Type} {fields : List (String × Json)} {name : String}
    {absent : Option α} {read : Json → Option α} {v : Json} {a : α}
    (hfind : SortedMap.find? name fields.reverse = some v) (hread : read v = some a) :
    readField (SortedMap.ofList fields) name absent read = some a := by
  rw [readField, SortedMap.find?_ofList, hfind]
  exact hread

theorem nat64?_nat {n : Nat} (h : n ≤ nat64Max) : nat64? (.nat n) = some n := by
  have hbounds : (0 : Int) ≤ n ∧ (n : Int) ≤ nat64Max := by omega
  rw [nat, nat64?, if_pos hbounds, Int.toNat_natCast]

theorem le_of_nat64? {v : Json} {n : Nat} (h : nat64? v = some n) : n ≤ nat64Max := by
  unfold nat64? at h
  split at h
  · split at h
    · obtain rfl := Option.some.inj h
      omega
    · contradiction
  · contradiction

theorem listOf?_map {α : Type} {encode : α → Json} {read : Json → Option α} {xs : List α}
    (h : ∀ x ∈ xs, read (encode x) = some x) : listOf? read (.array (xs.map encode)) = some xs := by
  induction xs with
  | nil => rfl
  | cons x xs ih =>
      have hrest := ih fun y hy => h y (List.mem_cons_of_mem _ hy)
      rw [listOf?] at hrest ⊢
      rw [List.map_cons, List.mapM_cons, h x List.mem_cons_self, hrest]
      rfl

/-- Each member of a list that is read is read itself. -/
theorem forall_of_listOf? {α : Type} {P : α → Prop} {read : Json → Option α}
    (hread : ∀ v x, read v = some x → P x) {v : Json} {xs : List α} (h : listOf? read v = some xs) :
    ∀ x ∈ xs, P x := by
  unfold listOf? at h
  split at h
  · next items =>
      induction items generalizing xs with
      | nil =>
          obtain rfl := Option.some.inj h
          exact List.forall_mem_nil _
      | cons item items ih =>
          rw [List.mapM_cons] at h
          obtain ⟨x, hx, h⟩ := Option.bind_eq_some_iff.mp h
          obtain ⟨rest, hrest, h⟩ := Option.bind_eq_some_iff.mp h
          obtain rfl := Option.some.inj h
          exact List.forall_mem_cons.mpr ⟨hread item x hx, ih hrest⟩
  · contradiction

/-- What is read of a field is what its reader gives, or stands for a field that is left out. -/
theorem forall_of_readField {α : Type} {P : α → Prop} {absent : Option α} {read : Json → Option α}
    (habsent : ∀ a, absent = some a → P a) (hread : ∀ v a, read v = some a → P a)
    {fields : List (String × Json)} {name : String} {a : α}
    (h : readField fields name absent read = some a) : P a := by
  rw [readField] at h
  split at h
  · exact habsent a h
  · exact hread _ a h

end Json

/-! ## Instants -/

theorem stampOfJson?_stampToJson {t : Option Calendar.Stamp} (h : ∀ s ∈ t, s.HasText) :
    stampOfJson? (stampToJson t) = some t := by
  cases t with
  | none => rfl
  | some s =>
      rw [stampToJson, Option.map_some, Json.ofOptionString, stampOfJson?, Json.nullOr?,
        Json.string?, Option.bind_some, Calendar.Stamp.ofText?_text (h s rfl), Option.map_some]
      exact fun hnull => by contradiction

theorem hasText_of_stampOfJson? {v : Json} {t : Option Calendar.Stamp}
    (h : stampOfJson? v = some t) : ∀ s ∈ t, s.HasText := by
  unfold stampOfJson? Json.nullOr? at h
  split at h
  · obtain rfl := Option.some.inj h
    exact fun s hs => by contradiction
  · obtain ⟨s, hs, rfl⟩ := Option.map_eq_some_iff.mp h
    obtain ⟨text, -, htext⟩ := Option.bind_eq_some_iff.mp hs
    intro r hr
    obtain rfl := Option.some.inj hr
    exact Calendar.Stamp.hasText_of_ofText? htext

/-! ## Posts -/

namespace Post

/-- Whether a post is told by its fields in JSON: no number of it has more than 64 bits, and a timestamp
can tell its instants. -/
structure HasJson (post : Post) : Prop where
  id : post.id ≤ nat64Max
  authorId : post.authorId ≤ nat64Max
  publishedAt : ∀ t ∈ post.publishedAt, t.HasText
  modifiedAt : ∀ t ∈ post.modifiedAt, t.HasText
  termIds : ∀ id ∈ post.termIds, id ≤ nat64Max

/-- A post is read from an object whose fields are read as those of the post. -/
theorem ofJson?_object {fields : List (String × Json)} {post : Post}
    (hid : Json.readField fields "id" none Json.nat64? = some post.id)
    (htype : Json.readField fields "post_type" (some "post") Json.string? = some post.postType)
    (hslug : Json.readField fields "slug" (some "") Json.string? = some post.slug)
    (htitle : Json.readField fields "title" (some "") Json.string? = some post.title)
    (hexcerpt : Json.readField fields "excerpt" (some "") Json.string? = some post.excerpt)
    (hcontent : Json.readField fields "content" (some "") Json.string? = some post.content)
    (hstatus : Json.readField fields "status" (some "publish") Json.string? = some post.status)
    (hauthor : Json.readField fields "author_id" (some 0) Json.nat64? = some post.authorId)
    (hpublished : Json.readField fields "published_at" (some none) stampOfJson? =
      some post.publishedAt)
    (hmodified : Json.readField fields "modified_at" (some none) stampOfJson? =
      some post.modifiedAt)
    (hterms : Json.readField fields "term_ids" (some []) (Json.listOf? Json.nat64?) =
      some post.termIds)
    (hmeta : Json.readField fields "meta" (some []) Json.object? = some post.metadata) :
    ofJson? (.object fields) = some post := by
  rw [ofJson?]
  refine Option.bind_eq_some_iff.mpr ⟨fields, rfl, ?_⟩
  refine Option.bind_eq_some_iff.mpr ⟨_, hid, ?_⟩
  refine Option.bind_eq_some_iff.mpr ⟨_, htype, ?_⟩
  refine Option.bind_eq_some_iff.mpr ⟨_, hslug, ?_⟩
  refine Option.bind_eq_some_iff.mpr ⟨_, htitle, ?_⟩
  refine Option.bind_eq_some_iff.mpr ⟨_, hexcerpt, ?_⟩
  refine Option.bind_eq_some_iff.mpr ⟨_, hcontent, ?_⟩
  refine Option.bind_eq_some_iff.mpr ⟨_, hstatus, ?_⟩
  refine Option.bind_eq_some_iff.mpr ⟨_, hauthor, ?_⟩
  refine Option.bind_eq_some_iff.mpr ⟨_, hpublished, ?_⟩
  refine Option.bind_eq_some_iff.mpr ⟨_, hmodified, ?_⟩
  refine Option.bind_eq_some_iff.mpr ⟨_, hterms, ?_⟩
  exact Option.bind_eq_some_iff.mpr ⟨_, hmeta, rfl⟩

/-- A post is read back from its fields. -/
theorem ofJson?_toJson {post : Post} (h : post.HasJson) : ofJson? post.toJson = some post :=
  ofJson?_object (Json.readField_ofList rfl (Json.nat64?_nat h.id)) (Json.readField_ofList rfl rfl)
    (Json.readField_ofList rfl rfl) (Json.readField_ofList rfl rfl) (Json.readField_ofList rfl rfl)
    (Json.readField_ofList rfl rfl) (Json.readField_ofList rfl rfl)
    (Json.readField_ofList rfl (Json.nat64?_nat h.authorId))
    (Json.readField_ofList rfl (stampOfJson?_stampToJson h.publishedAt))
    (Json.readField_ofList rfl (stampOfJson?_stampToJson h.modifiedAt))
    (Json.readField_ofList rfl (Json.listOf?_map fun id hid => Json.nat64?_nat (h.termIds id hid)))
    (Json.readField_ofList rfl rfl)

/-- Every post that is read is told by its fields. -/
theorem hasJson_of_ofJson? {v : Json} {post : Post} (h : ofJson? v = some post) : post.HasJson := by
  obtain ⟨fields, -, h⟩ := Option.bind_eq_some_iff.mp h
  obtain ⟨id, hid, h⟩ := Option.bind_eq_some_iff.mp h
  obtain ⟨postType, -, h⟩ := Option.bind_eq_some_iff.mp h
  obtain ⟨slug, -, h⟩ := Option.bind_eq_some_iff.mp h
  obtain ⟨title, -, h⟩ := Option.bind_eq_some_iff.mp h
  obtain ⟨excerpt, -, h⟩ := Option.bind_eq_some_iff.mp h
  obtain ⟨content, -, h⟩ := Option.bind_eq_some_iff.mp h
  obtain ⟨status, -, h⟩ := Option.bind_eq_some_iff.mp h
  obtain ⟨authorId, hauthor, h⟩ := Option.bind_eq_some_iff.mp h
  obtain ⟨publishedAt, hpublished, h⟩ := Option.bind_eq_some_iff.mp h
  obtain ⟨modifiedAt, hmodified, h⟩ := Option.bind_eq_some_iff.mp h
  obtain ⟨termIds, hterms, h⟩ := Option.bind_eq_some_iff.mp h
  obtain ⟨metadata, -, h⟩ := Option.bind_eq_some_iff.mp h
  obtain rfl := Option.some.inj h
  have hstamp {name : String} {t : Option Calendar.Stamp}
      (ht : Json.readField fields name (some none) stampOfJson? = some t) : ∀ s ∈ t, s.HasText := by
    refine Json.forall_of_readField (P := fun t => ∀ s ∈ t, s.HasText) (fun a ha => ?_)
      (fun v a => hasText_of_stampOfJson?) ht
    obtain rfl := Option.some.inj ha
    exact fun s hs => by contradiction
  exact {
    id := Json.forall_of_readField (fun _ ha => by contradiction) (fun _ _ => Json.le_of_nat64?) hid
    authorId := Json.forall_of_readField
      (fun _ ha => Option.some.inj ha ▸ Nat.zero_le _) (fun _ _ => Json.le_of_nat64?) hauthor
    publishedAt := hstamp hpublished
    modifiedAt := hstamp hmodified
    termIds := Json.forall_of_readField
      (fun _ ha => Option.some.inj ha ▸ List.forall_mem_nil _)
      (fun _ _ => Json.forall_of_listOf? fun _ _ => Json.le_of_nat64?) hterms }

end Post

end DynamicContent
