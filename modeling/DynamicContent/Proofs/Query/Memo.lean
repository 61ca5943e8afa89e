/-
# Remembered queries are the ones that are asked

A query for posts that is answered from memory has the posts that the site would answer with, after any
calls, however small the memory is and whatever was forgotten, removed or has expired in between. What
carries this is that nothing else is ever under the key of the query: only its own answer is written
there, since the digest of another query or of another kind is another key. No digest of a message is
known to be that of no other, so this is asked of the messages of the calls.

An answer is read back because every post of a site is told by its fields. A query that fails writes
nothing, so a later one is not answered with it.
-/

import DynamicContent.Proofs.Cache.Only
import DynamicContent.Proofs.Query.Key
import DynamicContent.Proofs.Site.Posts

namespace DynamicContent

open Cache

/-! ## Calls -/

/-- The cache of a site for the results of queries at some time. -/
def siteMemo (start : String) (enabled : Bool) (lifetime : Nat) (now : Int) : QueryMemo Store :=
  ⟨siteCache start now, enabled, lifetime⟩

/-- What a site answers, unless it cannot be reached for now. -/
def Site.ask (site : Site) (query : PostQuery) :
    Option ContentError → Except ContentError (List Post)
  | none => site.queryPosts query
  | some error => .error error

theorem Site.queryPosts_of_ask {site : Site} {query : PostQuery} {failure : Option ContentError}
    {found : List Post} (h : site.ask query failure = .ok found) :
    site.queryPosts query = .ok found := by
  cases failure with
  | none => exact h
  | some error => contradiction

/-- A query for posts that fails if the site cannot be reached for now. -/
def QueryMemo.serve (memo : QueryMemo Store) (site : Site) (query : PostQuery)
    (failure : Option ContentError) : CacheM Store (List Post) :=
  memo.posts query (pure (site.ask query failure))

/-- A call of the cache for results: a query for posts, which may fail, a result of another kind that is
computed unless it is kept, or a removal. -/
inductive QueryCall : Type 1 where
  | posts (query : PostQuery) (failure : Option ContentError)
  | cached {α : Type} (decode : Json → Option α) (encode : α → Option Json) (kind : String)
      (payload : Json) (lifetime : Option Nat) (value : α)
  | clearKey (kind : String) (payload : Json)
  | clearAll

namespace QueryCall

/-- Whether a call may be made: no query asks for null, and no other result is kept as posts. -/
def IsAllowed : QueryCall → Prop
  | posts query _ => query.HasNoNull
  | cached _ _ kind _ _ _ => kind ≠ QueryMemo.postsKind
  | clearKey _ _ => True
  | clearAll => True

/-- The message whose digest a call may write a result under. -/
def message? : QueryCall → Option (List UInt8)
  | posts query _ => some (QueryMemo.message QueryMemo.postsKind query.toJson)
  | cached _ _ kind payload _ _ => some (QueryMemo.message kind payload)
  | clearKey _ _ => none
  | clearAll => none

/-- What a call leaves. -/
def run (site : Site) (memo : QueryMemo Store) (s : CacheState Store) :
    QueryCall → CacheState Store
  | posts query failure => (memo.serve site query failure s).2
  | cached decode encode kind payload lifetime value =>
    (memo.cached decode encode kind payload lifetime (pure value : CacheM Store _) s).2
  | clearKey kind payload => (memo.clearKey kind payload s).2
  | clearAll => (memo.clearAll s).2

/-- What calls leave, each at its time. -/
def runAll (site : Site) (memo : Int → QueryMemo Store) (s : CacheState Store)
    (calls : List (Int × QueryCall)) : CacheState Store :=
  calls.foldl (fun s call => call.2.run site (memo call.1) s) s

end QueryCall

namespace QueryMemo

variable {site : Site} {query : PostQuery} {start : String} {enabled : Bool} {lifetime : Nat}
  {now : Int} {s : CacheState Store}

theorem cached_pure_eq {α : Type} (memo : QueryMemo Store) (decode : Json → Option α)
    (encode : α → Option Json) (kind : String) (payload : Json) (asked : Option Nat) (value : α)
    (s : CacheState Store) :
    memo.cached decode encode kind payload asked (pure value : CacheM Store α) s =
      match memo.lifetime? asked with
      | some lifetime => memo.cache.remember decode encode (key kind payload) lifetime group
          (pure value : CacheM Store α) s
      | none => (value, s) := by
  rw [cached]
  cases memo.lifetime? asked <;> rfl

/-- An answer that is at hand is used, and written, only where none is found. -/
theorem posts_pure_eq (memo : QueryMemo Store) (query : PostQuery)
    (answer : Except ContentError (List Post)) (s : CacheState Store) :
    memo.posts query (pure answer : CacheM Store _) s =
      match memo.lifetime? none with
      | none => (answer.toOption.getD [], s)
      | some lifetime =>
        match memo.cache.get (Json.listOf? Post.ofJson?) (key postsKind query.toJson) group s with
        | (some hit, t) => (hit, t)
        | (none, t) =>
          match answer with
          | .ok found => (found, (memo.cache.set (key postsKind query.toJson)
              (some (postsToJson found)) lifetime group t).2)
          | .error _ => ([], t) := by
  rw [posts]
  cases memo.lifetime? none with
  | none => cases answer <;> rfl
  | some lifetime =>
      show (memo.cache.get (Json.listOf? Post.ofJson?) (key postsKind query.toJson) group >>= _) s = _
      rw [bind_apply]
      cases memo.cache.get (Json.listOf? Post.ofJson?) (key postsKind query.toJson) group s with
      | mk found t =>
          cases found with
          | some hit => rfl
          | none => cases answer <;> rfl

/-! ## One call -/

/-- The key that the answer to a query is stored under. -/
def answerKey (start : String) (query : PostQuery) : String :=
  storedKey start group (key postsKind query.toJson)

/-- Whether a value is what a site answers a query with. -/
def IsAnswer (site : Site) (query : PostQuery) (value : Json) : Prop :=
  ∃ found, site.queryPosts query = .ok found ∧ value = postsToJson found

/-- Whether nothing that could answer a query is kept, or is asked for. -/
def Misses (memo : QueryMemo Store) (query : PostQuery) (s : CacheState Store) : Prop :=
  memo.lifetime? none = none ∨
    memo.cache.remembered? (Json.listOf? Post.ofJson?) (key postsKind query.toJson) group s.store =
      none

/-- Keys that are stored alike are digests of messages with one digest. -/
theorem sha256_eq_of_storedKey_eq {kind kind' : String} {payload payload' : Json}
    (h : storedKey start group (key kind payload) = storedKey start group (key kind' payload')) :
    Digest.sha256 (message kind payload) = Digest.sha256 (message kind' payload') := by
  rw [key_eq, key_eq] at h
  exact Digest.sha256_eq_of_hex_eq (hex_eq_of_storedKey_eq h)

/-- What is kept under the key of a query is read as what the site answers. -/
theorem queryPosts_of_remembered? (hsite : site.PostsHaveJson)
    (h : s.store.Only (answerKey start query) (IsAnswer site query)) {hit : List Post}
    (hhit : (siteCache start now).remembered? (Json.listOf? Post.ofJson?)
      (key postsKind query.toJson) group s.store = some hit) :
    site.queryPosts query = .ok hit := by
  rw [Cache.remembered?] at hhit
  split at hhit
  · next v hv =>
      obtain ⟨found, hfound, rfl⟩ := Store.of_get_eq_some h hv
      have hread := Site.listOf?_of_queryPosts hsite hfound
      obtain rfl := Option.some.inj (hread.symm.trans hhit)
      exact hfound
  · contradiction

/-- A call writes nothing but the answer of the site under the key of a query. -/
theorem only_run (hquery : query.HasNoNull) {call : QueryCall} (hallowed : call.IsAllowed)
    (hdigest : ∀ written ∈ call.message?,
      Digest.sha256 written = Digest.sha256 (message postsKind query.toJson) →
        written = message postsKind query.toJson)
    (h : s.store.Only (answerKey start query) (IsAnswer site query)) :
    (call.run site (siteMemo start enabled lifetime now) s).store.Only (answerKey start query)
      (IsAnswer site query) := by
  cases call with
  | posts asked failure =>
      have hread : ((siteMemo start enabled lifetime now).cache.get (Json.listOf? Post.ofJson?)
          (key postsKind asked.toJson) group s).2.store.Only (answerKey start query)
            (IsAnswer site query) := Cache.only_get h start now _ _ group
      rw [QueryCall.run, serve, posts_pure_eq]
      cases (siteMemo start enabled lifetime now).lifetime? none with
      | none => exact h
      | some kept =>
          dsimp only
          split
          · next hit t hget => rwa [hget] at hread
          · next t hget =>
              rw [hget] at hread
              split
              · next found hfound =>
                  refine Cache.only_set hread kept fun hkey v hv => ?_
                  obtain rfl := Option.some.inj hv
                  have hmessage := hdigest _ rfl (sha256_eq_of_storedKey_eq hkey)
                  obtain rfl := PostQuery.toJson_inj hallowed hquery (message_inj hmessage).2
                  exact ⟨found, Site.queryPosts_of_ask hfound, rfl⟩
              · exact hread
  | cached decode encode kind payload asked value =>
      rw [QueryCall.run, cached_pure_eq]
      split
      · next lifetime _ =>
          refine Cache.only_remember h (fun hkey => ?_) decode encode lifetime value
          have hmessage := hdigest _ rfl (sha256_eq_of_storedKey_eq hkey)
          exact hallowed (message_inj hmessage).1
      · exact h
  | clearKey kind payload => exact Cache.only_erase h
  | clearAll => exact Cache.only_flush h _

/-- A query is answered as the site answers it where only its answer is kept under its key; one that
fails is answered so or, on a miss, with no posts, and then nothing is kept that was not kept before. -/
theorem serve_of_only (hsite : site.PostsHaveJson) (failure : Option ContentError)
    (h : s.store.Only (answerKey start query) (IsAnswer site query)) :
    (∀ found, site.ask query failure = .ok found →
      ((siteMemo start enabled lifetime now).serve site query failure s).1 = found) ∧
    ∀ error, site.ask query failure = .error error →
      site.queryPosts query =
          .ok ((siteMemo start enabled lifetime now).serve site query failure s).1 ∨
        (siteMemo start enabled lifetime now).Misses query s ∧
          ((siteMemo start enabled lifetime now).serve site query failure s).1 = [] ∧
          ((siteMemo start enabled lifetime now).serve site query failure s).2.events = s.events ∧
          ((siteMemo start enabled lifetime now).serve site query failure s).2.store.Within
            s.store := by
  rw [serve, posts_pure_eq]
  cases hlifetime : (siteMemo start enabled lifetime now).lifetime? none with
  | none =>
      dsimp only
      refine ⟨fun found hfound => by rw [hfound]; rfl, fun error herror => .inr ⟨.inl hlifetime, ?_⟩⟩
      rw [herror]
      exact ⟨rfl, rfl, h.within_self⟩
  | some kept =>
      obtain ⟨counters, hget⟩ := (siteCache start now).get_eq (Json.listOf? Post.ofJson?)
        (key postsKind query.toJson) group s
      have hget' : (siteMemo start enabled lifetime now).cache.get (Json.listOf? Post.ofJson?)
        (key postsKind query.toJson) group s = _ := hget
      rw [hget']
      dsimp only
      cases hhit : (siteCache start now).remembered? (Json.listOf? Post.ofJson?)
          (key postsKind query.toJson) group s.store with
      | some hit =>
          dsimp only
          have hanswer := queryPosts_of_remembered? hsite h hhit
          refine ⟨fun found hfound => ?_, fun error _ => .inl hanswer⟩
          exact Except.ok.inj (hanswer.symm.trans (Site.queryPosts_of_ask hfound))
      | none =>
          dsimp only
          refine ⟨fun found hfound => by rw [hfound], fun error herror => .inr ⟨.inr hhit, ?_⟩⟩
          rw [herror]
          exact ⟨rfl, rfl, Store.within_get h⟩

/-! ## Runs of calls -/

/-- Calls write nothing but the answer of the site under the key of a query. -/
theorem only_runAll (hquery : query.HasNoNull) {calls : List (Int × QueryCall)}
    (hallowed : ∀ call ∈ calls, call.2.IsAllowed)
    (hdigest : ∀ call ∈ calls, ∀ written ∈ call.2.message?,
      Digest.sha256 written = Digest.sha256 (message postsKind query.toJson) →
        written = message postsKind query.toJson)
    (h : s.store.Only (answerKey start query) (IsAnswer site query)) :
    (QueryCall.runAll site (siteMemo start enabled lifetime) s calls).store.Only
      (answerKey start query) (IsAnswer site query) := by
  induction calls generalizing s with
  | nil => exact h
  | cons call calls ih =>
      obtain ⟨hfirst, hrest⟩ := List.forall_mem_cons.mp hallowed
      obtain ⟨hmessage, hmessages⟩ := List.forall_mem_cons.mp hdigest
      exact ih hrest hmessages (only_run hquery hfirst hmessage h)

/-- Remembered queries are transparent. After any calls at any times on a memory of any capacity that
was empty before, of which none asks for null or keeps another result as posts, and if no other message
of them has the digest of the query: a query for posts is answered as the site answers it, and one that
fails is answered so too or, on a miss, with no posts, and then nothing is announced and nothing kept
that was not kept before. -/
theorem serve_transparent {document : Json} (hsite : Site.ofJson document = .ok site)
    (hquery : query.HasNoNull) {calls : List (Int × QueryCall)}
    (hallowed : ∀ call ∈ calls, call.2.IsAllowed)
    (hdigest : ∀ call ∈ calls, ∀ written ∈ call.2.message?,
      Digest.sha256 written = Digest.sha256 (message postsKind query.toJson) →
        written = message postsKind query.toJson)
    (start : String) (enabled : Bool) (lifetime capacity : Nat) (now : Int)
    (failure : Option ContentError) {before : CacheState Store}
    (hbefore : before = QueryCall.runAll site (siteMemo start enabled lifetime)
      ⟨.memory (.empty capacity), [], []⟩ calls) :
    (∀ found, site.ask query failure = .ok found →
      ((siteMemo start enabled lifetime now).serve site query failure before).1 = found) ∧
    ∀ error, site.ask query failure = .error error →
      site.queryPosts query =
          .ok ((siteMemo start enabled lifetime now).serve site query failure before).1 ∨
        (siteMemo start enabled lifetime now).Misses query before ∧
          ((siteMemo start enabled lifetime now).serve site query failure before).1 = [] ∧
          ((siteMemo start enabled lifetime now).serve site query failure before).2.events =
            before.events ∧
          ((siteMemo start enabled lifetime now).serve site query failure before).2.store.Within
            before.store := by
  have hempty : (CacheState.mk (Store.memory (.empty capacity)) [] []).store.Only
      (answerKey start query) (IsAnswer site query) := .memory (List.forall_mem_nil _)
  have honly : before.store.Only (answerKey start query) (IsAnswer site query) :=
    hbefore ▸ only_runAll hquery hallowed hdigest hempty
  exact serve_of_only (Site.postsHaveJson_of_ofJson hsite) failure honly

/-- The document of a site with one post. -/
def leapDocument : Json :=
  .object [("posts", .array [.object [("id", .int 7), ("title", .string "Leap"),
    ("published_at", .string "2024-02-29T12:00:00Z")]])]

/-- The site with this post. -/
def leapSite : Site :=
  { Site.empty with posts := [⟨7, "post", "", "Leap", "", "", "publish", 0,
    some ⟨⟨⟨2024, 2, 29⟩, 43200, 0⟩, 0⟩, none, [], []⟩] }

/-- A query for posts, then another result that is kept, and removed. -/
def leapCalls : List (Int × QueryCall) :=
  [(0, .posts .plain none), (1, .cached Json.string? (fun s => some (.string s)) "ids" .null none "7"),
    (2, .clearKey "ids" .null)]

/-- The memory after these calls. -/
def leapMemory : CacheState Store :=
  QueryCall.runAll leapSite (siteMemo "weft_" true 600) ⟨.memory (.empty 2), [], []⟩ leapCalls

/-- The query is answered after the site has become unreachable. -/
theorem leap_post_outlives_failure :
    Site.ofJson leapDocument = .ok leapSite ∧
      ((siteMemo "weft_" true 600 3).serve leapSite .plain (some (.persistence "disk gone"))
        leapMemory).1 = leapSite.posts := by
  have hsite : Site.ofJson leapDocument = .ok leapSite := rfl
  have hmeets : leapSite.posts.filter (leapSite.meets .plain) = leapSite.posts := rfl
  have hfound : leapSite.allFound .plain = leapSite.posts := by
    rw [Site.allFound, hmeets]
    exact congrArg List.reverse (List.mergeSort_singleton _)
  have hposts : leapSite.queryPosts .plain = .ok leapSite.posts := by
    rw [Site.queryPosts, hfound]
    rfl
  have hother : Digest.sha256 (message "ids" .null) ≠
      Digest.sha256 (message postsKind PostQuery.plain.toJson) := by decide +kernel
  have hkept : ((siteMemo "weft_" true 600 3).cache.remembered? (Json.listOf? Post.ofJson?)
      (key postsKind PostQuery.plain.toJson) group leapMemory.store).isSome = true := by
    decide +kernel
  have hquery : PostQuery.plain.HasNoNull := List.forall_mem_nil _
  have hallowed : ∀ call ∈ leapCalls, call.2.IsAllowed := by
    simp [leapCalls, QueryCall.IsAllowed, hquery, postsKind]
  have hdigest : ∀ call ∈ leapCalls, ∀ written ∈ call.2.message?,
      Digest.sha256 written = Digest.sha256 (message postsKind PostQuery.plain.toJson) →
        written = message postsKind PostQuery.plain.toJson := by
    simp [leapCalls, QueryCall.message?, hother]
  have hmemory : leapMemory = QueryCall.runAll leapSite (siteMemo "weft_" true 600)
      ⟨.memory (.empty 2), [], []⟩ leapCalls := rfl
  obtain ⟨-, hfailed⟩ := serve_transparent hsite hquery hallowed hdigest "weft_" true 600 2 3
    (some (.persistence "disk gone")) hmemory
  refine ⟨hsite, ?_⟩
  rcases hfailed _ rfl with hanswer | ⟨hmiss, -⟩
  · exact Except.ok.inj (hanswer.symm.trans hposts)
  · rcases hmiss with hbypass | hgone
    · exact absurd hbypass (by decide)
    · rw [hgone] at hkept
      exact absurd hkept Bool.false_ne_true

end QueryMemo

end DynamicContent
