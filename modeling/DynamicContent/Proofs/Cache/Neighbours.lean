/-
# Sites that share a store

Caches of several sites work on one memory or one directory, in any order. What a call returns and
announces, and what it leaves, is local to the part of its site, since it comes from local operations
of the backend. So each site gets, whatever the others do in between, what it would get without them:
the part of the site goes through the same states in both runs.

The run without the others begins in the same store. It sees more than the part of the site, which by
locality makes no difference, except that it might lack room where the shared run does not, because
nobody else removes what others left there. For that reason a memory is taken to be empty when it is
first shared.
-/

import DynamicContent.Proofs.Cache.Interchange
import DynamicContent.Proofs.Cache.Part

namespace DynamicContent.Cache

/-! ## Calls -/

/-- A call that the cache of a site makes at some time. -/
structure SiteCall (α : Type) where
  start : String
  now : Int
  call : Call α

variable {α : Type}

/-- The entry that an operation may write. -/
def Call.writes? : Call α → Option (String × String)
  | .set key (some _) _ group | .remember _ _ key _ group _ => some (key, group)
  | _ => none

/-- What a call returns and announces. -/
abbrev Outcome (α : Type) := Answer α × List CacheEvent

namespace Outcome

/-- The outcome of a read, by what the backend says. -/
def ofRead (decode : Json → Option α) (result : Except CacheError (Option Json)) : Outcome α :=
  (.found (Cache.found? decode result), [])

/-- The outcome of a write, by what the backend says. -/
def ofWrite (key : String) (lifetime : Nat) (group : String) (result : Except CacheError Unit) :
    Outcome α :=
  (.done (succeeded result), [.written key group lifetime (succeeded result)])

/-- The outcome of a removal, by what the backend says. -/
def ofRemoval (key group : String) (result : Except CacheError Bool) : Outcome α :=
  (.done (Cache.removal result), [.erased key group (Cache.removal result)])

end Outcome

namespace SiteCall

/-- What a call comes to, and the store that it leaves. -/
def outcome (c : SiteCall α) (store : Store) : Outcome α × Store :=
  let (answer, s) := c.call.run (siteCache c.start c.now) ⟨store, [], []⟩
  ((answer, s.events), s.store)

/-- Whether there is room for what a call may write. -/
def Fits (store : Store) (c : SiteCall α) : Prop :=
  ∀ entry ∈ c.call.writes?, store.HasRoomFor (storedKey c.start entry.2 entry.1)

instance (store : Store) (c : SiteCall α) : Decidable (c.Fits store) :=
  inferInstanceAs (Decidable (∀ entry ∈ c.call.writes?, _))

/-- A run of an operation gives its outcome, whatever is counted. -/
theorem outcome_eq {c : SiteCall α} {store left : Store} {answer : Answer α}
    {events : List CacheEvent} {counters : Counters}
    (h : c.call.run (siteCache c.start c.now) ⟨store, [], []⟩ = (answer, ⟨left, counters, events⟩)) :
    c.outcome store = ((answer, events), left) := by
  rw [outcome, h]

section

variable (start key group : String) (now : Int) (lifetime : Nat)

theorem outcome_get (decode : Json → Option α) (store : Store) :
    outcome ⟨start, now, .get decode key group⟩ store =
      (.ofRead decode ((Store.backend now).get (storedKey start group key) store).1,
        ((Store.backend now).get (storedKey start group key) store).2) := by
  obtain ⟨counters, hget⟩ :=
    (siteCache start now).get_eq_found? decode key group ⟨store, [], []⟩
  exact outcome_eq (bind_pure_eq hget)

theorem outcome_set_none (store : Store) :
    outcome (α := α) ⟨start, now, .set key none lifetime group⟩ store =
      ((.done false, [.written key group lifetime false]), store) := by
  obtain ⟨counters, hset⟩ :=
    (siteCache start now).set_none_eq key lifetime group ⟨store, [], []⟩
  exact outcome_eq (bind_pure_eq hset)

theorem outcome_set_some (value : Json) (store : Store) :
    outcome (α := α) ⟨start, now, .set key (some value) lifetime group⟩ store =
      (.ofWrite key lifetime group
        ((Store.backend now).set (storedKey start group key) value lifetime store).1,
        ((Store.backend now).set (storedKey start group key) value lifetime store).2) := by
  obtain ⟨counters, hset⟩ :=
    (siteCache start now).set_some_eq key value lifetime group ⟨store, [], []⟩
  exact outcome_eq (bind_pure_eq hset)

theorem outcome_erase (store : Store) :
    outcome (α := α) ⟨start, now, .erase key group⟩ store =
      (.ofRemoval key group ((Store.backend now).erase (storedKey start group key) store).1,
        ((Store.backend now).erase (storedKey start group key) store).2) := by
  obtain ⟨counters, herase⟩ := (siteCache start now).erase_eq key group ⟨store, [], []⟩
  exact outcome_eq (bind_pure_eq herase)

theorem outcome_flush (flushed : Option String) (store : Store) :
    outcome (α := α) ⟨start, now, .flush flushed⟩ store =
      ((.flushed, [.flushed flushed]),
        ((Store.backend now).flush (Cache.flushStart start flushed) store).2) := by
  obtain ⟨counters, hflush⟩ := (siteCache start now).flush_eq flushed ⟨store, [], []⟩
  exact outcome_eq (bind_pure_eq hflush)

/-- What a write leaves does not depend on what was counted before. -/
theorem set_eq_outcome (value : Option Json) (store : Store) (counters : Counters) :
    ∃ counted, ((siteCache start now).set key value lifetime group ⟨store, counters, []⟩).2 =
      ⟨(outcome (α := α) ⟨start, now, .set key value lifetime group⟩ store).2, counted,
        (outcome (α := α) ⟨start, now, .set key value lifetime group⟩ store).1.2⟩ := by
  cases value with
  | none =>
      obtain ⟨counted, hset⟩ :=
        (siteCache start now).set_none_eq key lifetime group ⟨store, counters, []⟩
      rw [outcome_set_none, hset]
      exact ⟨counted, rfl⟩
  | some v =>
      obtain ⟨counted, hset⟩ :=
        (siteCache start now).set_some_eq key v lifetime group ⟨store, counters, []⟩
      rw [outcome_set_some, hset]
      exact ⟨counted, rfl⟩

/-- To ask for a value is to read it, and then to write it if it was not found. -/
def rememberAfter (decode : Json → Option α) (encode : α → Option Json) (value : α)
    (result : Except CacheError (Option Json)) (store : Store) : Outcome α × Store :=
  match Cache.found? decode result with
  | some hit => ((.value hit, []), store)
  | none =>
    let written := outcome (α := α) ⟨start, now, .set key (encode value) lifetime group⟩ store
    ((.value value, written.1.2), written.2)

theorem outcome_remember (decode : Json → Option α) (encode : α → Option Json) (value : α)
    (store : Store) :
    outcome ⟨start, now, .remember decode encode key lifetime group value⟩ store =
      rememberAfter start key group now lifetime decode encode value
        ((Store.backend now).get (storedKey start group key) store).1
        ((Store.backend now).get (storedKey start group key) store).2 := by
  obtain ⟨counters, hget⟩ :=
    (siteCache start now).get_eq_found? decode key group ⟨store, [], []⟩
  have hremember := (siteCache start now).remember_pure_eq decode encode key lifetime group value
    ⟨store, [], []⟩
  rw [hget] at hremember
  rw [rememberAfter]
  dsimp only [siteCache] at hremember
  cases hfound : Cache.found? decode
      ((Store.backend now).get (storedKey start group key) store).1 with
  | some hit =>
      rw [hfound] at hremember
      exact outcome_eq (bind_pure_eq hremember)
  | none =>
      obtain ⟨counted, hset⟩ := set_eq_outcome (α := α) start key group now lifetime
        (encode value) ((Store.backend now).get (storedKey start group key) store).2 counters
      dsimp only [siteCache] at hset
      rw [hfound] at hremember
      dsimp only at hremember
      rw [hset] at hremember
      exact outcome_eq (bind_pure_eq hremember)

end

theorem isLocal_set {start key group : String} {now : Int} {value : Option Json} {lifetime : Nat}
    {store : Store} (hordered : store.IsOrdered)
    (hroom : value.isSome = true → store.HasRoomFor (storedKey start group key)) :
    Store.IsLocal start (outcome (α := α) ⟨start, now, .set key value lifetime group⟩) store := by
  have hkey := isOfSite_storedKey start group key
  cases value with
  | none =>
      exact (Store.IsLocal.pure hordered _).congr (outcome_set_none start key group now lifetime)
  | some v =>
      exact ((Store.isLocal_set hkey hordered (hroom rfl) v lifetime).map _).congr
        (outcome_set_some start key group now lifetime v)

theorem isLocal_rememberAfter {start key group : String} {now : Int} {lifetime : Nat}
    {decode : Json → Option α} {encode : α → Option Json} {value : α} {store : Store}
    (hordered : store.IsOrdered) (hroom : store.HasRoomFor (storedKey start group key))
    (result : Except CacheError (Option Json)) :
    Store.IsLocal start
      (rememberAfter start key group now lifetime decode encode value result) store := by
  cases hfound : Cache.found? decode result with
  | some hit =>
      refine (Store.IsLocal.pure hordered (Answer.value hit, [])).congr fun store => ?_
      rw [rememberAfter, hfound]
  | none =>
      have hwrite : Store.IsLocal start
          (outcome (α := α) ⟨start, now, .set key (encode value) lifetime group⟩) store :=
        isLocal_set hordered fun _ => hroom
      refine (hwrite.map fun written => (Answer.value value, written.2)).congr fun store => ?_
      rw [rememberAfter, hfound]

/-- What a call does is local to its site, if there is room for what it may write. -/
theorem isLocal_outcome {c : SiteCall α} {store : Store} (hordered : store.IsOrdered)
    (hfits : c.Fits store) : Store.IsLocal c.start c.outcome store := by
  obtain ⟨start, now, call⟩ := c
  have hkey (key group : String) := isOfSite_storedKey start group key
  cases call with
  | get decode key group =>
      exact ((Store.isLocal_get (hkey key group) hordered).map _).congr
        (outcome_get start key group now decode)
  | set key value lifetime group =>
      refine isLocal_set hordered fun hsome => ?_
      obtain ⟨v, rfl⟩ := Option.isSome_iff_exists.mp hsome
      exact hfits (key, group) rfl
  | erase key group =>
      exact ((Store.isLocal_erase (hkey key group) hordered).map _).congr
        (outcome_erase start key group now)
  | flush group =>
      exact ((Store.isLocal_flush hordered group).map fun _ => (.flushed, [.flushed group])).congr
        (outcome_flush start now group)
  | remember decode encode key lifetime group value =>
      have hread : Store.IsLocal start ((Store.backend now).get (storedKey start group key)) store :=
        Store.isLocal_get (hkey key group) hordered
      have hroom := (hfits (key, group) rfl).get now
      exact (hread.bind (isLocal_rememberAfter hread.ordered hroom _)).congr
        (outcome_remember start key group now lifetime decode encode value)

end SiteCall

/-! ## Runs -/

/-- What the calls of a run come to, each with the site that makes it. -/
def outcomes : List (SiteCall α) → Store → List (String × Outcome α)
  | [], _ => []
  | c :: cs, store => (c.start, (c.outcome store).1) :: outcomes cs (c.outcome store).2

/-- Whether there is room for whatever the calls of a run may write. -/
def AllFit : List (SiteCall α) → Store → Prop
  | [], _ => True
  | c :: cs, store => c.Fits store ∧ AllFit cs (c.outcome store).2

instance : (calls : List (SiteCall α)) → (store : Store) → Decidable (AllFit calls store)
  | [], _ => inferInstanceAs (Decidable True)
  | c :: cs, store =>
    have := instDecidableAllFit cs (c.outcome store).2
    inferInstanceAs (Decidable (_ ∧ _))

/-- The calls of one site. -/
def callsOf (start : String) (calls : List (SiteCall α)) : List (SiteCall α) :=
  calls.filter fun c => c.start = start

/-- The outcomes for one site. -/
def outcomesOf (start : String) (told : List (String × Outcome α)) : List (String × Outcome α) :=
  told.filter fun entry => entry.1 = start

/-- What a site gets from a shared run it gets from its own calls over its own part of the store. -/
theorem outcomesOf_eq_part {start : String} {calls : List (SiteCall α)} {store : Store}
    (hordered : store.IsOrdered) (hfit : AllFit calls store)
    (hothers : ∀ c ∈ calls, c.start ≠ start → Unrelated c.start start) :
    outcomesOf start (outcomes calls store) = outcomes (callsOf start calls) (store.part start) := by
  induction calls generalizing store with
  | nil => rfl
  | cons c cs ih =>
      obtain ⟨hfits, hrest⟩ := hfit
      obtain ⟨hother, hmore⟩ := List.forall_mem_cons.mp hothers
      have hlocal := c.isLocal_outcome hordered hfits
      have hnext := ih hlocal.ordered hrest hmore
      rw [outcomes, outcomesOf, callsOf]
      by_cases hmine : c.start = start
      · rw [List.filter_cons_of_pos (by simpa using hmine),
          List.filter_cons_of_pos (by simpa using hmine), ← outcomesOf, ← callsOf, outcomes, hnext,
          ← hmine, hlocal.part]
      · rw [List.filter_cons_of_neg (by simpa using hmine),
          List.filter_cons_of_neg (by simpa using hmine), ← outcomesOf, ← callsOf, hnext,
          hlocal.others start (hother hmine)]

/-- Only a memory can lack room. -/
theorem allFit_of_name_ne {store : Store} (hordered : store.IsOrdered)
    (hname : store.name ≠ "memory") (calls : List (SiteCall α)) : AllFit calls store := by
  induction calls generalizing store with
  | nil => trivial
  | cons c cs ih =>
      have hfits : c.Fits store := by
        intro entry _
        cases store with
        | memory store => exact absurd rfl hname
        | file store => trivial
        | broken => trivial
      have hlocal := c.isLocal_outcome hordered hfits
      exact ⟨hfits, ih hlocal.ordered (hlocal.name ▸ hname)⟩

theorem outcomesOf_callsOf (start : String) (calls : List (SiteCall α)) (store : Store) :
    outcomesOf start (outcomes (callsOf start calls) store) =
      outcomes (callsOf start calls) store := by
  have hall (calls : List (SiteCall α)) (h : ∀ c ∈ calls, c.start = start) (store : Store) :
      ∀ entry ∈ outcomes calls store, decide (entry.1 = start) = true := by
    induction calls generalizing store with
    | nil => exact fun _ hmem => absurd hmem List.not_mem_nil
    | cons c cs ih =>
        obtain ⟨hfirst, hrest⟩ := List.forall_mem_cons.mp h
        exact List.forall_mem_cons.mpr ⟨decide_eq_true hfirst, ih hrest _⟩
  refine List.filter_eq_self.mpr (hall _ (fun c hc => ?_) store)
  exact of_decide_eq_true (List.mem_filter.mp hc).2

/-- A store as sites find it that begin to share it: an empty memory, or a directory with anything
in it. -/
def Store.IsInitial : Store → Prop
  | memory store => store.entries = []
  | store => store.IsOrdered

/-- Unrelated sites do not interfere. Each gets from a shared run, in which there is always room for
what is written, exactly what it gets if the calls of the others are left out. -/
theorem outcomesOf_eq_alone {start : String} {calls : List (SiteCall α)} {store : Store}
    (hinitial : store.IsInitial) (hfit : AllFit calls store)
    (hothers : ∀ c ∈ calls, c.start ≠ start → Unrelated c.start start) :
    outcomesOf start (outcomes calls store) = outcomes (callsOf start calls) store := by
  have hordered : store.IsOrdered := by
    cases store with
    | memory store => trivial
    | file store => exact hinitial
    | broken => trivial
  have hshared := outcomesOf_eq_part hordered hfit hothers
  have hmine : ∀ c ∈ callsOf start calls, c.start ≠ start → Unrelated c.start start :=
    fun c hc hne => absurd (of_decide_eq_true (List.mem_filter.mp hc).2) hne
  have hsame : callsOf start (callsOf start calls) = callsOf start calls := by
    rw [callsOf, callsOf, List.filter_filter]
    exact List.filter_congr fun c _ => Bool.and_self _
  have halone (hname : store.name ≠ "memory") :
      outcomes (callsOf start calls) (store.part start) = outcomes (callsOf start calls) store := by
    have hpart := outcomesOf_eq_part hordered
      (allFit_of_name_ne hordered hname (callsOf start calls)) hmine
    rw [outcomesOf_callsOf, hsame] at hpart
    exact hpart.symm
  cases store with
  | memory store =>
      have hempty : (Store.memory store).part start = .memory store := by
        obtain ⟨capacity, entries⟩ := store
        obtain rfl : entries = [] := hinitial
        rfl
      rw [hshared, hempty]
  | file store => rw [hshared, halone (by simp [Store.name])]
  | broken => rw [hshared, halone (by simp [Store.name])]

/-- Two sites write under one key of one group, and one of them flushes all that it has. -/
def sharedRun : List (SiteCall Int) :=
  [⟨"weft_", 0, .set "a" (some (.int 1)) 0 "query"⟩,
    ⟨"Weft-", 1, .set "a" (some (.int 2)) 0 "query"⟩, ⟨"Weft-", 2, .flush none⟩,
    ⟨"weft_", 3, .get Json.int64? "a" "query"⟩]

/-- The other site still reads what it wrote. -/
theorem outcomesOf_sharedRun :
    (Store.memory (.empty 2)).IsInitial ∧ AllFit sharedRun (.memory (.empty 2)) ∧
      (∀ c ∈ sharedRun, c.start ≠ "weft_" → Unrelated c.start "weft_") ∧
      outcomesOf "weft_" (outcomes sharedRun (.memory (.empty 2))) =
        [("weft_", .done true, [.written "a" "query" 0 true]), ("weft_", .found (some 1), [])] := by
  have hfit : AllFit sharedRun (.memory (.empty 2)) := by decide +kernel
  have hothers : ∀ c ∈ sharedRun, c.start ≠ "weft_" → Unrelated c.start "weft_" := by
    decide +kernel
  have hinitial : (Store.memory (.empty 2)).IsInitial := rfl
  refine ⟨hinitial, hfit, hothers, ?_⟩
  rw [outcomesOf_eq_alone hinitial hfit hothers]
  rfl

end DynamicContent.Cache
