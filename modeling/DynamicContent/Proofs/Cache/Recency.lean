/-
# A memory keeps what was used recently

A bounded memory has its entries in the order of their last uses. In front of an entry there are only
keys that were used since that entry was, and no key twice. So an entry is dropped for want of room
only if as many other keys were used since as there is room for.

To tell what was used since, a history is kept beside the memory: the calls so far with what is to be
seen of them, the last one in front. It is not part of the memory, and what stands in it does not depend
on the order of the entries: a key is used by being written and by being read with success.
-/

import Mathlib.Data.List.Dedup
import Mathlib.Data.List.Perm.Subperm
import DynamicContent.Proofs.Cache.Only

namespace DynamicContent.Cache.MemoryStore

/-- A call, and whether a value was found where one was asked for. -/
inductive Use where
  | wrote (key : String) (value : Json)
  | read (key : String) (found : Bool)
  | erased (key : String)
  | flushed (start : String)

/-- The value that was written last under a key, unless it was removed or flushed since. -/
def latest? (key : String) : List Use → Option Json
  | [] => none
  | .wrote other value :: past => if other = key then some value else latest? key past
  | .read _ _ :: past => latest? key past
  | .erased other :: past => if other = key then none else latest? key past
  | .flushed start :: past => if Text.startsWith key start then none else latest? key past

/-- The other keys that were used since a key was. -/
def usedSince (key : String) : List Use → List String
  | [] => []
  | .wrote other _ :: past => if other = key then [] else other :: usedSince key past
  | .read other true :: past => if other = key then [] else other :: usedSince key past
  | .read _ false :: past => usedSince key past
  | .erased _ :: past => usedSince key past
  | .flushed _ :: past => usedSince key past

/-- The histories of an empty memory, and the memories they lead to. A write is carried out, and none of
the entries that are read has expired. -/
inductive Run (capacity : Nat) : List Use → MemoryStore → Prop
  | fresh : Run capacity [] (.empty capacity)
  | set {past : List Use} {store store' : MemoryStore} {now : Int} {key : String} {value : Json}
      {lifetime : Nat} (run : Run capacity past store)
      (written : store.set? now key value lifetime = some store') :
      Run capacity (.wrote key value :: past) store'
  | get {past : List Use} {store : MemoryStore} (now : Int) (key : String)
      (run : Run capacity past store)
      (valid : ∀ entry, store.entry? key = some entry → isExpired now entry = false) :
      Run capacity (.read key (store.get now key).1.isSome :: past) (store.get now key).2
  | erase {past : List Use} {store : MemoryStore} (key : String) (run : Run capacity past store) :
      Run capacity (.erased key :: past) (store.erase key).2
  | flush {past : List Use} {store : MemoryStore} (start : String)
      (run : Run capacity past store) :
      Run capacity (.flushed start :: past) (store.flush start).2

/-! ## What stands in front of an entry -/

/-- A value is under a key, and in front of it there are only keys from a list. -/
def Behind (used : List String) (key : String) (value : Json)
    (entries : List (String × MemoryEntry)) : Prop :=
  ∃ front entry back, entries = front ++ (key, entry) :: back ∧ entry.value = value ∧
    ∀ other ∈ front, other.1 ∈ used

namespace Behind

variable {used : List String} {key : String} {value : Json} {entries : List (String × MemoryEntry)}

/-- Nothing is in front of the first entry. -/
theorem first (used : List String) (key : String) (entry : MemoryEntry)
    (back : List (String × MemoryEntry)) : Behind used key entry.value ((key, entry) :: back) :=
  ⟨[], entry, back, rfl, rfl, List.forall_mem_nil _⟩

theorem cons (h : Behind used key value entries) (other : String) (entry : MemoryEntry) :
    Behind (other :: used) key value ((other, entry) :: entries) := by
  obtain ⟨front, found, back, rfl, hvalue, hfront⟩ := h
  refine ⟨(other, entry) :: front, found, back, rfl, hvalue, ?_⟩
  intro earlier hearlier
  cases hearlier with
  | head => exact List.mem_cons_self
  | tail _ hearlier => exact List.mem_cons_of_mem other (hfront earlier hearlier)

/-- To remove other entries brings none to the front. -/
theorem filter (h : Behind used key value entries) (chosen : String → Bool)
    (hkey : chosen key = true) :
    Behind used key value (entries.filter fun entry => chosen entry.1) := by
  obtain ⟨front, found, back, rfl, hvalue, hfront⟩ := h
  refine ⟨front.filter fun entry => chosen entry.1, found, back.filter fun entry => chosen entry.1,
    ?_, hvalue, ?_⟩
  · rw [List.filter_append, List.filter_cons, if_pos hkey]
  · intro other hother
    exact hfront other (List.mem_filter.mp hother).1

theorem without {other : String} (h : Behind used key value entries) (hne : other ≠ key) :
    Behind used key value (without other entries) := by
  apply h.filter (· != other)
  exact bne_iff_ne.mpr hne.symm

/-- Where fewer keys can be in front than there is room for, there is room for the entry. -/
theorem take (h : Behind used key value entries) (hdistinct : (SortedMap.keys entries).Nodup)
    {room : Nat} (hroom : used.dedup.length < room) :
    Behind used key value (entries.take room) := by
  obtain ⟨front, found, back, rfl, hvalue, hfront⟩ := h
  -- The keys in front are all different, and all of them are among those that were used.
  have hdifferent : (front.map (·.1)).Nodup := by
    rw [SortedMap.keys, List.map_append] at hdistinct
    exact hdistinct.of_append_left
  have hsubset : front.map (·.1) ⊆ used.dedup := by
    intro other hother
    obtain ⟨earlier, hearlier, rfl⟩ := List.mem_map.mp hother
    exact List.mem_dedup.mpr (hfront earlier hearlier)
  have hfew : front.length ≤ used.dedup.length := by
    rw [← List.length_map (·.1)]
    exact (List.subperm_of_subset hdifferent hsubset).length_le
  obtain ⟨more, hmore⟩ : ∃ more, room = front.length + (more + 1) :=
    ⟨room - front.length - 1, by omega⟩
  refine ⟨front, found, back.take more, ?_, hvalue, hfront⟩
  rw [hmore, List.take_length_add_append, List.take_succ_cons]

/-- What is behind any keys at all is found. -/
theorem find? (h : Behind used key value entries) (hdistinct : (SortedMap.keys entries).Nodup) :
    ∃ entry, SortedMap.find? key entries = some entry ∧ entry.value = value := by
  obtain ⟨front, entry, back, rfl, hvalue, -⟩ := h
  refine ⟨entry, ?_, hvalue⟩
  induction front with
  | nil => exact if_pos rfl
  | cons earlier front ih =>
      obtain ⟨hearlier, hdistinct⟩ := List.nodup_cons.mp hdistinct
      have hne : earlier.1 ≠ key := by
        rintro rfl
        apply hearlier
        simp
      show SortedMap.find? key (earlier :: (front ++ (key, entry) :: back)) = some entry
      rw [SortedMap.find?, if_neg hne]
      exact ih hdistinct

end Behind

/-! ## What a history tells of a memory -/

/-- What a memory keeps of its history. No key is there twice and there is room for all entries. What is
found was written last, and what was written last is found behind what was used since, unless that is
more than there is room for. -/
structure Recalls (past : List Use) (store : MemoryStore) : Prop where
  room : 0 < store.capacity
  distinct : (SortedMap.keys store.entries).Nodup
  size_le : store.size ≤ store.capacity
  latest : ∀ {key : String} {entry : MemoryEntry},
    SortedMap.find? key store.entries = some entry → latest? key past = some entry.value
  recent : ∀ {key : String} {value : Json}, latest? key past = some value →
    (usedSince key past).dedup.length < store.capacity →
    Behind (usedSince key past) key value store.entries

theorem find?_of_find?_take {key : String} {entry : MemoryEntry} {room : Nat}
    {entries : List (String × MemoryEntry)}
    (h : SortedMap.find? key (entries.take room) = some entry) :
    SortedMap.find? key entries = some entry := by
  induction entries generalizing room with
  | nil => rw [List.take_nil] at h; exact h
  | cons first rest ih =>
      cases room with
      | zero => contradiction
      | succ room =>
          rw [List.take_succ_cons, SortedMap.find?] at h
          rw [SortedMap.find?]
          by_cases hkey : first.1 = key
          · rwa [if_pos hkey] at h ⊢
          · rw [if_neg hkey] at h ⊢
            exact ih h

theorem length_dedup_le_cons (other : String) (used : List String) :
    used.dedup.length ≤ (other :: used).dedup.length := by
  have hsubset : used.dedup ⊆ (other :: used).dedup := by
    intro earlier hearlier
    apply List.mem_dedup.mpr
    exact List.mem_cons_of_mem other (List.mem_dedup.mp hearlier)
  exact (List.subperm_of_subset (List.nodup_dedup used) hsubset).length_le

namespace Recalls

variable {past : List Use} {store store' : MemoryStore} {now : Int} {key start : String}
  {value : Json} {lifetime : Nat}

theorem fresh (capacity : Nat) : Recalls [] (.empty capacity) where
  room := Nat.lt_of_lt_of_le Nat.one_pos (Nat.le_max_right capacity 1)
  distinct := List.nodup_nil
  size_le := Nat.zero_le _
  latest := nofun
  recent := nofun

/-- What is put to the front is in front of what was used since any other key was. -/
theorem behind_front (h : Recalls past store) {other : String} (hne : key ≠ other)
    (hlatest : latest? other past = some value) (entry : MemoryEntry)
    (hfew : (key :: usedSince other past).dedup.length < store.capacity) :
    Behind (key :: usedSince other past) other value
      ((key, entry) :: without key store.entries) := by
  have hfewer : (usedSince other past).dedup.length < store.capacity :=
    (length_dedup_le_cons key _).trans_lt hfew
  exact ((h.recent hlatest hfewer).without hne).cons key entry

theorem set (h : Recalls past store) (hset : store.set? now key value lifetime = some store') :
    Recalls (.wrote key value :: past) store' := by
  obtain ⟨deadline, -, rfl⟩ := Option.map_eq_some_iff.mp hset
  have hdistinct := nodup_keys_cons_without h.distinct key ⟨value, deadline⟩
  constructor
  case room => exact h.room
  case distinct =>
    exact ((List.take_sublist _ _).map _).nodup hdistinct
  case size_le => exact List.length_take_le _ _
  case latest =>
    intro other entry hfound
    have hfound := find?_of_find?_take hfound
    rw [find?_cons_without] at hfound
    rw [latest?]
    by_cases hkey : other = key
    · rw [if_pos hkey] at hfound
      rw [if_pos hkey.symm, ← Option.some.inj hfound]
    · rw [if_neg hkey] at hfound
      rw [if_neg (Ne.symm hkey)]
      exact h.latest hfound
  case recent =>
    intro other latest hlatest hfew
    rw [latest?] at hlatest
    rw [usedSince] at hfew ⊢
    by_cases hkey : key = other
    · subst hkey
      rw [if_pos rfl] at hlatest hfew ⊢
      obtain rfl := Option.some.inj hlatest
      exact (Behind.first [] key ⟨value, deadline⟩ _).take hdistinct hfew
    · rw [if_neg hkey] at hlatest hfew ⊢
      exact (h.behind_front hkey hlatest ⟨value, deadline⟩ hfew).take hdistinct hfew

/-- To read what is there puts it to the front. -/
theorem get_found (h : Recalls past store) {entry : MemoryEntry}
    (hentry : SortedMap.find? key store.entries = some entry) :
    Recalls (.read key true :: past)
      { store with entries := (key, entry) :: MemoryStore.without key store.entries } := by
  have hmem : key ∈ SortedMap.keys store.entries := by
    apply SortedMap.mem_keys_iff.mpr
    rw [hentry]
    rfl
  constructor
  case room => exact h.room
  case distinct => exact nodup_keys_cons_without h.distinct key entry
  case size_le =>
    -- The keys are those that were there, in another order.
    have hsubset : SortedMap.keys ((key, entry) :: MemoryStore.without key store.entries) ⊆
        SortedMap.keys store.entries := by
      apply List.cons_subset.mpr
      exact ⟨hmem, (List.filter_sublist.map _).subset⟩
    have hdistinct := nodup_keys_cons_without h.distinct key entry
    have hle := (List.subperm_of_subset hdistinct hsubset).length_le
    rw [SortedMap.keys, SortedMap.keys, List.length_map, List.length_map] at hle
    exact hle.trans h.size_le
  case latest =>
    intro other found hfound
    rw [find?_cons_without] at hfound
    rw [latest?]
    by_cases hkey : other = key
    · rw [if_pos hkey] at hfound
      rw [hkey, ← Option.some.inj hfound]
      exact h.latest hentry
    · rw [if_neg hkey] at hfound
      exact h.latest hfound
  case recent =>
    intro other latest hlatest hfew
    rw [latest?] at hlatest
    rw [usedSince] at hfew ⊢
    by_cases hkey : key = other
    · subst hkey
      rw [if_pos rfl]
      obtain rfl := Option.some.inj ((h.latest hentry).symm.trans hlatest)
      exact Behind.first [] key entry _
    · rw [if_neg hkey] at hfew ⊢
      exact h.behind_front hkey hlatest entry hfew

theorem get_missed (h : Recalls past store) : Recalls (.read key false :: past) store := by
  constructor
  case room => exact h.room
  case distinct => exact h.distinct
  case size_le => exact h.size_le
  case latest => exact h.latest
  case recent => exact h.recent

theorem get (h : Recalls past store)
    (hvalid : ∀ entry, store.entry? key = some entry → isExpired now entry = false) :
    Recalls (.read key (store.get now key).1.isSome :: past) (store.get now key).2 := by
  cases hentry : store.entry? key with
  | none =>
      have hget : store.get now key = (none, store) := by rw [MemoryStore.get, hentry]
      rw [hget]
      exact h.get_missed
  | some entry =>
      have hget : store.get now key = (some entry.value,
          { store with entries := (key, entry) :: MemoryStore.without key store.entries }) := by
        rw [MemoryStore.get, hentry]
        exact if_neg (by simp [hvalid entry hentry])
      rw [entry?_eq_find?] at hentry
      rw [hget]
      exact h.get_found hentry

/-- To keep only the entries with chosen keys keeps what a history tells, if that tells nothing of the
others. -/
theorem filter {past' : List Use} (h : Recalls past store) (chosen : String → Bool)
    (hlatest : ∀ other, latest? other past' =
      if chosen other then latest? other past else none)
    (hused : ∀ other, usedSince other past' = usedSince other past) :
    Recalls past' { store with entries := store.entries.filter fun entry => chosen entry.1 } := by
  constructor
  case room => exact h.room
  case distinct => exact nodup_keys_filter h.distinct _
  case size_le => exact (List.length_filter_le _ _).trans h.size_le
  case latest =>
    intro other entry hfound
    rw [SortedMap.find?_filter] at hfound
    rw [hlatest]
    by_cases hchosen : chosen other = true
    · rw [if_pos hchosen] at hfound ⊢
      exact h.latest hfound
    · rw [if_neg hchosen] at hfound
      contradiction
  case recent =>
    intro other value hvalue hfew
    rw [hlatest] at hvalue
    rw [hused] at hfew ⊢
    by_cases hchosen : chosen other = true
    · rw [if_pos hchosen] at hvalue
      exact (h.recent hvalue hfew).filter chosen hchosen
    · rw [if_neg hchosen] at hvalue
      contradiction

theorem erase (h : Recalls past store) : Recalls (.erased key :: past) (store.erase key).2 := by
  apply h.filter (· != key)
  · intro other
    rw [latest?]
    by_cases hkey : key = other
    · simp [hkey]
    · simp [hkey, Ne.symm hkey]
  · intro other
    rfl

theorem flush (h : Recalls past store) :
    Recalls (.flushed start :: past) (store.flush start).2 := by
  apply h.filter fun other => !Text.startsWith other start
  · intro other
    rw [latest?]
    cases Text.startsWith other start <;> rfl
  · intro other
    rfl

end Recalls

/-! ## A run -/

namespace Run

variable {capacity : Nat} {past : List Use} {store : MemoryStore}

theorem capacity_eq (h : Run capacity past store) : store.capacity = max capacity 1 := by
  induction h with
  | fresh => rfl
  | set _ written ih =>
      obtain ⟨deadline, -, rfl⟩ := Option.map_eq_some_iff.mp written
      exact ih
  | get now key _ _ ih =>
      rw [← ih, MemoryStore.get]
      split
      · rfl
      · split <;> rfl
  | erase key _ ih => exact ih
  | flush start _ ih => exact ih

/-- What a memory keeps of its history it keeps through every call. -/
theorem recalls (h : Run capacity past store) : Recalls past store := by
  induction h with
  | fresh => exact .fresh capacity
  | set _ written ih => exact ih.set written
  | get now key _ valid ih => exact ih.get valid
  | erase key _ ih => exact ih.erase
  | flush start _ ih => exact ih.flush

end Run

/-- A memory never has more entries than it may, and what was written last under a key is read there, if
fewer other keys were used since than there may be entries. -/
theorem recently_used_kept {capacity : Nat} {past : List Use} {store : MemoryStore}
    (h : Run capacity past store) :
    store.size ≤ max capacity 1 ∧
      ∀ {key : String} {value : Json} {now : Int}, latest? key past = some value →
        (usedSince key past).dedup.length < max capacity 1 →
        (∀ entry, store.entry? key = some entry → isExpired now entry = false) →
        (store.get now key).1 = some value := by
  have hrecalls := h.recalls
  rw [← h.capacity_eq]
  constructor
  · exact hrecalls.size_le
  · intro key value now hlatest hfew hvalid
    obtain ⟨entry, hfound, rfl⟩ := (hrecalls.recent hlatest hfew).find? hrecalls.distinct
    rw [← entry?_eq_find?] at hfound
    rw [MemoryStore.get, hfound]
    simp [hvalid entry hfound]

/-- Two entries, and no room for more. -/
def twoWritten : MemoryStore := ⟨2, [("b", ⟨.int 2, some 60⟩), ("a", ⟨.int 1, none⟩)]⟩

/-- The same after the first was read and a third was written. -/
def twoLeft : MemoryStore := ⟨2, [("c", ⟨.int 3, none⟩), ("a", ⟨.int 1, none⟩)]⟩

/-- There is room for two. What was read is kept when a third value is written, and the other one goes. -/
theorem recently_used_kept_hit :
    Run 2 [.wrote "c" (.int 3), .read "a" true, .wrote "b" (.int 2), .wrote "a" (.int 1)] twoLeft ∧
      twoLeft.size ≤ 2 ∧ (twoLeft.get 5 "a").1 = some (.int 1) ∧ (twoLeft.get 5 "b").1 = none := by
  have hwritten : Run 2 [.wrote "b" (.int 2), .wrote "a" (.int 1)] twoWritten := by
    have hfirst : (empty 2).set? 0 "a" (.int 1) 0 = some ⟨2, [("a", ⟨.int 1, none⟩)]⟩ := by rfl
    have hsecond : set? 0 "b" (.int 2) 60 ⟨2, [("a", ⟨.int 1, none⟩)]⟩ = some twoWritten := by rfl
    exact (Run.fresh.set hfirst).set hsecond
  have hrun : Run 2 [.wrote "c" (.int 3), .read "a" true, .wrote "b" (.int 2),
      .wrote "a" (.int 1)] twoLeft := by
    have hvalid : ∀ entry, twoWritten.entry? "a" = some entry → isExpired 5 entry = false := by
      rintro entry ⟨⟩
      rfl
    have hthird : (twoWritten.get 5 "a").2.set? 5 "c" (.int 3) 0 = some twoLeft := by rfl
    exact (hwritten.get 5 "a" hvalid).set hthird
  obtain ⟨hsize, hkept⟩ := recently_used_kept hrun
  have hread : (twoLeft.get 5 "a").1 = some (.int 1) := by
    apply hkept
    · rfl
    · decide
    · rintro entry ⟨⟩
      rfl
  exact ⟨hrun, hsize, hread, rfl⟩

end DynamicContent.Cache.MemoryStore
