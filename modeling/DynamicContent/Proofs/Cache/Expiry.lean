/-
# Which lifetimes can be kept

A lifetime may be as long as a number can be, while the clocks have 64 bits. The two places differ in what
they make of that. For a file the end of a lifetime is the last moment that can be told, if the true
one is later. So every lifetime has an end, and a longer one never ends earlier. A memory adds the
lifetime to its clock unchecked. It keeps an entry exactly if the sum is a time, and for any longer
lifetime the clock overruns.

That is a difference between writes that are carried out and writes that end the program, so it is stated
of the operation of the cache, which says whether a write took place and behind which it can be seen
whether the clock overran.
-/

import DynamicContent.Proofs.Cache.Facade

namespace DynamicContent.Cache

open Number (int64Min int64Max)

/-- Whether a clock of 64 bits can tell the end of a lifetime that begins at some time. One of zero has no
end of its own. -/
def IsTold (now : Int) (lifetime : Nat) : Prop := lifetime = 0 ∨ now + lifetime ≤ int64Max

instance (now : Int) (lifetime : Nat) : Decidable (IsTold now lifetime) :=
  inferInstanceAs (Decidable (_ ∨ _))

/-! ## Memory -/

namespace MemoryStore

variable {now : Int} {key : String} {value : Json} {lifetime : Nat} {store store' : MemoryStore}

theorem deadline?_eq_none_iff : deadline? now lifetime = none ↔ ¬ IsTold now lifetime := by
  rw [deadline?, IsTold]
  by_cases hzero : lifetime = 0
  · simp [hzero]
  · by_cases htold : now + lifetime ≤ int64Max
    · simp [hzero, htold]
    · simp [hzero, htold]

/-- A write is refused exactly if the end of its lifetime cannot be told. -/
theorem set?_eq_none_iff : store.set? now key value lifetime = none ↔ ¬ IsTold now lifetime :=
  Option.map_eq_none_iff.trans deadline?_eq_none_iff

/-- A longer lifetime ends no earlier, if it can be told at all. -/
theorem exists_deadline_le {first second : Nat} {last : Int} (hfirst : 0 < first)
    (h : first ≤ second) (hlast : deadline? now second = some (some last)) :
    ∃ deadline, deadline ≤ last ∧ deadline? now first = some (some deadline) := by
  have hpositive : second ≠ 0 := by omega
  rw [deadline?, if_neg hpositive] at hlast
  split at hlast
  · next htold =>
      obtain rfl := Option.some.inj (Option.some.inj hlast)
      have htold' : now + first ≤ int64Max := by omega
      refine ⟨now + first, by omega, ?_⟩
      rw [deadline?, if_neg hfirst.ne', if_pos htold']
  · contradiction

/-- What was written is kept until the end of its lifetime, or as long as there is room for it. -/
theorem entry?_of_set? (hroom : 0 < store.capacity)
    (h : store.set? now key value lifetime = some store') :
    store'.entry? key = some ⟨value, if lifetime = 0 then none else some (now + lifetime)⟩ := by
  obtain ⟨deadline, hdeadline, rfl⟩ := Option.map_eq_some_iff.mp h
  obtain ⟨room, hcapacity⟩ : ∃ room, store.capacity = room + 1 :=
    ⟨_, (Nat.succ_pred_eq_of_pos hroom).symm⟩
  rw [eq_of_deadline? hdeadline]
  simp only [hcapacity, List.take_succ_cons]
  exact entry?_cons _ _ _ _

end MemoryStore

/-! ## Files -/

namespace FileStore

variable {now : Int} {key : String} {value : Json} {lifetime : Nat} {store : FileStore}

/-- The end of a lifetime is a time that the clock can tell. -/
theorem expiry_bounds (hlow : int64Min ≤ now) (hhigh : now ≤ int64Max) (lifetime : Nat) :
    int64Min ≤ expiry now lifetime ∧ expiry now lifetime ≤ int64Max := by
  simp only [expiry, int64Min, int64Max] at *
  omega

/-- A longer lifetime does not end earlier. -/
theorem expiry_mono_lifetime (now : Int) {first second : Nat} (h : first ≤ second) :
    expiry now first ≤ expiry now second := by
  simp only [expiry]
  omega

/-- However long a lifetime is, what is written can be read, if its place is free. -/
theorem set_of_free (hname : Directory.nameError? (fileName key) = none)
    (hfree : store.directory.find? (fileName key) ≠ some .folder) :
    ∃ store', store.set now key value lifetime = (.ok (), store') ∧
      store'.directory.read (fileName key) = .ok (StoredEntry.toJson ⟨key,
        expiry now (if lifetime = 0 then store.defaultLifetime else lifetime), value⟩).print := by
  rw [set]
  split
  · next directory hreplace =>
      exact ⟨_, rfl, Directory.read_of_replace hreplace⟩
  · next hreplace => exact absurd ⟨hname, hfree⟩ (Directory.replace_error hreplace)
  · next hreplace => exact absurd ⟨hname, hfree⟩ (Directory.replace_error hreplace)

end FileStore

/-! ## The cache -/

namespace CacheState

theorem clockOverran_of_file {s : CacheState Store} {store : FileStore}
    (h : s.store = .file store) : s.clockOverran = false := by
  rw [clockOverran, h]

theorem clockOverran_of_memory {s : CacheState Store} {store : MemoryStore}
    (h : s.store = .memory store) : s.clockOverran =
      SortedMap.contains (Counters.label "weft_cache_error_total" [("op", "set")]) s.counters := by
  rw [clockOverran, h]

end CacheState

theorem errorLabel_ne (group : String) :
    Counters.label "weft_cache_error_total" [("op", "set")] ≠
      Counters.label "weft_cache_write_total" [("group", group)] := by
  intro h
  have hfront := congrArg (fun label => label.toList.take 12) h
  simp [Counters.label] at hfront

namespace Cache

variable {σ : Type} {cache : Cache σ} {key group : String} {value : Json} {lifetime : Nat}

/-- A write that the backend carries out is counted as a write and not as a failure. -/
theorem set_of_ok {s : CacheState σ}
    (h : (cache.backend.set (storedKey cache.start group key) value lifetime s.store).1 = .ok ()) :
    cache.set key (some value) lifetime group s = (true, {
      store := (cache.backend.set (storedKey cache.start group key) value lifetime s.store).2,
      counters := Counters.increase "weft_cache_write_total" [("group", group)] s.counters,
      events := s.events ++ [.written key group lifetime true] }) := by
  rw [set, bind_apply, onStore_apply, h]
  rfl

/-- A write that the backend refuses is counted as a failure. -/
theorem set_of_error {s : CacheState σ} {error : CacheError}
    (h : (cache.backend.set (storedKey cache.start group key) value lifetime s.store).1 =
      .error error) :
    cache.set key (some value) lifetime group s = (false, {
      store := (cache.backend.set (storedKey cache.start group key) value lifetime s.store).2,
      counters := Counters.increase "weft_cache_error_total" [("op", "set")] s.counters,
      events := s.events ++ [.written key group lifetime false] }) := by
  rw [set, bind_apply, onStore_apply, h]
  rfl

end Cache

/-! ## The cache of a site -/

section

variable {start key group : String} {value : Json} {now : Int} {lifetime : Nat}
  {s : CacheState Store}

theorem set_memory_of_told {store : MemoryStore} (hstore : s.store = .memory store)
    (hcalm : s.clockOverran = false) (hroom : 0 < store.capacity) (htold : IsTold now lifetime) :
    ∃ t store', (siteCache start now).set key (some value) lifetime group s = (true, t) ∧
      t.clockOverran = false ∧ t.store = .memory store' ∧
      store'.entry? (storedKey start group key) =
        some ⟨value, if lifetime = 0 then none else some (now + lifetime)⟩ := by
  obtain ⟨store', hset⟩ : ∃ store', store.set? now (storedKey start group key) value lifetime =
      some store' := by
    apply Option.ne_none_iff_exists'.mp
    intro hnone
    exact MemoryStore.set?_eq_none_iff.mp hnone htold
  have hrun : (Store.backend now).set (storedKey start group key) value lifetime s.store =
      (.ok (), .memory store') := by
    simp [hstore, Store.backend, Store.run, MemoryStore.backend, hset]
  refine ⟨_, store', Cache.set_of_ok (congrArg Prod.fst hrun), ?_, congrArg Prod.snd hrun,
    MemoryStore.entry?_of_set? hroom hset⟩
  rw [CacheState.clockOverran_of_memory (congrArg Prod.snd hrun), SortedMap.contains,
    Counters.increase, SortedMap.modify, SortedMap.find?_insert_of_ne (errorLabel_ne group)]
  rwa [CacheState.clockOverran_of_memory hstore] at hcalm

theorem set_memory_of_not_told {store : MemoryStore} (hstore : s.store = .memory store)
    (htold : ¬ IsTold now lifetime) :
    ∃ t, (siteCache start now).set key (some value) lifetime group s = (false, t) ∧
      t.clockOverran = true ∧ t.store = s.store := by
  have hset : store.set? now (storedKey start group key) value lifetime = none :=
    MemoryStore.set?_eq_none_iff.mpr htold
  have hrun : (Store.backend now).set (storedKey start group key) value lifetime s.store =
      (.error (.io "deadline out of range"), .memory store) := by
    simp [hstore, Store.backend, Store.run, MemoryStore.backend, hset]
  refine ⟨_, Cache.set_of_error (congrArg Prod.fst hrun), ?_, ?_⟩
  · rw [CacheState.clockOverran_of_memory (congrArg Prod.snd hrun), SortedMap.contains,
      Counters.increase, SortedMap.modify, SortedMap.find?_insert_self]
    rfl
  · exact (congrArg Prod.snd hrun).trans hstore.symm

theorem set_file_calm {store : FileStore} (hstore : s.store = .file store) :
    ((siteCache start now).set key (some value) lifetime group s).2.clockOverran = false := by
  obtain ⟨counters, hset⟩ := (siteCache start now).set_some_eq key value lifetime group s
  have hrun : ((siteCache start now).backend.set (storedKey start group key) value lifetime
      s.store).2 = .file (store.set now (storedKey start group key) value lifetime).2 := by
    simp only [hstore, siteCache, Store.backend, Store.run, FileStore.backend]
  rw [hset]
  exact CacheState.clockOverran_of_file hrun

theorem set_file_of_free {store : FileStore} (hstore : s.store = .file store)
    (hroom : s.store.HasRoom (storedKey start group key)) :
    ∃ t store', (siteCache start now).set key (some value) lifetime group s = (true, t) ∧
      t.store = .file store' ∧
      store'.directory.read (FileStore.fileName (storedKey start group key)) =
        .ok (StoredEntry.toJson ⟨storedKey start group key, FileStore.expiry now
          (if lifetime = 0 then store.defaultLifetime else lifetime), value⟩).print := by
  rw [hstore] at hroom
  obtain ⟨hname, hfree⟩ := hroom
  obtain ⟨store', hset, hread⟩ :=
    @FileStore.set_of_free now (storedKey start group key) value lifetime store hname hfree
  have hrun : (Store.backend now).set (storedKey start group key) value lifetime s.store =
      (.ok (), .file store') := by
    simp [hstore, Store.backend, Store.run, FileStore.backend, hset]
  exact ⟨_, store', Cache.set_of_ok (congrArg Prod.fst hrun), congrArg Prod.snd hrun, hread⟩

/-- Over files every lifetime can be kept: the clock never overruns, and where the place of the file is
free, the document is there, with an end that the clock can tell. Over a memory exactly those can be kept
whose end the clock can tell; for any other it overruns. In both places a longer lifetime never ends
earlier, if it can be kept. -/
theorem carriedOut_iff_told (hlow : int64Min ≤ now) (hhigh : now ≤ int64Max) :
    (∀ {store : FileStore}, s.store = .file store →
      ((siteCache start now).set key (some value) lifetime group s).2.clockOverran = false ∧
      (s.store.HasRoom (storedKey start group key) →
        ∃ t store' deadline, (siteCache start now).set key (some value) lifetime group s =
            (true, t) ∧
          t.store = .file store' ∧
          store'.directory.read (FileStore.fileName (storedKey start group key)) =
            .ok (StoredEntry.toJson ⟨storedKey start group key, deadline, value⟩).print ∧
          deadline = FileStore.expiry now
            (if lifetime = 0 then store.defaultLifetime else lifetime) ∧
          int64Min ≤ deadline ∧ deadline ≤ int64Max)) ∧
    (∀ {store : MemoryStore}, s.store = .memory store → s.clockOverran = false →
      0 < store.capacity →
      (IsTold now lifetime →
        ∃ t store', (siteCache start now).set key (some value) lifetime group s = (true, t) ∧
          t.clockOverran = false ∧ t.store = .memory store' ∧
          store'.entry? (storedKey start group key) =
            some ⟨value, if lifetime = 0 then none else some (now + lifetime)⟩) ∧
      (¬ IsTold now lifetime →
        ∃ t, (siteCache start now).set key (some value) lifetime group s = (false, t) ∧
          t.clockOverran = true ∧ t.store = s.store)) ∧
    (∀ {first second : Nat}, 0 < first → first ≤ second →
      FileStore.expiry now first ≤ FileStore.expiry now second ∧
      ∀ {last : Int}, MemoryStore.deadline? now second = some (some last) →
        ∃ deadline, deadline ≤ last ∧
          MemoryStore.deadline? now first = some (some deadline)) := by
  refine ⟨?_, ?_, ?_⟩
  · intro store hstore
    constructor
    · exact set_file_calm hstore
    · intro hroom
      obtain ⟨t, store', hset, hstore', hread⟩ := set_file_of_free hstore hroom
      exact ⟨t, store', _, hset, hstore', hread, rfl, FileStore.expiry_bounds hlow hhigh _⟩
  · intro store hstore hcalm hroom
    constructor
    · intro htold
      exact set_memory_of_told hstore hcalm hroom htold
    · intro htold
      exact set_memory_of_not_told hstore htold
  · intro first second hfirst hle
    constructor
    · exact FileStore.expiry_mono_lifetime now hle
    · intro last hlast
      exact MemoryStore.exists_deadline_le hfirst hle hlast

/-- A store that was just opened, before anything was counted or announced. -/
def opened (store : Store) : CacheState Store := ⟨store, [], []⟩

/-- The longest lifetime there is ends a write to a memory, and a file is valid until the last moment. -/
theorem overruns_in_memory :
    (∃ t, (siteCache "weft_" 1700000000).set "blogname" (some (.string "Tea House"))
        18446744073709551615 "dynamic" (opened (.memory (.empty 16))) = (false, t) ∧
      t.clockOverran = true) ∧
    ∃ t store', (siteCache "weft_" 1700000000).set "blogname" (some (.string "Tea House"))
        18446744073709551615 "dynamic" (opened (.file (.empty 60))) = (true, t) ∧
      t.store = .file store' ∧
      store'.directory.read "weft_dynamic_blogname.json" =
        .ok (StoredEntry.toJson
          ⟨"weft_dynamic_blogname", int64Max, .string "Tea House"⟩).print := by
  constructor
  · obtain ⟨-, hmemory, -⟩ := @carriedOut_iff_told "weft_" "blogname" "dynamic"
      (.string "Tea House") 1700000000 18446744073709551615 (opened (.memory (.empty 16)))
      (by decide) (by decide)
    obtain ⟨-, hrefused⟩ := hmemory rfl rfl (by decide)
    obtain ⟨t, hset, hoverran, -⟩ := hrefused (by decide)
    exact ⟨t, hset, hoverran⟩
  · obtain ⟨hfiles, -, -⟩ := @carriedOut_iff_told "weft_" "blogname" "dynamic"
      (.string "Tea House") 1700000000 18446744073709551615 (opened (.file (.empty 60)))
      (by decide) (by decide)
    obtain ⟨-, hfree⟩ := hfiles rfl
    obtain ⟨t, store', deadline, hset, hstore', hread, hdeadline, -, -⟩ := hfree (by decide)
    have hlast : deadline = int64Max := by
      rw [hdeadline]
      decide
    rw [hlast] at hread
    exact ⟨t, store', hset, hstore', hread⟩

end

end DynamicContent.Cache
