/-
# What is written to a cache is read back

A place that can hold an entry gives back what was written last, at the same time: memory keeps the
entry in front of all others, and a file keeps its text, from which the value is read again. To read
twice gives the same answer, since reading only moves an entry that is valid, and removes only one
that is not.

Whether a place can hold an entry is asked of the place after the write. It is the same before, but
so nothing need be known of what happens in between.
-/

import DynamicContent.Cache.Facade
import DynamicContent.Proofs.Data.SortedMap
import DynamicContent.Proofs.Json.ReadBack

namespace DynamicContent.Cache

open Number (int64Min int64Max)

/-- Whether there is room for an entry under a key: for any entry at all, or for its file. -/
def Store.HasRoom (key : String) : Store → Prop
  | .memory store => 0 < store.capacity
  | .file store => Directory.nameError? (FileStore.fileName key) = none ∧
      store.directory.find? (FileStore.fileName key) ≠ some .folder
  | .broken => False

/-- Whether a place can hold an entry under a key until a lifetime has passed, by a clock of 64
bits. -/
def Store.CanHold (now : Int) (lifetime : Nat) (key : String) (store : Store) : Prop :=
  int64Min ≤ now ∧ 0 < lifetime ∧ now + lifetime ≤ int64Max ∧ store.HasRoom key

instance (key : String) : (store : Store) → Decidable (store.HasRoom key)
  | .memory store => inferInstanceAs (Decidable (0 < store.capacity))
  | .file _ => inferInstanceAs (Decidable (_ ∧ _))
  | .broken => inferInstanceAs (Decidable False)

instance (now : Int) (lifetime : Nat) (key : String) (store : Store) :
    Decidable (store.CanHold now lifetime key) := inferInstanceAs (Decidable (_ ∧ _))

/-! ## Memory -/

namespace MemoryStore

variable {now : Int} {key : String} {lifetime : Nat} {value : Json} {store : MemoryStore}

theorem entry?_cons (key : String) (entry : MemoryEntry) (capacity : Nat)
    (entries : List (String × MemoryEntry)) :
    entry? ⟨capacity, (key, entry) :: entries⟩ key = some entry := by
  simp [ entry?]

/-- An entry in front of all others that is valid is found. -/
theorem get_of_valid {entry : MemoryEntry} {entries : List (String × MemoryEntry)} {capacity : Nat}
    (hvalid : isExpired now entry = false) :
    (get now key ⟨capacity, (key, entry) :: entries⟩).1 = some entry.value := by
  rw [get, entry?_cons]
  simp [hvalid]

/-- What was written is read, if there is room for an entry and its deadline has not come. -/
theorem get_of_set?_before {store' : MemoryStore} {later : Int} (hroom : 0 < store'.capacity)
    (hlifetime : 0 < lifetime) (hlater : later < now + lifetime)
    (h : store.set? now key value lifetime = some store') :
    (store'.get later key).1 = some value := by
  rw [set?, deadline?, if_neg (by omega)] at h
  split at h
  · obtain rfl := Option.some.inj h
    have hvalid : isExpired later ⟨value, some (now + lifetime)⟩ = false := by
      simp [isExpired]
      omega
    obtain ⟨room, hcapacity⟩ : ∃ room, store.capacity = room + 1 :=
      ⟨_, (Nat.succ_pred_eq_of_pos hroom).symm⟩
    simp only [hcapacity, List.take_succ_cons]
    exact get_of_valid hvalid
  · contradiction

/-- To read twice gives the same. -/
theorem get_get (now : Int) (key : String) (store : MemoryStore) :
    ((store.get now key).2.get now key).1 = (store.get now key).1 := by
  cases hentry : store.entry? key with
  | none =>
      have hget : store.get now key = (none, store) := by rw [get, hentry]
      rw [hget, hget]
  | some entry =>
      cases hexpired : isExpired now entry with
      | true =>
          have hget : store.get now key =
              (none, { store with entries := without key store.entries }) := by
            rw [get, hentry]
            exact if_pos hexpired
          have hgone : entry? { store with entries := without key store.entries } key = none := by
            simp [ entry?, without, List.find?_eq_none]
          rw [hget, get, hgone]
      | false =>
          have hget : store.get now key = (some entry.value,
              { store with entries := (key, entry) :: without key store.entries }) := by
            rw [get, hentry]
            exact if_neg (by simp [hexpired])
          rw [hget]
          exact get_of_valid hexpired

end MemoryStore

/-! ## Files -/

/-- A file that was put in the place of a name is what is read under it. -/
theorem Directory.read_of_replace {name content : String} {dir dir' : Directory}
    (h : dir.replace name content = .ok dir') : dir'.read name = .ok content := by
  unfold Directory.replace at h
  split at h
  · contradiction
  · next hname =>
      split at h
      · contradiction
      · obtain rfl := Except.ok.inj h
        rw [Directory.read, hname]
        dsimp only
        rw [SortedMap.find?_insert_self]

/-- A file that was removed is not read. -/
theorem Directory.read_of_remove {name : String} {dir dir' : Directory}
    (h : dir.remove name = .ok dir') : dir'.read name = .error .notFound := by
  unfold Directory.remove at h
  split at h
  · contradiction
  · next hname =>
      split at h
      · obtain rfl := Except.ok.inj h
        rw [Directory.read, hname]
        dsimp only
        rw [SortedMap.find?_erase_self]
      · contradiction
      · contradiction

/-- A file that is read can be removed. -/
theorem Directory.exists_remove_of_read {name content : String} {dir : Directory}
    (h : dir.read name = .ok content) : ∃ left, dir.remove name = .ok left := by
  rw [Directory.read] at h
  rw [Directory.remove]
  split at h
  · contradiction
  · split at h
    · exact ⟨_, rfl⟩
    · contradiction
    · contradiction

/-- To put a file in the place of one name changes no other. -/
theorem Directory.read_of_replace_of_ne {name other content : String} {dir dir' : Directory}
    (hne : other ≠ name) (h : dir.replace other content = .ok dir') :
    dir'.read name = dir.read name := by
  unfold Directory.replace at h
  split at h
  · contradiction
  · split at h
    · contradiction
    · obtain rfl := Except.ok.inj h
      rw [Directory.read, Directory.read, SortedMap.find?_insert_of_ne hne.symm]

/-- To remove one file changes no other. -/
theorem Directory.read_of_remove_of_ne {name other : String} {dir dir' : Directory}
    (hne : other ≠ name) (h : dir.remove other = .ok dir') : dir'.read name = dir.read name := by
  unfold Directory.remove at h
  split at h
  · contradiction
  · split at h
    · obtain rfl := Except.ok.inj h
      rw [Directory.read, Directory.read, SortedMap.find?_erase, if_neg hne.symm]
    · contradiction
    · contradiction

/-- Only a name that no file may have, or a directory, keeps a file from being put in a place. -/
theorem Directory.replace_error {name content : String} {dir : Directory} {error : StepError}
    (h : dir.replace name content = .error error) :
    ¬ (nameError? name = none ∧ dir.find? name ≠ some .folder) := by
  rintro ⟨hname, hfree⟩
  rw [replace, hname] at h
  dsimp only at h
  split at h
  · next hfolder => exact hfree hfolder
  · contradiction

namespace FileStore

variable {now : Int} {key : String} {lifetime : Nat} {value : Json} {store : FileStore}

theorem lt_expiry (hlifetime : 0 < lifetime) (hnow : now + lifetime ≤ int64Max) :
    now < expiry now lifetime ∧ expiry now lifetime ≤ int64Max := by
  simp only [expiry, int64Max] at *
  omega

theorem expiry_mono {first : Int} (h : first ≤ now) (lifetime : Nat) :
    expiry first lifetime ≤ expiry now lifetime :=
  min_le_min_right _ (Int.add_le_add_right h _)

/-- The fields of a document in their order. -/
theorem toJson_eq (entry : StoredEntry) :
    entry.toJson = .object [("expires_at", .int entry.expiresAt), ("key", .string entry.key),
      ("value", entry.value)] := by
  have hexpires : "expires_at" < "key" := by decide
  have hkey : ¬ "value" < "key" := by decide
  have hvalue : ¬ "value" < "expires_at" := by decide
  simp [StoredEntry.toJson, Json.ofFields, SortedMap.ofList, SortedMap.insert, hexpires, hkey,
    hvalue]

/-- The document of an entry is read back from its text. -/
theorem ofJson?_parse? {entry : StoredEntry} (hvalue : entry.value.IsExact)
    (hdeep : entry.value.depth + 1 < Json.depthLimit) (hlow : int64Min ≤ entry.expiresAt)
    (hhigh : entry.expiresAt ≤ int64Max) :
    (Json.parse? entry.toJson.print).bind StoredEntry.ofJson? = some entry := by
  have hexact : entry.toJson.IsExact := by
    rw [toJson_eq]
    have hsorted : SortedMap.Sorted [("expires_at", Json.int entry.expiresAt),
        ("key", .string entry.key), ("value", entry.value)] := by
      simp only [SortedMap.Sorted, List.pairwise_cons, List.forall_mem_cons, List.not_mem_nil,
        false_implies, implies_true, List.Pairwise.nil, and_true]
      decide
    refine ⟨SortedMap.ofList_of_sorted hsorted, ⟨hlow, ?_⟩, trivial, hvalue, trivial⟩
    simp only [int64Max, Number.nat64Max] at *
    omega
  have hdepth : entry.toJson.depth < Json.depthLimit := by
    rw [toJson_eq]
    simp [Json.depth, Json.fieldsDepth]
    omega
  rw [Json.parse?_print hexact hdepth, Option.bind_some, toJson_eq]
  simp [StoredEntry.ofJson?, Json.recordFields?, Json.readField, SortedMap.find?, Json.string?,
    Json.int64?, hlow, hhigh]

/-- What was written is read, if its validity has not ended. -/
theorem get_of_set_before {store' : FileStore} {later : Int} (hlow : int64Min ≤ now)
    (hlifetime : 0 < lifetime) (hnow : now + lifetime ≤ int64Max)
    (hlater : later < expiry now lifetime) (hvalue : value.IsExact)
    (hdeep : value.depth + 1 < Json.depthLimit)
    (h : store.set now key value lifetime = (.ok (), store')) :
    store'.get later key = (.ok (some value), store') := by
  have hexpiry := lt_expiry hlifetime hnow
  rw [set, if_neg (by omega)] at h
  split at h
  · next directory hreplace =>
      obtain rfl := (Prod.mk.inj h).2
      have hread := Directory.read_of_replace hreplace
      have hentry := @ofJson?_parse? ⟨key, expiry now lifetime, value⟩ hvalue hdeep
        (by dsimp only; omega) hexpiry.2
      rw [get]
      dsimp only
      rw [hread]
      dsimp only
      rw [hentry]
      exact if_neg (Int.not_le.mpr hlater)
  · simp at h
  · simp at h

/-- Nothing but what is in the way of a file keeps it from being written, and then nothing
happens. -/
theorem set_cases (now : Int) (key : String) (value : Json) (lifetime : Nat) (store : FileStore) :
    (∃ store', store.set now key value lifetime = (.ok (), store')) ∨
      (store.set now key value lifetime).2 = store ∧
        ¬ (Directory.nameError? (fileName key) = none ∧
          store.directory.find? (fileName key) ≠ some .folder) := by
  rw [set]
  split
  · exact .inl ⟨_, rfl⟩
  · next hreplace => exact .inr ⟨rfl, Directory.replace_error hreplace⟩
  · next hreplace => exact .inr ⟨rfl, Directory.replace_error hreplace⟩

/-- Reading leaves the files as they are, unless it removes the one that was asked for. -/
theorem get_cases (now : Int) (key : String) (store : FileStore) :
    (store.get now key).2 = store ∨ (store.get now key).1 = .ok none ∧
      (store.get now key).2.directory.read (fileName key) = .error .notFound := by
  rw [get]
  split
  · exact .inl rfl
  · exact .inl rfl
  · next hread =>
      split
      · exact .inl rfl
      · split
        · cases hremove : store.directory.remove (fileName key) with
          | ok directory =>
              simp only [removeIfPresent, hremove]
              exact .inr ⟨rfl, Directory.read_of_remove hremove⟩
          | error error =>
              cases error <;>
              · left
                simp only [removeIfPresent, hremove]
        · exact .inl rfl

/-- To read twice gives the same. -/
theorem get_get (now : Int) (key : String) (store : FileStore) :
    ((store.get now key).2.get now key).1 = (store.get now key).1 := by
  rcases get_cases now key store with hsame | ⟨hnone, hgone⟩
  · rw [hsame]
  · rw [hnone, get, hgone]

end FileStore

/-! ## Either place -/

namespace Store

variable {now : Int} {key : String} {lifetime : Nat} {value : Json} {store store' : Store}

/-- What was written to a place that can hold it is read until its lifetime has passed. -/
theorem get_of_set_before {later : Int} (hvalue : value.IsExact)
    (hdeep : value.depth + 1 < Json.depthLimit) (hlater : later < FileStore.expiry now lifetime)
    (hhold : ((backend now).set key value lifetime store).2.CanHold now lifetime key) :
    ((backend later).get key ((backend now).set key value lifetime store).2).1 =
      .ok (some value) := by
  obtain ⟨hlow, hlifetime, hnow, hroom⟩ := hhold
  cases store with
  | memory store =>
      obtain ⟨store', hset⟩ : ∃ store', store.set? now key value lifetime = some store' := by
        rw [MemoryStore.set?, MemoryStore.deadline?, if_neg (by omega), if_pos hnow]
        exact ⟨_, rfl⟩
      have hrun : (backend now).set key value lifetime (memory store) =
          (.ok (), memory store') := by
        simp [backend, run, MemoryStore.backend, hset]
      have hdeadline : later < now + lifetime := by
        simp only [FileStore.expiry] at hlater
        omega
      rw [hrun] at hroom ⊢
      exact congrArg Except.ok (MemoryStore.get_of_set?_before hroom hlifetime hdeadline hset)
  | file store =>
      have hrun : (backend now).set key value lifetime (file store) =
          ((store.set now key value lifetime).1, file (store.set now key value lifetime).2) := rfl
      rw [hrun] at hroom ⊢
      rcases FileStore.set_cases now key value lifetime store with
        ⟨store', hset⟩ | ⟨hsame, hblocked⟩
      · rw [hset]
        exact congrArg Prod.fst
          (FileStore.get_of_set_before hlow hlifetime hnow hlater hvalue hdeep hset)
      · rw [hsame] at hroom
        exact absurd hroom hblocked
  | broken => exact absurd hroom id

/-- What was written to a place that can hold it is read at the same time. -/
theorem get_of_set (hvalue : value.IsExact) (hdeep : value.depth + 1 < Json.depthLimit)
    (hhold : ((backend now).set key value lifetime store).2.CanHold now lifetime key) :
    ((backend now).get key ((backend now).set key value lifetime store).2).1 =
      .ok (some value) :=
  get_of_set_before hvalue hdeep (FileStore.lt_expiry hhold.2.1 hhold.2.2.1).1 hhold

/-- To read twice gives the same. -/
theorem get_get (now : Int) (key : String) (store : Store) :
    ((backend now).get key ((backend now).get key store).2).1 =
      ((backend now).get key store).1 := by
  cases store with
  | memory store => exact congrArg Except.ok (MemoryStore.get_get now key store)
  | file store => exact FileStore.get_get now key store
  | broken => rfl

end Store

/-! ## The cache -/

/-- Whether a backend was able to do something. -/
def succeeded {α : Type} : Except CacheError α → Bool
  | .ok _ => true
  | .error _ => false

/-- What an action leaves is what the next one starts from. -/
theorem bind_apply {σ α β : Type} (action : CacheM σ α) (next : α → CacheM σ β)
    (s : CacheState σ) : (action >>= next) s = next (action s).1 (action s).2 := rfl

namespace Cache

theorem onStore_apply {σ α : Type} (f : σ → Except CacheError α × σ) (s : CacheState σ) :
    onStore f s = ((f s.store).1, { s with store := (f s.store).2 }) := rfl

/-- What is found in that which a backend has read. -/
def found? {α : Type} (decode : Json → Option α) : Except CacheError (Option Json) → Option α
  | .ok (some v) => decode v
  | _ => none

section

variable {σ α : Type} {cache : Cache σ}

/-- To read is to have the backend read. It changes the entries and the counters only. -/
theorem get_eq_found? (decode : Json → Option α) (key group : String) (s : CacheState σ) :
    ∃ counters, cache.get decode key group s =
      (found? decode (cache.backend.get (storedKey cache.start group key) s.store).1, { s with
        store := (cache.backend.get (storedKey cache.start group key) s.store).2, counters }) := by
  rw [get, bind_apply, onStore_apply]
  cases (cache.backend.get (storedKey cache.start group key) s.store).1 with
  | error _ => exact ⟨_, rfl⟩
  | ok found =>
      cases found with
      | none => exact ⟨_, rfl⟩
      | some v =>
          rw [found?]
          dsimp only
          cases decode v <;> exact ⟨_, rfl⟩

/-- To write is to have the backend write, and to announce whether that took place. -/
theorem set_some_eq (key : String) (value : Json) (lifetime : Nat) (group : String)
    (s : CacheState σ) :
    ∃ counters, cache.set key (some value) lifetime group s =
      (succeeded (cache.backend.set (storedKey cache.start group key) value lifetime s.store).1,
        { store := (cache.backend.set (storedKey cache.start group key) value lifetime s.store).2,
          counters,
          events := s.events ++ [.written key group lifetime (succeeded
            (cache.backend.set (storedKey cache.start group key) value lifetime s.store).1)] }) := by
  rw [set, bind_apply, onStore_apply]
  cases (cache.backend.set (storedKey cache.start group key) value lifetime s.store).1 with
  | ok _ => exact ⟨_, rfl⟩
  | error _ => exact ⟨_, rfl⟩

end

variable {α : Type} {cache : Cache Store} {now : Int} {decode : Json → Option α}
  {key group : String} {s : CacheState Store}

/-- What a cache remembers under a key of a group, given the entries. -/
def remembered? (cache : Cache Store) (decode : Json → Option α) (key group : String)
    (store : Store) : Option α :=
  match (cache.backend.get (storedKey cache.start group key) store).1 with
  | .ok (some v) => decode v
  | _ => none

/-- To read gives what is remembered. It changes the entries and the counters only. -/
theorem get_eq (decode : Json → Option α) (key group : String) (s : CacheState Store) :
    ∃ counters, cache.get decode key group s = (cache.remembered? decode key group s.store, { s with
      store := (cache.backend.get (storedKey cache.start group key) s.store).2, counters }) :=
  cache.get_eq_found? decode key group s

/-- What is remembered does not change by being read. -/
theorem remembered?_get (hbackend : cache.backend = Store.backend now) (decode : Json → Option α)
    (key group : String) (s : CacheState Store) :
    cache.remembered? decode key group (cache.get decode key group s).2.store =
      cache.remembered? decode key group s.store := by
  obtain ⟨counters, hget⟩ := cache.get_eq decode key group s
  rw [hget, remembered?, remembered?, hbackend, Store.get_get]

/-- What was written is remembered, if the place can hold it. -/
theorem remembered?_set (hbackend : cache.backend = Store.backend now) {value : Json}
    {lifetime : Nat} (hvalue : value.IsExact) (hdeep : value.depth + 1 < Json.depthLimit)
    (hhold : (cache.set key (some value) lifetime group s).2.store.CanHold now lifetime
      (storedKey cache.start group key)) :
    cache.remembered? decode key group (cache.set key (some value) lifetime group s).2.store =
      decode value := by
  obtain ⟨counters, hset⟩ := cache.set_some_eq key value lifetime group s
  rw [hset, hbackend] at hhold
  rw [remembered?, hset, hbackend, Store.get_of_set hvalue hdeep hhold]

end Cache

end DynamicContent.Cache
