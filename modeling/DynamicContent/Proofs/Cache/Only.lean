/-
# What is under a key of a memory

A bounded memory forgets entries at any time, so it is seldom known what it holds, and no ledger tells
it. What can be known is what it does not hold: nothing is under a key but values that were written
there. Reading, removing and flushing add no entry and writing adds the one that is written, so a
property that all values have that are ever written under a key is one of what is read there.
-/

import DynamicContent.Proofs.Cache.Facade

namespace DynamicContent.Cache

/-! ## Memory -/

namespace MemoryStore

variable {now : Int} {key : String} {value : Json} {lifetime : Nat} {store store' : MemoryStore}

theorem without_subset (key : String) (entries : List (String × MemoryEntry)) :
    without key entries ⊆ entries := List.filter_sublist.subset

theorem mem_entries_of_found {entry : MemoryEntry} (h : store.entry? key = some entry) :
    (key, entry) ∈ store.entries := by
  obtain ⟨⟨other, found⟩, hfound, rfl⟩ := Option.map_eq_some_iff.mp h
  obtain rfl : other = key := by simpa using List.find?_some hfound
  exact List.mem_of_find?_eq_some hfound

/-- Reading adds no entry. -/
theorem get_subset (now : Int) (key : String) (store : MemoryStore) :
    (store.get now key).2.entries ⊆ store.entries := by
  rw [get]
  split
  · exact List.Subset.refl _
  · next entry hentry =>
      split
      · exact without_subset key store.entries
      · exact List.cons_subset.mpr ⟨mem_entries_of_found hentry, without_subset key store.entries⟩

theorem get_eq_some {v : Json} (h : (store.get now key).1 = some v) :
    ∃ entry, (key, entry) ∈ store.entries ∧ entry.value = v := by
  rw [get] at h
  split at h
  · contradiction
  · next entry hentry =>
      split at h
      · contradiction
      · exact ⟨entry, mem_entries_of_found hentry, Option.some.inj h⟩

/-- Writing adds the one entry. -/
theorem set?_subset (h : store.set? now key value lifetime = some store') :
    ∃ deadline, store'.entries ⊆ (key, ⟨value, deadline⟩) :: store.entries := by
  obtain ⟨deadline, -, rfl⟩ := Option.map_eq_some_iff.mp h
  refine ⟨deadline, fun entry hentry => ?_⟩
  exact List.cons_subset_cons _ (without_subset key store.entries) (List.mem_of_mem_take hentry)

end MemoryStore

/-- A memory all of whose entries are those of another. -/
inductive Store.Within : Store → Store → Prop
  | memory {store other : MemoryStore} (entries : store.entries ⊆ other.entries) :
      Store.Within (.memory store) (.memory other)

/-- A memory in which only values with a property are under a key. -/
inductive Store.Only (key : String) (P : Json → Prop) : Store → Prop
  | memory {store : MemoryStore}
      (entries : ∀ entry ∈ store.entries, entry.1 = key → P entry.2.value) :
      Store.Only key P (.memory store)

namespace Store

variable {now : Int} {key other : String} {P : Json → Prop} {store store' : Store}

theorem Only.of_within (h : store.Only key P) (hwithin : store'.Within store) :
    store'.Only key P := by
  cases h with
  | memory hentries =>
      cases hwithin with
      | memory hsubset => exact .memory fun entry hentry => hentries entry (hsubset hentry)

theorem Only.within_self (h : store.Only key P) : store.Within store := by
  cases h with
  | memory _ => exact .memory (List.Subset.refl _)

theorem within_get (h : store.Only key P) : ((backend now).get other store).2.Within store := by
  cases h with
  | memory _ => exact .memory (MemoryStore.get_subset now other _)

theorem within_erase (h : store.Only key P) :
    ((backend now).erase other store).2.Within store := by
  cases h with
  | memory _ => exact .memory (MemoryStore.without_subset other _)

theorem within_flush (h : store.Only key P) (start : String) :
    ((backend now).flush start store).2.Within store := by
  cases h with
  | memory _ => exact .memory List.filter_sublist.subset

theorem of_get_eq_some (h : store.Only key P) {v : Json}
    (hget : ((backend now).get key store).1 = .ok (some v)) : P v := by
  cases h with
  | memory hentries =>
      obtain ⟨entry, hentry, rfl⟩ := MemoryStore.get_eq_some (Except.ok.inj hget)
      exact hentries _ hentry rfl

/-- What is written under the key must have the property. -/
theorem only_set (h : store.Only key P) {value : Json} (hvalue : other = key → P value)
    (lifetime : Nat) : ((backend now).set other value lifetime store).2.Only key P := by
  cases h with
  | @memory store hentries =>
      cases hset : store.set? now other value lifetime with
      | none =>
          have hrun : ((backend now).set other value lifetime (memory store)).2 = memory store := by
            simp [backend, run, MemoryStore.backend, hset]
          rw [hrun]
          exact .memory hentries
      | some store' =>
          have hrun : ((backend now).set other value lifetime (memory store)).2 =
              memory store' := by
            simp [backend, run, MemoryStore.backend, hset]
          rw [hrun]
          obtain ⟨deadline, hsubset⟩ := MemoryStore.set?_subset hset
          refine .memory fun entry hentry hkey => ?_
          rcases List.mem_cons.mp (hsubset hentry) with rfl | hold
          · exact hvalue hkey
          · exact hentries entry hold hkey

end Store

namespace Cache

variable {α : Type} {start key group : String} {now : Int} {P : Json → Prop} {s : CacheState Store}
  {stored : String}

theorem only_get (h : s.store.Only stored P) (start : String) (now : Int)
    (decode : Json → Option α) (key group : String) :
    ((siteCache start now).get decode key group s).2.store.Only stored P := by
  obtain ⟨counters, hget⟩ := (siteCache start now).get_eq decode key group s
  rw [hget]
  exact h.of_within (Store.within_get h)

theorem only_set (h : s.store.Only stored P) {value : Option Json} (lifetime : Nat)
    (hvalue : storedKey start group key = stored → ∀ v ∈ value, P v) :
    ((siteCache start now).set key value lifetime group s).2.store.Only stored P := by
  cases value with
  | none =>
      obtain ⟨counters, hset⟩ := (siteCache start now).set_none_eq key lifetime group s
      rw [hset]
      exact h
  | some v =>
      obtain ⟨counters, hset⟩ := (siteCache start now).set_some_eq key v lifetime group s
      rw [hset]
      exact Store.only_set h (fun hkey => hvalue hkey v rfl) lifetime

theorem only_erase (h : s.store.Only stored P) :
    ((siteCache start now).erase key group s).2.store.Only stored P := by
  obtain ⟨counters, herase⟩ := (siteCache start now).erase_eq key group s
  rw [herase]
  exact h.of_within (Store.within_erase h)

theorem only_flush (h : s.store.Only stored P) (flushed : Option String) :
    ((siteCache start now).flush flushed s).2.store.Only stored P := by
  obtain ⟨counters, hflush⟩ := (siteCache start now).flush_eq flushed s
  rw [hflush]
  exact h.of_within (Store.within_flush h _)

/-- What is remembered under another key is nothing to the key. -/
theorem only_remember (h : s.store.Only stored P) (hkey : storedKey start group key ≠ stored)
    (decode : Json → Option α) (encode : α → Option Json) (lifetime : Nat) (value : α) :
    ((siteCache start now).remember decode encode key lifetime group
      (pure value : CacheM Store α) s).2.store.Only stored P := by
  rw [Cache.remember_pure_eq]
  have hread := only_get h start now decode key group
  split
  · next hit t hget => rwa [hget] at hread
  · next t hget =>
      rw [hget] at hread
      exact only_set hread lifetime fun heq => absurd heq hkey

end Cache

end DynamicContent.Cache
