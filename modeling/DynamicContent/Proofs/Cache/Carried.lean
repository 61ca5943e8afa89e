/-
# What a place carries under a key

Whatever place a cache has, a value gets under a stored key only by being written there. Reading,
removing and flushing at most take it away, and so does the time. Which values a place *carries* under a
key, valid or not, is therefore told by the writes alone, without knowing what the place has forgotten in
between. Where reading a key finds nothing the place carries nothing under it afterwards.
-/

import DynamicContent.Proofs.Cache.Interchange
import DynamicContent.Proofs.Cache.Neighbours
import DynamicContent.Proofs.Cache.Only

namespace DynamicContent.Cache

open Number (int64Min int64Max)

/-! ## Memory -/

/-- A read finds a value that is carried, or it finds none and none is carried afterwards. -/
theorem MemoryStore.get_outcome (now : Int) (key : String) (store : MemoryStore) :
    (∃ value, (store.get now key).1 = some value ∧
        ∃ deadline, (key, ⟨value, deadline⟩) ∈ store.entries) ∨
      (store.get now key).1 = none ∧
        ∀ value, ¬ ∃ deadline, (key, ⟨value, deadline⟩) ∈ (store.get now key).2.entries := by
  rw [get]
  cases hentry : store.entry? key with
  | none =>
      refine .inr ⟨rfl, ?_⟩
      rintro value ⟨deadline, hmem⟩
      have hnone := List.find?_eq_none.mp (Option.map_eq_none_iff.mp hentry) _ hmem
      exact hnone (by simp)
  | some entry =>
      dsimp only
      split
      · refine .inr ⟨rfl, ?_⟩
        rintro value ⟨deadline, hmem⟩
        exact absurd (List.mem_filter.mp hmem).2 (by simp)
      · exact .inl ⟨entry.value, rfl, entry.deadline, mem_entries_of_found hentry⟩

/-! ## Files -/

/-- Whether a directory has a value in the file of a key. -/
def FileStore.Carries (key : String) (value : Json) (store : FileStore) : Prop :=
  ∃ content entry, store.directory.read (fileName key) = .ok content ∧
    (Json.parse? content).bind StoredEntry.ofJson? = some entry ∧ entry.value = value

namespace FileStore

variable {now : Int} {key other start : String} {value written : Json} {lifetime : Nat}
  {store : FileStore} {dir : Directory}

theorem read_eq_ok_iff {name content : String} :
    dir.read name = .ok content ↔
      Directory.nameError? name = none ∧ SortedMap.find? name dir = some (.file content) := by
  rw [Directory.read]
  cases Directory.nameError? name with
  | some error => simp
  | none =>
      cases SortedMap.find? name dir with
      | none => simp
      | some entry => cases entry <;> simp

/-- A directory that has at most the files of another. -/
def Fewer (dir dir' : Directory) : Prop :=
  ∀ name content, dir.read name = .ok content → dir'.read name = .ok content

theorem fewer_removeIfPresent (name : String) (dir : Directory) :
    Fewer (removeIfPresent name dir).2 dir := by
  intro other content hread
  rcases removeIfPresent_cases name dir with hsame | herased
  · rwa [hsame] at hread
  · rw [herased, read_eq_ok_iff, SortedMap.find?_erase] at hread
    obtain ⟨hname, hfile⟩ := hread
    rw [Option.ite_none_left_eq_some] at hfile
    exact read_eq_ok_iff.mpr ⟨hname, hfile.2⟩

theorem Carries.of_fewer {store' : FileStore} (h : store'.Carries key value)
    (hfewer : Fewer store'.directory store.directory) : store.Carries key value := by
  obtain ⟨content, entry, hread, hentry, hvalue⟩ := h
  exact ⟨content, entry, hfewer _ _ hread, hentry, hvalue⟩

theorem fewer_get (now : Int) (key : String) (store : FileStore) :
    Fewer (store.get now key).2.directory store.directory := by
  rcases get_snd_cases now key store with hsame | hremoved
  · rw [hsame]
    exact fun _ _ => id
  · rw [hremoved]
    exact fewer_removeIfPresent _ _

theorem fewer_flush (start : String) (store : FileStore) :
    Fewer (store.flush start).2.directory store.directory :=
  removeAll_keeps (P := fun dir => Fewer dir store.directory)
    (fun name _ dir hdir _ _ hread => hdir _ _ (fewer_removeIfPresent name dir _ _ hread)) 0
    fun _ _ => id

/-- A read finds a value that is carried, or it finds none and none is carried afterwards. -/
theorem get_outcome (now : Int) (key : String) (store : FileStore) :
    (∃ value, (store.get now key).1 = .ok (some value) ∧ store.Carries key value) ∨
      (∀ value, (store.get now key).1 ≠ .ok (some value)) ∧
        ∀ value, ¬ (store.get now key).2.Carries key value := by
  rw [get]
  cases hread : store.directory.read (fileName key) with
  | error error =>
      right
      constructor
      · intro value
        cases error <;> simp
      · rintro value ⟨content, entry, hfile, -, -⟩
        cases error <;> exact absurd (hread.symm.trans hfile) (by simp)
  | ok content =>
      dsimp only
      cases hentry : (Json.parse? content).bind StoredEntry.ofJson? with
      | none =>
          refine .inr ⟨fun value => by simp, ?_⟩
          rintro value ⟨content', entry, hfile, hparsed, -⟩
          obtain rfl := Except.ok.inj (hread.symm.trans hfile)
          exact absurd (hentry.symm.trans hparsed) (by simp)
      | some entry =>
          dsimp only
          split
          · -- The file is there, so it can be removed.
            obtain ⟨hname, hfile⟩ := read_eq_ok_iff.mp hread
            have hremove : removeIfPresent (fileName key) store.directory =
                (.ok true, SortedMap.erase (fileName key) store.directory) := by
              rw [removeIfPresent, Directory.remove, hname, hfile]
            rw [hremove]
            refine .inr ⟨fun value => by simp [Except.map], ?_⟩
            rintro value ⟨content', entry', hgone, -, -⟩
            rw [read_eq_ok_iff, SortedMap.find?_erase_self] at hgone
            exact absurd hgone.2 (by simp)
          · exact .inl ⟨entry.value, rfl, content, entry, hread, hentry, rfl⟩

/-- A write puts no value in any file but the one that is written. -/
theorem carries_of_set (hwritten : other = key → written.IsExact ∧
      written.depth + 1 < Json.depthLimit ∧ int64Min ≤ now)
    (h : (store.set now other written lifetime).2.Carries key value) :
    store.Carries key value ∨ other = key ∧ value = written := by
  rw [set] at h
  generalize hlifetime : (if lifetime = 0 then store.defaultLifetime else lifetime) = lasting at h
  split at h
  · next directory hreplace =>
      obtain ⟨content, entry, hread, hentry, rfl⟩ := h
      by_cases hother : other = key
      · subst hother
        obtain ⟨hexact, hdeep, hlow⟩ := hwritten rfl
        obtain rfl := Except.ok.inj ((Directory.read_of_replace hreplace).symm.trans hread)
        have hexpiry : int64Min ≤ expiry now lasting ∧ expiry now lasting ≤ int64Max := by
          simp only [expiry, int64Min, int64Max] at *
          omega
        have hparsed := @ofJson?_parse? ⟨other, expiry now lasting, written⟩ hexact hdeep hexpiry.1
          hexpiry.2
        obtain rfl := Option.some.inj (hparsed.symm.trans hentry)
        exact .inr ⟨rfl, rfl⟩
      · have hne : fileName other ≠ fileName key := fun hsame => hother (fileName_inj.mp hsame)
        have hread : store.directory.read (fileName key) = .ok content :=
          (Directory.read_of_replace_of_ne hne hreplace).symm.trans hread
        exact .inl ⟨content, entry, hread, hentry, rfl⟩
  · exact .inl h
  · exact .inl h

end FileStore

/-! ## Any place -/

/-- Whether a place has a value under a key. -/
def Store.Carries (key : String) (value : Json) : Store → Prop
  | .memory store => ∃ deadline, (key, ⟨value, deadline⟩) ∈ store.entries
  | .file store => store.Carries key value
  | .broken => False

namespace Store

variable {now : Int} {key other : String} {value written : Json} {lifetime : Nat} {store : Store}

/-- A read finds a value that is carried, or it finds none and none is carried afterwards. -/
theorem get_outcome (now : Int) (key : String) (store : Store) :
    (∃ value, ((backend now).get key store).1 = .ok (some value) ∧ store.Carries key value) ∨
      (∀ value, ((backend now).get key store).1 ≠ .ok (some value)) ∧
        ∀ value, ¬ ((backend now).get key store).2.Carries key value := by
  cases store with
  | memory store =>
      rcases MemoryStore.get_outcome now key store with ⟨value, hget, hcarried⟩ | ⟨hget, hgone⟩
      · exact .inl ⟨value, congrArg Except.ok hget, hcarried⟩
      · refine .inr ⟨fun value hsome => ?_, hgone⟩
        exact Option.some_ne_none value ((Except.ok.inj hsome).symm.trans hget)
  | file store => exact FileStore.get_outcome now key store
  | broken => exact .inr ⟨fun value => nofun, fun value => id⟩

theorem carries_of_get (h : ((backend now).get other store).2.Carries key value) :
    store.Carries key value := by
  cases store with
  | memory store =>
      obtain ⟨deadline, hentry⟩ := h
      exact ⟨deadline, MemoryStore.get_subset now other store hentry⟩
  | file store => exact FileStore.Carries.of_fewer h (FileStore.fewer_get now other store)
  | broken => exact h

theorem carries_of_erase (h : ((backend now).erase other store).2.Carries key value) :
    store.Carries key value := by
  cases store with
  | memory store =>
      obtain ⟨deadline, hentry⟩ := h
      exact ⟨deadline, MemoryStore.without_subset other store.entries hentry⟩
  | file store => exact FileStore.Carries.of_fewer h (FileStore.fewer_removeIfPresent _ _)
  | broken => exact h

theorem carries_of_flush {start : String} (h : ((backend now).flush start store).2.Carries key value) :
    store.Carries key value := by
  cases store with
  | memory store =>
      obtain ⟨deadline, hentry⟩ := h
      exact ⟨deadline, List.filter_sublist.subset hentry⟩
  | file store => exact FileStore.Carries.of_fewer h (FileStore.fewer_flush start store)
  | broken => exact h

/-- A write puts no value under any key but the one that is written. -/
theorem carries_of_set (hwritten : other = key → written.IsExact ∧
      written.depth + 1 < Json.depthLimit ∧ int64Min ≤ now)
    (h : ((backend now).set other written lifetime store).2.Carries key value) :
    store.Carries key value ∨ other = key ∧ value = written := by
  cases store with
  | memory store =>
      cases hset : store.set? now other written lifetime with
      | none =>
          have hrun : ((backend now).set other written lifetime (memory store)).2 = memory store := by
            simp [backend, run, MemoryStore.backend, hset]
          rw [hrun] at h
          exact .inl h
      | some store' =>
          have hrun : ((backend now).set other written lifetime (memory store)).2 =
              memory store' := by
            simp [backend, run, MemoryStore.backend, hset]
          rw [hrun] at h
          obtain ⟨deadline, hentry⟩ := h
          obtain ⟨until_, hsubset⟩ := MemoryStore.set?_subset hset
          rcases List.mem_cons.mp (hsubset hentry) with hnew | hold
          · obtain ⟨hkey, hvalue⟩ := Prod.mk.inj hnew
            exact .inr ⟨hkey.symm, congrArg MemoryEntry.value hvalue⟩
          · exact .inl ⟨deadline, hold⟩
  | file store => exact FileStore.carries_of_set hwritten h
  | broken => exact .inl h

end Store

/-! ## The cache -/

section

variable {α : Type} {start stored key group : String} {now : Int} {value : Json} {s : CacheState Store}

theorem carries_of_get (decode : Json → Option α)
    (h : ((siteCache start now).get decode key group s).2.store.Carries stored value) :
    s.store.Carries stored value := by
  obtain ⟨counters, hget⟩ := (siteCache start now).get_eq decode key group s
  rw [hget] at h
  exact Store.carries_of_get h

/-- A value that is written under another key is nothing to the key. -/
theorem carries_of_set_other {written : Option Json} {lifetime : Nat}
    (hother : written ≠ none → storedKey start group key ≠ stored)
    (h : ((siteCache start now).set key written lifetime group s).2.store.Carries stored value) :
    s.store.Carries stored value := by
  cases written with
  | none =>
      obtain ⟨counters, hset⟩ := (siteCache start now).set_none_eq key lifetime group s
      rwa [hset] at h
  | some v =>
      have hne := hother (by simp)
      obtain ⟨counters, hset⟩ := (siteCache start now).set_some_eq key v lifetime group s
      rw [hset] at h
      rcases Store.carries_of_set (fun heq => absurd heq hne) h with hbefore | ⟨heq, -⟩
      · exact hbefore
      · exact absurd heq hne

/-- An operation that writes nothing under a key leaves at most what was there. -/
theorem carries_of_run (call : Call α)
    (hspares : ∀ entry ∈ call.writes?, storedKey start entry.2 entry.1 ≠ stored)
    (h : (call.run (siteCache start now) s).2.store.Carries stored value) :
    s.store.Carries stored value := by
  cases call with
  | get decode key group => exact carries_of_get decode h
  | set key written lifetime group =>
      refine carries_of_set_other (fun hsome => ?_) h
      obtain ⟨v, rfl⟩ := Option.ne_none_iff_exists'.mp hsome
      exact hspares (key, group) rfl
  | erase key group =>
      obtain ⟨counters, herase⟩ := (siteCache start now).erase_eq key group s
      change ((siteCache start now).erase key group s).2.store.Carries stored value at h
      rw [herase] at h
      exact Store.carries_of_erase h
  | flush group =>
      obtain ⟨counters, hflush⟩ := (siteCache start now).flush_eq group s
      change ((siteCache start now).flush group s).2.store.Carries stored value at h
      rw [hflush] at h
      exact Store.carries_of_flush h
  | remember decode encode key lifetime group fresh =>
      change ((siteCache start now).remember decode encode key lifetime group
        (pure fresh : CacheM Store α) s).2.store.Carries stored value at h
      rw [Cache.remember_pure_eq] at h
      cases hget : (siteCache start now).get decode key group s with
      | mk found t =>
          have hread (ht : t.store.Carries stored value) : s.store.Carries stored value :=
            carries_of_get decode (by rwa [hget])
          rw [hget] at h
          cases found with
          | some hit => exact hread h
          | none => exact hread (carries_of_set_other (fun _ => hspares (key, group) rfl) h)

end

end DynamicContent.Cache
