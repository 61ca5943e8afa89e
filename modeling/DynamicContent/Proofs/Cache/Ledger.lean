/-
# What the places hold

A memory and a directory keep entries in ways of their own: one in the order of use and with a
deadline, the other as files with a JSON document each. What both hold is told by a ledger: the value
that was written last under each key, with the moment and the lifetime it was written for. A place
holds a ledger if it has an entry for every line of it, as that place keeps it, and no other.

Each operation changes the ledger that a place holds in the way one expects, and what a place answers
follows from the ledger. Nothing is said here of the order of use or of foreign files, so memories
that forget and directories that others write to hold no ledger.
-/

import DynamicContent.Cache.Backend
import DynamicContent.Proofs.Cache.ReadBack
import DynamicContent.Proofs.Data.SortedMap
import DynamicContent.Proofs.Text.Cutting

namespace DynamicContent.Cache

open Number (int64Min int64Max)

/-- What was written under a key: the value, when, and for how long. -/
structure Deposit where
  value : Json
  time : Int
  lifetime : Nat

/-- The deposits by stored key. -/
abbrev Ledger := SortedMap Deposit

namespace Deposit

/-- A deposit as memory keeps it: without a lifetime it stays. -/
def memoryEntry (d : Deposit) : MemoryEntry :=
  ⟨d.value, if d.lifetime = 0 then none else some (d.time + d.lifetime)⟩

/-- A deposit as a file keeps it, where each has a lifetime. -/
def document (defaultLifetime : Nat) (key : String) (d : Deposit) : StoredEntry :=
  ⟨key, FileStore.expiry d.time (if d.lifetime = 0 then defaultLifetime else d.lifetime), d.value⟩

end Deposit

/-- The lines of a ledger whose keys do not begin with a text. -/
def Ledger.flush (start : String) (ledger : Ledger) : Ledger :=
  ledger.filter fun line => !Text.startsWith line.1 start

theorem Ledger.find?_flush (start key : String) (ledger : Ledger) :
    SortedMap.find? key (ledger.flush start) =
      if Text.startsWith key start = true then none else ledger.find? key := by
  rw [Ledger.flush, SortedMap.find?_filter fun k => !Text.startsWith k start]
  cases Text.startsWith key start <;> rfl

/-! ## Memory -/

namespace MemoryStore

theorem entry?_eq_find? (store : MemoryStore) (key : String) :
    entry? store key = SortedMap.find? key store.entries := by
  rw [ entry?]
  induction store.entries with
  | nil => rfl
  | cons entry rest ih =>
      rw [List.find?_cons, SortedMap.find?, ← ih]
      cases hkey : entry.1 == key with
      | true => rw [if_pos (beq_iff_eq.mp hkey)]; rfl
      | false => rw [if_neg (beq_eq_false_iff_ne.mp hkey)]

theorem find?_without (key other : String) (entries : List (String × MemoryEntry)) :
    SortedMap.find? other (without key entries) =
      if other = key then none else SortedMap.find? other entries :=
  SortedMap.find?_erase key other entries

/-- To put an entry in front is to set it. -/
theorem find?_cons_without (key other : String) (entry : MemoryEntry)
    (entries : List (String × MemoryEntry)) :
    SortedMap.find? other ((key, entry) :: without key entries) =
      if other = key then some entry else SortedMap.find? other entries := by
  rw [SortedMap.find?, find?_without]
  by_cases hkey : other = key
  · rw [if_pos hkey.symm, if_pos hkey]
  · rw [if_neg (Ne.symm hkey), if_neg hkey, if_neg hkey]

theorem nodup_keys_filter {entries : List (String × MemoryEntry)}
    (h : (SortedMap.keys entries).Nodup) (chosen : String × MemoryEntry → Bool) :
    (SortedMap.keys (entries.filter chosen)).Nodup :=
  (List.filter_sublist.map _).nodup h

theorem nodup_keys_cons_without {entries : List (String × MemoryEntry)}
    (h : (SortedMap.keys entries).Nodup) (key : String) (entry : MemoryEntry) :
    (SortedMap.keys ((key, entry) :: without key entries)).Nodup := by
  apply List.nodup_cons.mpr
  refine ⟨?_, nodup_keys_filter h _⟩
  intro hmem
  have hfound := SortedMap.mem_keys_iff.mp hmem
  rw [find?_without, if_pos rfl] at hfound
  contradiction

theorem eq_of_deadline? {now : Int} {lifetime : Nat} {deadline : Option Int}
    (h : deadline? now lifetime = some deadline) :
    deadline = if lifetime = 0 then none else some (now + lifetime) := by
  rw [deadline?] at h
  by_cases hzero : lifetime = 0
  · rw [if_pos hzero] at h ⊢
    exact (Option.some.inj h).symm
  · rw [if_neg hzero] at h ⊢
    split at h
    · exact (Option.some.inj h).symm
    · contradiction

/-- A memory holds a ledger: no key twice, and what it finds is what the ledger tells. -/
structure Holds (ledger : Ledger) (store : MemoryStore) : Prop where
  sorted : SortedMap.Sorted ledger
  distinct : (SortedMap.keys store.entries).Nodup
  entry : ∀ key, SortedMap.find? key store.entries =
    (SortedMap.find? key ledger).map Deposit.memoryEntry

namespace Holds

variable {ledger : Ledger} {store store' : MemoryStore} {now : Int} {key start : String}
  {value : Json} {lifetime : Nat}

theorem nodup_cons_without (h : store.Holds ledger) (key : String) (entry : MemoryEntry) :
    (SortedMap.keys ((key, entry) :: without key store.entries)).Nodup :=
  nodup_keys_cons_without h.distinct key entry

/-- What a memory answers: the value of the deposit, unless it is no longer valid. -/
theorem get_fst (h : store.Holds ledger) :
    (store.get now key).1 = (SortedMap.find? key ledger).bind fun d =>
      if isExpired now d.memoryEntry then none else some d.value := by
  rw [MemoryStore.get, entry?_eq_find?, h.entry]
  cases SortedMap.find? key ledger with
  | none => rfl
  | some d =>
      simp only [Option.map_some, Option.bind_some]
      split <;> rfl

theorem get_of_none (h : store.Holds ledger) (hline : SortedMap.find? key ledger = none) :
    store.get now key = (none, store) := by
  rw [MemoryStore.get, entry?_eq_find?, h.entry, hline]
  rfl

theorem get_snd (h : store.Holds ledger)
    (hvalid : ∀ d, SortedMap.find? key ledger = some d → isExpired now d.memoryEntry = false) :
    (store.get now key).2.Holds ledger := by
  rw [MemoryStore.get, entry?_eq_find?, h.entry]
  cases hline : SortedMap.find? key ledger with
  | none => exact h
  | some d =>
      rw [Option.map_some]
      simp only [hvalid d hline, Bool.false_eq_true, if_false]
      refine ⟨h.sorted, h.nodup_cons_without key _, fun other => ?_⟩
      rw [find?_cons_without, h.entry]
      by_cases hkey : other = key
      · rw [if_pos hkey, hkey, hline, Option.map_some]
      · rw [if_neg hkey]

/-- A deposit is written, and nothing is forgotten for it if there is room for all lines. -/
theorem set (h : store.Holds ledger) (hset : store.set? now key value lifetime = some store')
    (hroom : (SortedMap.insert key ⟨value, now, lifetime⟩ ledger).length ≤ store.capacity) :
    store'.Holds (SortedMap.insert key ⟨value, now, lifetime⟩ ledger) ∧
      store'.capacity = store.capacity := by
  obtain ⟨deadline, hdeadline, rfl⟩ := Option.map_eq_some_iff.mp hset
  have hentry : (⟨value, deadline⟩ : MemoryEntry) =
      Deposit.memoryEntry ⟨value, now, lifetime⟩ := by
    rw [eq_of_deadline? hdeadline]
    rfl
  rw [hentry]
  generalize hd : (⟨value, now, lifetime⟩ : Deposit) = d at hroom ⊢
  have hsorted := h.sorted.insert key d
  have hdistinct := h.nodup_cons_without key d.memoryEntry
  have hfind (other : String) :
      SortedMap.find? other ((key, d.memoryEntry) :: without key store.entries) =
        (SortedMap.find? other (SortedMap.insert key d ledger)).map Deposit.memoryEntry := by
    rw [find?_cons_without, SortedMap.find?_insert, h.entry]
    by_cases hkey : other = key
    · rw [if_pos hkey, if_pos hkey, Option.map_some]
    · rw [if_neg hkey, if_neg hkey]
  have hlength : ((key, d.memoryEntry) :: without key store.entries).length =
      (SortedMap.insert key d ledger).length := by
    refine SortedMap.length_eq_of_isSome_eq hdistinct hsorted.nodup_keys fun other => ?_
    rw [hfind, Option.isSome_map]
  rw [List.take_of_length_le (by rw [hlength]; exact hroom)]
  exact ⟨⟨hsorted, hdistinct, hfind⟩, rfl⟩

theorem erase (h : store.Holds ledger) :
    (store.erase key).1 = (SortedMap.find? key ledger).isSome ∧
      (store.erase key).2.Holds (SortedMap.erase key ledger) := by
  refine ⟨?_, h.sorted.filter _, nodup_keys_filter h.distinct _, fun other => ?_⟩
  · rw [MemoryStore.erase, entry?_eq_find?, h.entry, Option.isSome_map]
  · rw [MemoryStore.erase, find?_without, SortedMap.find?_erase, h.entry]
    by_cases hkey : other = key
    · rw [if_pos hkey, if_pos hkey, Option.map_none]
    · rw [if_neg hkey, if_neg hkey]

theorem flush (h : store.Holds ledger) : (store.flush start).2.Holds (ledger.flush start) := by
  refine ⟨h.sorted.filter _, nodup_keys_filter h.distinct _, fun other => ?_⟩
  rw [MemoryStore.flush, Ledger.find?_flush]
  dsimp only
  rw [SortedMap.find?_filter fun k => !Text.startsWith k start, h.entry]
  cases Text.startsWith other start <;> rfl

end Holds

end MemoryStore

/-! ## Files -/

namespace FileStore

theorem toList_fileName (key : String) : (fileName key).toList = key.toList ++ extension.toList := by
  rw [fileName, String.toList_append]

theorem endsWith_extension_iff {name : String} :
    Text.endsWith name extension = true ↔ ∃ key, name = fileName key :=
  Text.endsWith_iff

theorem take_fileName (key : String) :
    String.ofList ((fileName key).toList.take ((fileName key).length - extension.length)) = key := by
  have hlength : (fileName key).length - extension.length = key.toList.length := by
    rw [fileName, String.length_append, Nat.add_sub_cancel, String.length_toList]
  rw [hlength, toList_fileName, List.take_left, String.ofList_toList]

theorem fileName_inj {key other : String} : fileName other = fileName key ↔ other = key :=
  String.append_left_inj extension

/-- The name of a file tells the key, unless that is empty. -/
theorem keyOfName?_eq_some_iff {name key : String} :
    keyOfName? name = some key ↔ key ≠ "" ∧ name = fileName key := by
  rw [keyOfName?]
  by_cases hends : Text.endsWith name extension = true
  · obtain ⟨found, rfl⟩ := endsWith_extension_iff.mp hends
    rw [if_pos hends]
    dsimp only
    rw [take_fileName, fileName_inj]
    by_cases hempty : found = ""
    · rw [if_pos (by rw [hempty]; rfl)]
      constructor
      · intro hnone
        contradiction
      · rintro ⟨hkey, heq⟩
        exact absurd (heq.symm.trans hempty) hkey
    · rw [if_neg (by rwa [String.isEmpty_iff]), Option.some.injEq]
      constructor
      · rintro rfl
        exact ⟨hempty, rfl⟩
      · rintro ⟨-, heq⟩
        exact heq
  · rw [if_neg hends]
    simp only [reduceCtorEq, false_iff, not_and]
    rintro - rfl
    exact hends (endsWith_extension_iff.mpr ⟨key, rfl⟩)

/-- A file with another name is that of another key. -/
theorem bind_keyOfName?_congr {β : Type} {name key : String} {f g : String → Option β}
    (hname : name ≠ fileName key) (h : ∀ other, other ≠ key → f other = g other) :
    (keyOfName? name).bind f = (keyOfName? name).bind g := by
  cases hother : keyOfName? name with
  | none => rfl
  | some other =>
      apply h
      rintro rfl
      exact hname (keyOfName?_eq_some_iff.mp hother).2

/-- A directory holds a ledger: under the name of each line there is its document, which may have
such a name, and there is nothing else that an entry could be. -/
structure Holds (ledger : Ledger) (store : FileStore) : Prop where
  entry : ∀ name, store.directory.find? name = (keyOfName? name).bind fun key =>
    (SortedMap.find? key ledger).map fun d =>
      .file (d.document store.defaultLifetime key).toJson.print
  named : ∀ key d, SortedMap.find? key ledger = some d → Directory.nameError? (fileName key) = none

namespace Holds

variable {ledger : Ledger} {store store' : FileStore} {now : Int} {key start : String}
  {value : Json} {lifetime : Nat}

/-- Under the name of a key there is the document of its line. -/
theorem file (h : store.Holds ledger) (hkey : key ≠ "") :
    store.directory.find? (fileName key) = (SortedMap.find? key ledger).map fun d =>
      .file (d.document store.defaultLifetime key).toJson.print := by
  rw [h.entry, keyOfName?_eq_some_iff.mpr ⟨hkey, rfl⟩, Option.bind_some]

theorem ne_folder (h : store.Holds ledger) (name : String) :
    store.directory.find? name ≠ some .folder := by
  rw [h.entry]
  intro hfolder
  obtain ⟨key, -, hkey⟩ := Option.bind_eq_some_iff.mp hfolder
  obtain ⟨d, -, hd⟩ := Option.map_eq_some_iff.mp hkey
  contradiction

/-- Only files that have a valid name are there. -/
theorem nameError?_eq_none (h : store.Holds ledger) {name : String} {entry : DirectoryEntry}
    (hentry : store.directory.find? name = some entry) : Directory.nameError? name = none := by
  rw [h.entry] at hentry
  obtain ⟨key, hname, hkey⟩ := Option.bind_eq_some_iff.mp hentry
  obtain ⟨d, hd, -⟩ := Option.map_eq_some_iff.mp hkey
  rw [(keyOfName?_eq_some_iff.mp hname).2]
  exact h.named key d hd

/-- A deposit is written if the file may have its name. -/
theorem set_of_named (h : store.Holds ledger)
    (hname : Directory.nameError? (fileName key) = none) (now : Int) (value : Json)
    (lifetime : Nat) :
    store.set now key value lifetime = (.ok (), { store with
      directory := SortedMap.insert (fileName key)
        (.file (Deposit.document store.defaultLifetime key ⟨value, now, lifetime⟩).toJson.print)
        store.directory }) := by
  rw [FileStore.set, Directory.replace, hname]
  cases hfile : store.directory.find? (fileName key) with
  | none => rfl
  | some entry =>
      cases entry with
      | file content => rfl
      | folder => exact absurd hfile (h.ne_folder _)

theorem set_fst_ne_ok {error : StepError} (hname : Directory.nameError? (fileName key) = some error) :
    (store.set now key value lifetime).1 ≠ .ok () := by
  rw [FileStore.set, Directory.replace, hname]
  cases error <;> exact fun hok => by contradiction

/-- What is written is in the ledger from then on. -/
theorem set (h : store.Holds ledger) (hkey : key ≠ "")
    (hname : Directory.nameError? (fileName key) = none) :
    (store.set now key value lifetime).2.Holds
        (SortedMap.insert key ⟨value, now, lifetime⟩ ledger) ∧
      (store.set now key value lifetime).2.defaultLifetime = store.defaultLifetime := by
  rw [h.set_of_named hname]
  refine ⟨⟨fun name => ?_, fun other d hd => ?_⟩, rfl⟩
  · dsimp only
    rw [SortedMap.find?_insert, h.entry]
    by_cases hsame : name = fileName key
    · rw [if_pos hsame, keyOfName?_eq_some_iff.mpr ⟨hkey, hsame⟩, Option.bind_some,
        SortedMap.find?_insert_self, Option.map_some]
    · rw [if_neg hsame]
      refine bind_keyOfName?_congr hsame fun other hne => ?_
      rw [SortedMap.find?_insert_of_ne hne]
  · rw [SortedMap.find?_insert] at hd
    split at hd
    · next hsame => rw [hsame, hname]
    · exact h.named other d hd

/-- What is asked for is read from its document. -/
theorem get (h : store.Holds ledger) (hkey : key ≠ "") :
    store.get now key =
      match SortedMap.find? key ledger with
      | none =>
        match Directory.nameError? (fileName key) with
        | some (.other cause) => (.error (.io cause), store)
        | _ => (.ok none, store)
      | some d =>
        match (Json.parse? (d.document store.defaultLifetime key).toJson.print).bind
            StoredEntry.ofJson? with
        | none => (.error (.payload "invalid entry"), store)
        | some entry =>
          if entry.expiresAt ≤ now then
            (.ok none, { store with directory := store.directory.erase (fileName key) })
          else (.ok (some entry.value), store) := by
  rw [FileStore.get, Directory.read]
  cases hline : SortedMap.find? key ledger with
  | none =>
      dsimp only
      cases hname : Directory.nameError? (fileName key) with
      | none =>
          dsimp only
          rw [h.file hkey, hline, Option.map_none]
      | some error => cases error <;> rfl
  | some d =>
      have hname := h.named key d hline
      have hfile := h.file hkey
      rw [hline, Option.map_some] at hfile
      rw [hname]
      dsimp only
      rw [hfile]
      dsimp only
      cases (Json.parse? (d.document store.defaultLifetime key).toJson.print).bind
        StoredEntry.ofJson? with
      | none => rfl
      | some entry =>
          dsimp only
          rw [removeIfPresent, Directory.remove, hname]
          dsimp only
          rw [hfile]
          rfl

/-- What is valid and comes back exactly from its text is read. -/
theorem get_of_valid (h : store.Holds ledger) (hkey : key ≠ "") {d : Deposit}
    (hline : SortedMap.find? key ledger = some d) (hlow : int64Min ≤ d.time)
    (hvalue : d.value.IsExact) (hdeep : d.value.depth + 1 < Json.depthLimit)
    (hvalid : now < (d.document store.defaultLifetime key).expiresAt) :
    store.get now key = (.ok (some d.value), store) := by
  have hexpiry : int64Min ≤ (d.document store.defaultLifetime key).expiresAt ∧
      (d.document store.defaultLifetime key).expiresAt ≤ int64Max := by
    simp only [Deposit.document, expiry, int64Min, int64Max] at *
    omega
  have hread := @ofJson?_parse? (d.document store.defaultLifetime key) hvalue hdeep hexpiry.1
    hexpiry.2
  rw [h.get hkey, hline]
  dsimp only
  rw [hread]
  exact if_neg (Int.not_le.mpr hvalid)

/-- What is removed is a file, if there is one; nothing stands in the way. -/
theorem removeIfPresent_eq {directory : Directory} {name : String}
    (hname : Directory.nameError? name = none) (hfolder : directory.find? name ≠ some .folder) :
    removeIfPresent name directory =
      (.ok (directory.find? name).isSome, directory.erase name) := by
  rw [removeIfPresent, Directory.remove, hname]
  cases hentry : directory.find? name with
  | none => rw [SortedMap.erase_of_find?_eq_none hentry]; rfl
  | some entry =>
      cases entry with
      | file content => rfl
      | folder => exact absurd hentry hfolder

theorem erase (h : store.Holds ledger) (hkey : key ≠ "")
    (hname : Directory.nameError? (fileName key) = none) :
    (store.erase key).1 = .ok (SortedMap.find? key ledger).isSome ∧
      (store.erase key).2.Holds (SortedMap.erase key ledger) ∧
      (store.erase key).2.defaultLifetime = store.defaultLifetime := by
  rw [FileStore.erase, removeIfPresent_eq hname (h.ne_folder _)]
  refine ⟨?_, ⟨fun name => ?_, fun other d hd => ?_⟩, rfl⟩
  · rw [h.file hkey, Option.isSome_map]
  · dsimp only
    rw [SortedMap.find?_erase, h.entry]
    by_cases hsame : name = fileName key
    · rw [if_pos hsame, keyOfName?_eq_some_iff.mpr ⟨hkey, hsame⟩, Option.bind_some,
        SortedMap.find?_erase_self, Option.map_none]
    · rw [if_neg hsame]
      refine bind_keyOfName?_congr hsame fun other hne => ?_
      rw [SortedMap.find?_erase, if_neg hne]
  · rw [SortedMap.find?_erase] at hd
    split at hd
    · contradiction
    · exact h.named other d hd

/-- Names that files may have are all removed, if none is the name of a directory. -/
theorem removeAll_eq (names : List String) (removed : Nat) {directory : Directory}
    (hnames : ∀ name ∈ names, Directory.nameError? name = none)
    (hfolder : ∀ name, directory.find? name ≠ some .folder) :
    ∃ count, removeAll removed names directory =
      (.ok count, directory.filter fun entry => !names.contains entry.1) := by
  induction names generalizing removed directory with
  | nil =>
      refine ⟨removed, Prod.ext rfl ?_⟩
      exact (List.filter_eq_self.mpr fun _ _ => rfl).symm
  | cons name names ih =>
      obtain ⟨hname, hrest⟩ := List.forall_mem_cons.mp hnames
      have hfolder' : ∀ other, (directory.erase name).find? other ≠ some .folder := by
        intro other
        rw [SortedMap.find?_erase]
        split
        · intro hnone
          contradiction
        · exact hfolder other
      have hfilter : (directory.erase name).filter (fun entry => !names.contains entry.1) =
          directory.filter fun entry => !(name :: names).contains entry.1 := by
        rw [SortedMap.erase, List.filter_filter]
        refine List.filter_congr fun entry _ => ?_
        simp only [List.contains_cons, Bool.not_or, bne]
        exact Bool.and_comm _ _
      rw [removeAll, removeIfPresent_eq hname (hfolder name), ← hfilter]
      cases (directory.find? name).isSome with
      | true => exact ih (removed + 1) hrest hfolder'
      | false => exact ih removed hrest hfolder'

/-- Of what is held, exactly the lines whose keys begin like the text are removed. -/
theorem flush (h : store.Holds ledger) (start : String) :
    (∃ count, (store.flush start).1 = .ok count) ∧
      (store.flush start).2.Holds (ledger.flush start) ∧
      (store.flush start).2.defaultLifetime = store.defaultLifetime := by
  have hnames : ∀ name ∈ store.directory.names.filter (fun name =>
      (keyOfName? name).any fun key => Text.startsWith key start),
      Directory.nameError? name = none := by
    intro name hmem
    obtain ⟨entry, hentry⟩ := Option.isSome_iff_exists.mp
      (SortedMap.mem_keys_iff.mp (List.mem_filter.mp hmem).1)
    exact h.nameError?_eq_none hentry
  obtain ⟨count, hremoved⟩ := removeAll_eq _ 0 hnames h.ne_folder
  rw [FileStore.flush, hremoved]
  refine ⟨⟨count, rfl⟩, ⟨fun name => ?_, fun key d hd => ?_⟩, rfl⟩
  · dsimp only
    rw [SortedMap.find?_filter fun other => !List.contains _ other]
    cases hkey : keyOfName? name with
    | none =>
        rw [h.entry, hkey]
        exact ite_self _
    | some key =>
        rw [Option.bind_some, Ledger.find?_flush]
        have hentry := h.entry name
        rw [hkey, Option.bind_some] at hentry
        by_cases hstart : Text.startsWith key start = true
        · rw [if_pos hstart, Option.map_none]
          by_cases hmem : name ∈ store.directory.names
          · rw [if_neg]
            simp [hmem, hkey, hstart]
          · have hnone := Option.not_isSome_iff_eq_none.mp
              (mt SortedMap.mem_keys_iff.mpr hmem)
            rw [hnone]
            exact ite_self _
        · rw [if_neg hstart, ← hentry, if_pos]
          simp [hkey, hstart]
  · rw [Ledger.find?_flush] at hd
    split at hd
    · contradiction
    · exact h.named key d hd

end Holds

end FileStore

end DynamicContent.Cache
