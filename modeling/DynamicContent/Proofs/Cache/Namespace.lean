/-
# A site keeps to its own files

The files of a site begin like its stored keys and end like all documents. Whatever texts a group and a
key are, the stored key is not empty and has only letters, digits, `_` and `-` in it. So no path out of the
directory can be spelled, and the file of an entry lies in the directory itself.

All that an operation of the cache asks of its backend is about such keys, or about all keys that begin
like them. So what the backend leaves alone for those, a whole session of operations leaves alone. Over
files these are all files but those of the site, and this is so however the calls to the file system fare:
what is left of a write that fails is nothing, not even the temporary file.
-/

import DynamicContent.Proofs.Cache.Disk

namespace DynamicContent.Cache

/-- Whether a name is not that of a file of the site. -/
def isForeign (start name : String) : Bool :=
  !(isOfSite start name && Text.endsWith name FileStore.extension)

/-! ## Names -/

theorem isKeyChar_of_mem_storedKey {start group key : String} {c : Char}
    (h : c ∈ (storedKey start group key).toList) : Text.isKeyChar c = true := by
  rw [toList_storedKey, storedChars, groupChars, namespaceChars] at h
  simp only [List.mem_append, List.mem_singleton] at h
  rcases h with ((h | h) | rfl) | h
  · exact Text.isKeyChar_of_mem_toKeyChars h
  · obtain ⟨d, hd, rfl⟩ := List.mem_map.mp h
    by_cases hunderscore : d = '_'
    · rw [if_pos hunderscore]
      rfl
    · rw [if_neg hunderscore]
      exact Text.isKeyChar_of_mem_toKeyChars hd
  · rfl
  · exact Text.isKeyChar_of_mem_toKeyChars h

theorem slash_not_mem_fileName (start group key : String) :
    '/' ∉ (FileStore.fileName (storedKey start group key)).toList := by
  intro h
  rw [FileStore.toList_fileName] at h
  rcases List.mem_append.mp h with hkey | hextension
  · exact absurd (isKeyChar_of_mem_storedKey hkey) (by decide)
  · exact absurd hextension (by decide)

/-- A name that ends like a document is none of those that stand for a directory. -/
theorem fileName_ne_dots (key : String) :
    FileStore.fileName key ≠ "." ∧ FileStore.fileName key ≠ ".." := by
  have hends : Text.endsWith (FileStore.fileName key) FileStore.extension = true :=
    FileStore.endsWith_extension_iff.mpr ⟨key, rfl⟩
  constructor
  · intro hdot
    rw [hdot] at hends
    exact absurd hends (by decide)
  · intro hdots
    rw [hdots] at hends
    exact absurd hends (by decide)

/-- The file of a stored key of the site is one of the site. -/
theorem isForeign_fileName {start key : String} (h : isOfSite start key = true) :
    isForeign start (FileStore.fileName key) = false := by
  have hends : Text.endsWith (FileStore.fileName key) FileStore.extension = true :=
    FileStore.endsWith_extension_iff.mpr ⟨key, rfl⟩
  rw [isForeign, isOfSite_fileName h, hends]
  rfl

theorem isForeign_storedKey (start group key : String) :
    isForeign start (FileStore.fileName (storedKey start group key)) = false :=
  isForeign_fileName (isOfSite_storedKey start group key)

/-! ## Sessions -/

/-- What some operations of a cache lead to, each of them at some time. -/
inductive Session {σ : Type} (cache : Int → Cache σ) : CacheState σ → CacheState σ → Prop
  | start (s : CacheState σ) : Session cache s s
  | get {s t : CacheState σ} {α : Type} (now : Int) (decode : Json → Option α)
      (key group : String) (h : Session cache s t) :
      Session cache s ((cache now).get decode key group t).2
  | set {s t : CacheState σ} (now : Int) (key : String) (value : Option Json) (lifetime : Nat)
      (group : String) (h : Session cache s t) :
      Session cache s ((cache now).set key value lifetime group t).2
  | erase {s t : CacheState σ} (now : Int) (key group : String) (h : Session cache s t) :
      Session cache s ((cache now).erase key group t).2
  | flush {s t : CacheState σ} (now : Int) (group : Option String) (h : Session cache s t) :
      Session cache s ((cache now).flush group t).2

/-- Whether what a backend does for a site keeps a property of the place. -/
structure Keeps {σ : Type} (P : σ → Prop) (start : String) (backend : Backend σ) : Prop where
  get : ∀ {group key : String} {place : σ}, P place →
    P (backend.get (storedKey start group key) place).2
  set : ∀ {group key : String} {value : Json} {lifetime : Nat} {place : σ}, P place →
    P (backend.set (storedKey start group key) value lifetime place).2
  erase : ∀ {group key : String} {place : σ}, P place →
    P (backend.erase (storedKey start group key) place).2
  flush : ∀ {group : Option String} {place : σ}, P place →
    P (backend.flush (Cache.flushStart start group) place).2

namespace Session

variable {σ α τ : Type} {cache : Int → Cache σ} {s t : CacheState σ}

/-- To have a value remembered is to read, and to compute and write where nothing is found. -/
theorem remember (now : Int) (decode : Json → Option α) (encode : α → Option Json) (key : String)
    (lifetime : Nat) (group : String) (compute : StateT τ (CacheM σ) α) (own : τ)
    (h : Session cache s t)
    (hcompute : ∀ u, Session cache s u → Session cache s (compute own u).2) :
    Session cache s
      ((cache now).remember decode encode key lifetime group compute own t).2 := by
  have hget := h.get now decode key group
  rw [remember_apply]
  cases hfound : (cache now).get decode key group t with
  | mk found u =>
      rw [hfound] at hget
      cases found with
      | some hit => exact hget
      | none => exact (hcompute u hget).set now key _ lifetime group

/-- What a backend keeps for a site, a session on the cache of the site keeps. -/
theorem keeps {P : σ → Prop} (hkeeps : ∀ now, Keeps P (cache now).start (cache now).backend)
    (h : Session cache s t) (hs : P s.store) : P t.store := by
  induction h with
  | start => exact hs
  | get now decode key group _ ih =>
      obtain ⟨counters, hget⟩ := (cache now).get_eq_found? decode key group _
      rw [hget]
      exact (hkeeps now).get ih
  | set now key value lifetime group _ ih =>
      cases value with
      | none =>
          obtain ⟨counters, hset⟩ := (cache now).set_none_eq key lifetime group _
          rw [hset]
          exact ih
      | some v =>
          obtain ⟨counters, hset⟩ := (cache now).set_some_eq key v lifetime group _
          rw [hset]
          exact (hkeeps now).set ih
  | erase now key group _ ih =>
      obtain ⟨counters, herase⟩ := (cache now).erase_eq key group _
      rw [herase]
      exact (hkeeps now).erase ih
  | flush now group _ ih =>
      obtain ⟨counters, hflush⟩ := (cache now).flush_eq group _
      rw [hflush]
      exact (hkeeps now).flush ih

end Session

/-! ## What a cache leaves alone -/

/-- Whether a cache keeps to the files of a site. Whatever operations it carries out, at whatever times, all
other files are left alone, and a write that is said not to have taken place leaves every file as it
was. -/
structure IsConfined {σ : Type} (files? : σ → Option FileStore) (start : String)
    (cache : Int → Cache σ) : Prop where
  session : ∀ {s t : CacheState σ}, Session cache s t →
    (files? t.store).map (·.part (isForeign start)) =
      (files? s.store).map (·.part (isForeign start))
  failed : ∀ {now : Int} {key group : String} {value : Option Json} {lifetime : Nat}
    {s t : CacheState σ}, (cache now).set key value lifetime group s = (false, t) →
    files? t.store = files? s.store

/-- What is so where a backend refuses a value, is so where a cache says that a write did not take
place. -/
theorem Cache.set_false {σ : Type} (P : σ → Prop) {cache : Cache σ} {key group : String}
    {value : Option Json} {lifetime : Nat} {s t : CacheState σ} (hs : P s.store)
    (hbackend : ∀ {v : Json} {error : CacheError},
      (cache.backend.set (storedKey cache.start group key) v lifetime s.store).1 = .error error →
      P (cache.backend.set (storedKey cache.start group key) v lifetime s.store).2)
    (h : cache.set key value lifetime group s = (false, t)) : P t.store := by
  cases value with
  | none =>
      obtain ⟨counters, hset⟩ := cache.set_none_eq key lifetime group s
      obtain ⟨-, rfl⟩ := Prod.mk.inj (hset.symm.trans h)
      exact hs
  | some v =>
      obtain ⟨counters, hset⟩ := cache.set_some_eq key v lifetime group s
      obtain ⟨hanswer, rfl⟩ := Prod.mk.inj (hset.symm.trans h)
      cases hcall : (cache.backend.set (storedKey cache.start group key) v lifetime s.store).1 with
      | ok _ =>
          rw [hcall] at hanswer
          contradiction
      | error error => exact hbackend hcall

theorem isForeign_of_flushStart {start : String} {group : Option String} (key : String)
    (h : Text.startsWith key (Cache.flushStart start group) = true) :
    isForeign start (FileStore.fileName key) = false :=
  isForeign_fileName (isOfSite_of_flushStart h)

/-! ### On a disk -/

section

variable {fates : Nat → Fate} {start : String} {now : Int}

/-- The cache of a site on a disk. -/
def diskCache (fates : Nat → Fate) (start : String) (now : Int) : Cache Disk :=
  ⟨Disk.backend fates now, start⟩

theorem keeps_disk (hclears : ClearsUp fates) (start : String) (now : Int) (foreign : FileStore) :
    Keeps (fun disk => disk.files.part (isForeign start) = foreign) start
      (Disk.backend fates now) where
  get := by
    rintro group key disk rfl
    show (disk.get fates now (storedKey start group key)).2.files.part _ = _
    apply Disk.part_get
    exact isForeign_storedKey start group key
  set := by
    rintro group key value lifetime disk rfl
    show (disk.set fates now (storedKey start group key) value lifetime).2.files.part _ = _
    apply Disk.part_set hclears
    exact isForeign_storedKey start group key
  erase := by
    rintro group key disk rfl
    show (disk.erase fates (storedKey start group key)).2.files.part _ = _
    apply Disk.part_erase
    exact isForeign_storedKey start group key
  flush := by
    rintro group disk rfl
    show (disk.flush fates (Cache.flushStart start group)).2.files.part _ = _
    apply Disk.part_flush
    exact isForeign_of_flushStart

theorem Disk.set_of_error (hclears : ClearsUp fates) {key : String} {value : Json}
    {lifetime : Nat} {disk : Disk} {error : CacheError}
    (h : (disk.set fates now key value lifetime).1 = .error error) :
    (disk.set fates now key value lifetime).2.files = disk.files := by
  cases Disk.set_follows hclears now key value lifetime disk with
  | done answer files =>
      rw [files]
      exact FileStore.set_of_error (answer.symm.trans h)
  | failed _ _ files => exact files

theorem isConfined_disk (hclears : ClearsUp fates) (start : String) :
    IsConfined (fun disk : Disk => some disk.files) start (diskCache fates start) where
  session := by
    intro s t hsession
    have hkeeps (now : Int) := keeps_disk hclears start now (s.store.files.part (isForeign start))
    have hkept := hsession.keeps hkeeps
    exact congrArg some (hkept rfl)
  failed := by
    intro now key group value lifetime s t hset
    have hsame : t.store.files = s.store.files := by
      apply Cache.set_false (fun disk : Disk => disk.files = s.store.files) rfl ?_ hset
      intro v error hrefused
      exact Disk.set_of_error hclears hrefused
    exact congrArg some hsame

end

/-! ### Without a disk in between -/

section

variable {start : String} {now : Int}

/-- The files of a place, if it has files. -/
def Store.files? : Store → Option FileStore
  | file files => some files
  | _ => none

theorem keeps_run {α : Type} {inMemory : MemoryStore → Except CacheError α × MemoryStore}
    {inFiles : FileStore → Except CacheError α × FileStore} {theirs : String → Bool}
    (h : ∀ files, (inFiles files).2.part theirs = files.part theirs) {store : Store}
    {foreign? : Option FileStore} (hstore : store.files?.map (·.part theirs) = foreign?) :
    (Store.run inMemory inFiles store).2.files?.map (·.part theirs) = foreign? := by
  rw [← hstore]
  cases store with
  | memory store => rfl
  | file files => exact congrArg some (h files)
  | broken => rfl

theorem keeps_store (start : String) (now : Int) (foreign? : Option FileStore) :
    Keeps (fun store => store.files?.map (·.part (isForeign start)) = foreign?) start
      (Store.backend now) where
  get := by
    intro group key store hstore
    apply keeps_run ?_ hstore
    intro files
    apply FileStore.part_get
    exact isForeign_storedKey start group key
  set := by
    intro group key value lifetime store hstore
    apply keeps_run ?_ hstore
    intro files
    apply FileStore.part_set
    exact isForeign_storedKey start group key
  erase := by
    intro group key store hstore
    apply keeps_run ?_ hstore
    intro files
    apply FileStore.part_erase
    exact isForeign_storedKey start group key
  flush := by
    intro group store hstore
    apply keeps_run ?_ hstore
    intro files
    apply FileStore.part_flush
    exact isForeign_of_flushStart

theorem Store.files?_of_error {key : String} {value : Json} {lifetime : Nat} {store : Store}
    {error : CacheError} (h : ((Store.backend now).set key value lifetime store).1 = .error error) :
    ((Store.backend now).set key value lifetime store).2.files? = store.files? := by
  cases store with
  | memory store => rfl
  | file files => exact congrArg some (FileStore.set_of_error h)
  | broken => rfl

theorem isConfined_store (start : String) :
    IsConfined Store.files? start (siteCache start) where
  session := by
    intro s t hsession
    have hkeeps (now : Int) :=
      keeps_store start now (s.store.files?.map (·.part (isForeign start)))
    have hkept := hsession.keeps hkeeps
    exact hkept rfl
  failed := by
    intro now key group value lifetime s t hset
    apply Cache.set_false (fun store : Store => store.files? = s.store.files?) rfl ?_ hset
    intro v error hrefused
    exact Store.files?_of_error hrefused

end

/-- Whatever a site is called and whatever its groups and keys are, a stored key is not empty and has only
letters in lower case, digits, `_` and `-` in it, and the file of its entry lies in the directory itself.
The cache of the site keeps to the files of the site. So it does on a disk, however the calls to the file
system fare, if temporary files that are given up are removed. And the disk is no other place: where all
is calm, an operation on it is that of the store in files. -/
theorem stays_in_namespace (start : String) :
    (∀ group key : String, storedKey start group key ≠ "" ∧
      (∀ c ∈ (storedKey start group key).toList, Text.isKeyChar c = true) ∧
      '/' ∉ (FileStore.fileName (storedKey start group key)).toList ∧
      FileStore.fileName (storedKey start group key) ≠ "." ∧
      FileStore.fileName (storedKey start group key) ≠ "..") ∧
    IsConfined Store.files? start (siteCache start) ∧
    ∀ {fates : Nat → Fate}, ClearsUp fates →
      IsConfined (fun disk : Disk => some disk.files) start (diskCache fates start) ∧
      ∀ {disk : Disk} (now : Int) (op : FileStore.Operation),
        Disk.Calm fates disk.files.directory →
        (disk.perform fates now op).1 = (disk.files.perform now op).1 ∧
          (disk.perform fates now op).2.files = (disk.files.perform now op).2 := by
  refine ⟨?_, isConfined_store start, ?_⟩
  · intro group key
    have hchars : ∀ c ∈ (storedKey start group key).toList, Text.isKeyChar c = true := by
      intro c hc
      exact isKeyChar_of_mem_storedKey hc
    exact ⟨storedKey_ne_empty start group key, hchars, slash_not_mem_fileName start group key,
      fileName_ne_dots (storedKey start group key)⟩
  · intro fates hclears
    constructor
    · exact isConfined_disk hclears start
    · intro disk now op hcalm
      exact Disk.perform_of_calm hclears hcalm now op

/-- A directory with somebody's notes, and with a folder where an entry would be. -/
def cluttered : FileStore :=
  ⟨[("notes.txt", .file "tea"), ("weft_query_b.json", .folder)], 60⟩

/-- A disk that is full at the second call, after four characters. -/
def fullOnce (n : Nat) : Fate :=
  ⟨if n = 1 then some "No space left on device (os error 28)" else none, "x7Rk2Q", 4, id, false⟩

/-- A disk on which no call fails. -/
def quiet (_ : Nat) : Fate := ⟨none, "x7Rk2Q", 0, id, false⟩

/-- A write of a text, what it returns and what it leaves. -/
def writeTea (key : String) : CacheM Disk Bool :=
  (diskCache fullOnce "Weft_" 1700000000).set key (some (.string "tea")) 0 "Query"

/-- A write runs into the full disk, the next into the folder, and neither leaves a trace. The third takes
place, and the notes are still there. Where no call fails, a flush stops at the folder, as it does without
a disk in between. -/
theorem stays_in_namespace_cluttered :
    let s : CacheState Disk := ⟨⟨cluttered, 0⟩, [], []⟩
    let t := (writeTea "c" s).2
    let u := (writeTea "../B" t).2
    t.store.files = cluttered ∧ u.store.files = cluttered ∧
      (writeTea "a" u).2.store.files.part (isForeign "Weft_") =
        cluttered.part (isForeign "Weft_") ∧
      SortedMap.find? "notes.txt" (cluttered.part (isForeign "Weft_")).directory =
        some (.file "tea") ∧
      SortedMap.contains "weft_query_a.json" (writeTea "a" u).2.store.files.directory = true ∧
      ((⟨cluttered, 0⟩ : Disk).perform quiet 1700000000 (.flush "weft_")).1 =
        .flushed (.error (.io "Is a directory (os error 21)")) := by
  intro s t u
  obtain ⟨-, -, hdisk⟩ := stays_in_namespace "Weft_"
  have hclears : ClearsUp fullOnce := fun _ => rfl
  obtain ⟨hconfined, -⟩ := hdisk hclears
  have hfull : writeTea "c" s = (false, t) := Prod.ext (by decide +kernel) rfl
  have hfolder : writeTea "../B" t = (false, u) := Prod.ext (by decide +kernel) rfl
  have hfirst : t.store.files = cluttered := Option.some.inj (hconfined.failed hfull)
  have hsecond : u.store.files = cluttered :=
    (Option.some.inj (hconfined.failed hfolder)).trans hfirst
  have hsession : Session (diskCache fullOnce "Weft_") s (writeTea "a" u).2 :=
    (((Session.start s).set 1700000000 "c" _ 0 "Query").set 1700000000 "../B" _ 0 "Query").set
      1700000000 "a" _ 0 "Query"
  have hforeign := Option.some.inj (hconfined.session hsession)
  have hname : Directory.nameError? ".tmpx7Rk2Q" = none := by decide +kernel
  have hfree : SortedMap.find? ".tmpx7Rk2Q" cluttered.directory = none := by decide +kernel
  have hcalm : Disk.Calm quiet (⟨cluttered, 0⟩ : Disk).files.directory :=
    ⟨fun _ => rfl, fun _ _ => rfl, fun _ => hname, fun _ => hfree⟩
  have hquiet : ClearsUp quiet := fun _ => rfl
  obtain ⟨hflushed, -⟩ := (hdisk hquiet).2 1700000000 (.flush "weft_") hcalm
  exact ⟨hfirst, hsecond, hforeign, by decide +kernel, by decide +kernel, hflushed.trans rfl⟩

end DynamicContent.Cache
