/-
# The part of a site

Several sites may keep their entries in one memory or in one directory. Nothing but the beginnings of
the stored keys tells the entries apart. If of two such beginnings neither is the beginning of the
other, no name begins like both, and an operation for one site touches nothing that the other can
reach.

So the store falls into parts, one for each site. An operation is *local* if it does in the whole store
what it does in the part of its own site, and leaves the parts of the others as they are. All
operations of the backends are, but a write to a memory only as long as there is room: the entry that
is forgotten when there is none may be that of another site. The names of a directory are taken to be
in their order; what else is in it does not matter.
-/

import DynamicContent.Proofs.Cache.Facade

namespace DynamicContent.Cache

/-- Whether the stored keys of two sites never begin alike. -/
def Unrelated (start other : String) : Prop :=
  ¬ namespaceChars start <+: namespaceChars other ∧
    ¬ namespaceChars other <+: namespaceChars start

instance (start other : String) : Decidable (Unrelated start other) :=
  inferInstanceAs (Decidable (_ ∧ _))

/-- Whether a name begins like the stored keys of a site. -/
def isOfSite (start name : String) : Bool := Text.startsWith name (namespaceStart start)

theorem startsWith_append {key start : String} (h : Text.startsWith key start = true)
    (last : String) : Text.startsWith (key ++ last) start = true := by
  rw [Text.startsWith, List.isPrefixOf_iff_prefix] at h ⊢
  rw [String.toList_append]
  exact h.trans (List.prefix_append _ _)

theorem isOfSite_storedKey (start group key : String) :
    isOfSite start (storedKey start group key) = true :=
  startsWith_namespaceStart start group key

theorem isOfSite_fileName {start key : String} (h : isOfSite start key = true) :
    isOfSite start (FileStore.fileName key) = true := startsWith_append h _

/-- What a flush removes is of the site. -/
theorem isOfSite_of_flushStart {start key : String} {group : Option String}
    (h : Text.startsWith key (Cache.flushStart start group) = true) : isOfSite start key = true := by
  cases group with
  | none => exact h
  | some group =>
      rw [Text.startsWith, List.isPrefixOf_iff_prefix, Cache.flushStart, groupStart,
        String.toList_ofList, groupChars, List.append_assoc] at h
      rw [isOfSite, Text.startsWith, List.isPrefixOf_iff_prefix, namespaceStart,
        String.toList_ofList]
      exact (List.prefix_append _ _).trans h

/-- No name is of two unrelated sites. -/
theorem isOfSite_eq_false {start other name : String} (h : Unrelated other start)
    (hname : isOfSite other name = true) : isOfSite start name = false := by
  rw [Bool.eq_false_iff]
  intro hmine
  rw [isOfSite, Text.startsWith, List.isPrefixOf_iff_prefix, namespaceStart,
    String.toList_ofList] at hname hmine
  rcases List.prefix_or_prefix_of_prefix hname hmine with hprefix | hprefix
  · exact h.1 hprefix
  · exact h.2 hprefix

/-! ## Parts of a memory -/

namespace MemoryStore

variable {mine theirs : String → Bool} {now : Int} {key start : String} {value : Json}
  {lifetime : Nat} {store store' : MemoryStore}

/-- The entries under some keys. -/
def part (mine : String → Bool) (store : MemoryStore) : MemoryStore :=
  { store with entries := store.entries.filter fun entry => mine entry.1 }

/-- An entry of the part stays in front of the others of the part. -/
theorem filter_cons_without (h : mine key = true) (entry : MemoryEntry)
    (entries : List (String × MemoryEntry)) :
    ((key, entry) :: without key entries).filter (fun entry => mine entry.1) =
      (key, entry) :: without key (entries.filter fun entry => mine entry.1) :=
  (SortedMap.filter_cons_of_chosen h _).trans
    (congrArg _ (SortedMap.erase_filter mine key entries).symm)

/-- To put an entry in front changes nothing in a part that it does not belong to. -/
theorem filter_cons_without_of_not (h : theirs key = false) (entry : MemoryEntry)
    (entries : List (String × MemoryEntry)) :
    ((key, entry) :: without key entries).filter (fun entry => theirs entry.1) =
      entries.filter fun entry => theirs entry.1 :=
  (SortedMap.filter_cons_of_not_chosen h _).trans (SortedMap.filter_erase_of_not h entries)

theorem without_without (key : String) (entries : List (String × MemoryEntry)) :
    without key (without key entries) = without key entries := by
  rw [without, without, List.filter_filter]
  exact List.filter_congr fun entry _ => Bool.and_self _

theorem entry?_part (h : mine key = true) : entry? (store.part mine) key = store.entry? key := by
  rw [entry?_eq_find?, entry?_eq_find?]
  exact (SortedMap.find?_filter mine key store.entries).trans (if_pos h)

theorem get_part (h : mine key = true) :
    (store.part mine).get now key = ((store.get now key).1, (store.get now key).2.part mine) := by
  rw [get, get, entry?_part h]
  cases store.entry? key with
  | none => rfl
  | some entry =>
      dsimp only [part]
      split
      · exact congrArg (fun entries => (none, (⟨_, entries⟩ : MemoryStore)))
          (SortedMap.erase_filter mine key store.entries)
      · rw [filter_cons_without h]

theorem part_get (h : theirs key = false) :
    (store.get now key).2.part theirs = store.part theirs := by
  rw [get]
  split
  · rfl
  · dsimp only [part]
    split
    · exact congrArg (MemoryStore.mk _) (SortedMap.filter_erase_of_not h store.entries)
    · rw [filter_cons_without_of_not h]

/-- Whether there is room for an entry under a key beside all others. -/
def HasRoomFor (key : String) (store : MemoryStore) : Prop :=
  (without key store.entries).length < store.capacity

instance (key : String) (store : MemoryStore) : Decidable (store.HasRoomFor key) :=
  inferInstanceAs (Decidable (_ < _))

theorem without_get (now : Int) (key : String) (store : MemoryStore) :
    without key (store.get now key).2.entries = without key store.entries := by
  rw [get]
  split
  · rfl
  · split
    · exact without_without key _
    · refine Eq.trans ?_ (without_without key store.entries)
      exact List.filter_cons_of_neg (by simp)

theorem HasRoomFor.get (h : store.HasRoomFor key) (now : Int) :
    (store.get now key).2.HasRoomFor key := by
  have hcapacity : (store.get now key).2.capacity = store.capacity := by
    rw [MemoryStore.get]
    split
    · rfl
    · split <;> rfl
  rwa [HasRoomFor, without_get, hcapacity]

theorem HasRoomFor.part (h : store.HasRoomFor key) : (store.part mine).HasRoomFor key := by
  have hcommute : without key (store.part mine).entries =
      (without key store.entries).filter fun entry => mine entry.1 :=
    SortedMap.erase_filter mine key store.entries
  rw [HasRoomFor, hcommute]
  exact Nat.lt_of_le_of_lt (List.length_filter_le _ _) h

/-- With room for it an entry is written beside all others. -/
theorem set?_of_hasRoomFor (h : store.HasRoomFor key) :
    store.set? now key value lifetime = (deadline? now lifetime).map fun deadline =>
      { store with entries := (key, ⟨value, deadline⟩) :: without key store.entries } := by
  rw [set?]
  congr 1
  funext deadline
  rw [List.take_of_length_le]
  exact h

theorem set?_part (h : mine key = true) (hroom : store.HasRoomFor key) :
    (store.part mine).set? now key value lifetime =
      (store.set? now key value lifetime).map (part mine) := by
  rw [set?_of_hasRoomFor hroom, set?_of_hasRoomFor hroom.part, Option.map_map]
  congr 1
  funext deadline
  simp only [Function.comp, part]
  rw [filter_cons_without h]

theorem part_set? (h : theirs key = false) (hroom : store.HasRoomFor key)
    (hset : store.set? now key value lifetime = some store') :
    store'.part theirs = store.part theirs := by
  rw [set?_of_hasRoomFor hroom] at hset
  obtain ⟨deadline, -, rfl⟩ := Option.map_eq_some_iff.mp hset
  dsimp only [part]
  rw [filter_cons_without_of_not h]

theorem erase_part (h : mine key = true) :
    (store.part mine).erase key = ((store.erase key).1, (store.erase key).2.part mine) := by
  rw [erase, erase, entry?_part h]
  exact congrArg (fun entries => (_, (⟨_, entries⟩ : MemoryStore)))
    (SortedMap.erase_filter mine key store.entries)

theorem part_erase (h : theirs key = false) : (store.erase key).2.part theirs = store.part theirs :=
  congrArg (MemoryStore.mk _) (SortedMap.filter_erase_of_not h store.entries)

theorem flush_part (start : String) :
    ((store.part mine).flush start).2 = (store.flush start).2.part mine := by
  dsimp only [flush, part]
  rw [List.filter_filter, List.filter_filter]
  congr 1
  exact List.filter_congr fun entry _ => Bool.and_comm _ _

theorem part_flush (h : ∀ key, Text.startsWith key start = true → theirs key = false) :
    (store.flush start).2.part theirs = store.part theirs := by
  dsimp only [flush, part]
  rw [List.filter_filter]
  congr 1
  refine List.filter_congr fun entry _ => ?_
  cases hstart : Text.startsWith entry.1 start with
  | true => rw [h entry.1 hstart, Bool.false_and]
  | false => exact Bool.and_true _

end MemoryStore

/-! ## Parts of a directory -/

namespace FileStore

variable {mine theirs : String → Bool} {now : Int} {key start name : String} {value : Json}
  {lifetime : Nat} {store : FileStore} {dir : Directory}

/-- The files under some names. -/
def part (mine : String → Bool) (store : FileStore) : FileStore :=
  { store with directory := store.directory.filter fun entry => mine entry.1 }

theorem find?_filter (h : mine name = true) (dir : Directory) :
    SortedMap.find? name (dir.filter fun entry => mine entry.1) = SortedMap.find? name dir :=
  (SortedMap.find?_filter mine name dir).trans (if_pos h)

theorem removeIfPresent_filter (h : mine name = true) (dir : Directory) :
    removeIfPresent name (dir.filter fun entry => mine entry.1) =
      ((removeIfPresent name dir).1,
        (removeIfPresent name dir).2.filter fun entry => mine entry.1) := by
  rw [removeIfPresent, removeIfPresent, Directory.remove, Directory.remove, find?_filter h]
  cases Directory.nameError? name with
  | some error => cases error <;> rfl
  | none =>
      cases SortedMap.find? name dir with
      | none => rfl
      | some entry =>
          cases entry with
          | folder => rfl
          | file content => exact congrArg (_, ·) (SortedMap.erase_filter mine name dir)

/-- To remove a file leaves the directory without it, or as it is. -/
theorem removeIfPresent_cases (name : String) (dir : Directory) :
    (removeIfPresent name dir).2 = dir ∨
      (removeIfPresent name dir).2 = SortedMap.erase name dir := by
  rw [removeIfPresent, Directory.remove]
  cases Directory.nameError? name with
  | some error => cases error <;> exact .inl rfl
  | none =>
      cases SortedMap.find? name dir with
      | none => exact .inl rfl
      | some entry =>
          cases entry with
          | folder => exact .inl rfl
          | file content => exact .inr rfl

theorem filter_removeIfPresent (h : theirs name = false) (dir : Directory) :
    (removeIfPresent name dir).2.filter (fun entry => theirs entry.1) =
      dir.filter fun entry => theirs entry.1 := by
  rcases removeIfPresent_cases name dir with hsame | herased
  · rw [hsame]
  · rw [herased, SortedMap.filter_erase_of_not h]

theorem sorted_removeIfPresent (h : SortedMap.Sorted dir) (name : String) :
    SortedMap.Sorted (removeIfPresent name dir).2 := by
  rcases removeIfPresent_cases name dir with hsame | herased
  · rwa [hsame]
  · rw [herased]
    exact h.filter _

/-- What the removal of one file keeps, the removal of several keeps. -/
theorem removeAll_keeps {P : Directory → Prop} {names : List String}
    (h : ∀ name ∈ names, ∀ dir, P dir → P (removeIfPresent name dir).2) (removed : Nat)
    (hdir : P dir) : P (removeAll removed names dir).2 := by
  induction names generalizing removed dir with
  | nil => exact hdir
  | cons name names ih =>
      obtain ⟨hname, hnames⟩ := List.forall_mem_cons.mp h
      have hremoved := hname dir hdir
      rw [removeAll]
      cases hcall : removeIfPresent name dir with
      | mk result left =>
          rw [hcall] at hremoved
          cases result with
          | error error => exact hremoved
          | ok was =>
              cases was with
              | true => exact ih hnames _ hremoved
              | false => exact ih hnames _ hremoved

/-- To read a file leaves the directory as it is, or removes the file. -/
theorem get_snd_cases (now : Int) (key : String) (store : FileStore) :
    (store.get now key).2 = store ∨ (store.get now key).2 =
      { store with directory := (removeIfPresent (fileName key) store.directory).2 } := by
  rw [get]
  split
  · exact .inl rfl
  · exact .inl rfl
  · split
    · exact .inl rfl
    · split
      · exact .inr rfl
      · exact .inl rfl

/-- To write a file puts it in its place, or leaves the directory as it is. -/
theorem set_snd_cases (now : Int) (key : String) (value : Json) (lifetime : Nat)
    (store : FileStore) :
    (store.set now key value lifetime).2 = store ∨ ∃ content,
      (store.set now key value lifetime).2 = { store with
        directory := SortedMap.insert (fileName key) (.file content) store.directory } := by
  rw [set]
  split
  · next directory hreplace =>
      rw [Directory.replace] at hreplace
      split at hreplace
      · contradiction
      · split at hreplace
        · contradiction
        · obtain rfl := Except.ok.inj hreplace
          exact .inr ⟨_, rfl⟩
  · exact .inl rfl
  · exact .inl rfl

theorem get_part (h : mine (fileName key) = true) :
    (store.part mine).get now key = ((store.get now key).1, (store.get now key).2.part mine) := by
  rw [get, get, Directory.read, Directory.read]
  dsimp only [part]
  rw [find?_filter h]
  cases Directory.nameError? (fileName key) with
  | some error => cases error <;> rfl
  | none =>
      cases SortedMap.find? (fileName key) store.directory with
      | none => rfl
      | some entry =>
          cases entry with
          | folder => rfl
          | file content =>
              dsimp only
              cases (Json.parse? content).bind StoredEntry.ofJson? with
              | none => rfl
              | some document =>
                  dsimp only
                  split
                  · rw [removeIfPresent_filter h]
                  · rfl

theorem part_get (h : theirs (fileName key) = false) :
    (store.get now key).2.part theirs = store.part theirs := by
  rcases get_snd_cases now key store with hsame | hremoved
  · rw [hsame]
  · rw [hremoved]
    exact congrArg (FileStore.mk · _) (filter_removeIfPresent h store.directory)

theorem sorted_get (h : SortedMap.Sorted store.directory) :
    SortedMap.Sorted (store.get now key).2.directory := by
  rcases get_snd_cases now key store with hsame | hremoved
  · rwa [hsame]
  · rw [hremoved]
    exact sorted_removeIfPresent h _

theorem set_part (h : mine (fileName key) = true) (hsorted : SortedMap.Sorted store.directory) :
    (store.part mine).set now key value lifetime = ((store.set now key value lifetime).1,
      (store.set now key value lifetime).2.part mine) := by
  have hwritten (content : String) :
      SortedMap.insert (fileName key) (.file content) (store.part mine).directory =
        (SortedMap.insert (fileName key) (.file content) store.directory).filter
          fun entry => mine entry.1 := (SortedMap.filter_insert h _ hsorted).symm
  rw [set, set, Directory.replace, Directory.replace, hwritten]
  dsimp only [part]
  rw [find?_filter h]
  cases Directory.nameError? (fileName key) with
  | some error => cases error <;> rfl
  | none =>
      cases SortedMap.find? (fileName key) store.directory with
      | none => rfl
      | some entry => cases entry <;> rfl

theorem part_set (h : theirs (fileName key) = false) :
    (store.set now key value lifetime).2.part theirs = store.part theirs := by
  rcases set_snd_cases now key value lifetime store with hsame | ⟨content, hwritten⟩
  · rw [hsame]
  · rw [hwritten]
    exact congrArg (FileStore.mk · _) (SortedMap.filter_insert_of_not h _ store.directory)

theorem sorted_set (h : SortedMap.Sorted store.directory) :
    SortedMap.Sorted (store.set now key value lifetime).2.directory := by
  rcases set_snd_cases now key value lifetime store with hsame | ⟨content, hwritten⟩
  · rwa [hsame]
  · rw [hwritten]
    exact h.insert _ _

theorem erase_part (h : mine (fileName key) = true) :
    (store.part mine).erase key = ((store.erase key).1, (store.erase key).2.part mine) := by
  rw [erase, erase]
  dsimp only [part]
  rw [removeIfPresent_filter h]

theorem part_erase (h : theirs (fileName key) = false) :
    (store.erase key).2.part theirs = store.part theirs :=
  congrArg (FileStore.mk · _) (filter_removeIfPresent h store.directory)

theorem removeAll_filter {names : List String} (h : ∀ name ∈ names, mine name = true) (removed : Nat)
    (dir : Directory) :
    removeAll removed names (dir.filter fun entry => mine entry.1) =
      ((removeAll removed names dir).1,
        (removeAll removed names dir).2.filter fun entry => mine entry.1) := by
  induction names generalizing removed dir with
  | nil => rfl
  | cons name names ih =>
      obtain ⟨hname, hnames⟩ := List.forall_mem_cons.mp h
      rw [removeAll, removeAll, removeIfPresent_filter hname]
      cases removeIfPresent name dir with
      | mk result left =>
          cases result with
          | error error => rfl
          | ok was =>
              cases was with
              | true => exact ih hnames _ _
              | false => exact ih hnames _ _

/-- What a flush removes has a name that tells a key which begins like the text. -/
theorem exists_key_of_doomed
    (h : ((keyOfName? name).any fun key => Text.startsWith key start) = true) :
    ∃ key, Text.startsWith key start = true ∧ name = fileName key := by
  rw [Option.any_eq_true] at h
  obtain ⟨key, hkey, hstart⟩ := h
  exact ⟨key, hstart, (keyOfName?_eq_some_iff.mp hkey).2⟩

theorem flush_part
    (h : ∀ key, Text.startsWith key start = true → mine (fileName key) = true) :
    ((store.part mine).flush start).2 = (store.flush start).2.part mine := by
  have hdoomed : ∀ name, ((keyOfName? name).any fun key => Text.startsWith key start) = true →
      mine name = true := by
    intro name hname
    obtain ⟨key, hstart, rfl⟩ := exists_key_of_doomed hname
    exact h key hstart
  have hnames : (store.part mine).directory.names.filter (fun name =>
      (keyOfName? name).any fun key => Text.startsWith key start) =
      store.directory.names.filter fun name =>
        (keyOfName? name).any fun key => Text.startsWith key start := by
    dsimp only [part, Directory.names, SortedMap.keys]
    rw [List.filter_map, List.filter_map, List.filter_filter]
    refine congrArg (List.map _) (List.filter_congr fun entry _ => ?_)
    rw [Bool.and_eq_left_iff_imp]
    exact hdoomed entry.1
  rw [flush, flush, hnames]
  dsimp only [part]
  rw [removeAll_filter fun name hname => hdoomed name (List.mem_filter.mp hname).2]

theorem part_flush
    (h : ∀ key, Text.startsWith key start = true → theirs (fileName key) = false) :
    (store.flush start).2.part theirs = store.part theirs := by
  refine congrArg (FileStore.mk · _) (removeAll_keeps (P := fun dir =>
    dir.filter (fun entry => theirs entry.1) =
      store.directory.filter fun entry => theirs entry.1) (fun name hname dir hdir => ?_) 0 rfl)
  obtain ⟨key, hstart, rfl⟩ := exists_key_of_doomed (List.mem_filter.mp hname).2
  exact (filter_removeIfPresent (h key hstart) dir).trans hdir

end FileStore

/-! ## The part of a site -/

namespace Store

/-- What a store has under the names of a site. -/
def part (start : String) : Store → Store
  | memory store => memory (store.part (isOfSite start))
  | file store => file (store.part (isOfSite start))
  | broken => broken

/-- Whether the names of the files are in their order. -/
def IsOrdered : Store → Prop
  | file store => SortedMap.Sorted store.directory
  | _ => True

/-- Whether there is room for an entry under a key beside all others. -/
def HasRoomFor (key : String) : Store → Prop
  | memory store => store.HasRoomFor key
  | _ => True

instance (key : String) : (store : Store) → Decidable (store.HasRoomFor key)
  | memory store => inferInstanceAs (Decidable (store.HasRoomFor key))
  | file _ => inferInstanceAs (Decidable True)
  | broken => inferInstanceAs (Decidable True)

/-- An operation does in a store what it does in the part of a site alone, and leaves the parts of
unrelated sites as they are. -/
structure IsLocal {ρ : Type} (start : String) (op : Store → ρ × Store) (store : Store) : Prop where
  part : op (store.part start) = ((op store).1, (op store).2.part start)
  others : ∀ other, Unrelated start other → (op store).2.part other = store.part other
  ordered : (op store).2.IsOrdered
  name : (op store).2.name = store.name

namespace IsLocal

variable {ρ τ : Type} {start : String} {op : Store → ρ × Store} {store : Store}

/-- To leave the store as it is is local. -/
theorem pure (hordered : store.IsOrdered) (result : ρ) :
    IsLocal start (fun store => (result, store)) store where
  part := rfl
  others _ _ := rfl
  ordered := hordered
  name := rfl

theorem congr (h : IsLocal start op store) {same : Store → ρ × Store}
    (heq : ∀ store, same store = op store) : IsLocal start same store :=
  funext heq ▸ h

/-- What is made of a result does not matter. -/
theorem map (h : IsLocal start op store) (f : ρ → τ) :
    IsLocal start (fun store => (f (op store).1, (op store).2)) store where
  part := by rw [h.part]
  others := h.others
  ordered := h.ordered
  name := h.name

/-- Another operation may follow, also one that depends on the result. -/
theorem bind (h : IsLocal start op store) {next : ρ → Store → τ × Store}
    (hnext : IsLocal start (next (op store).1) (op store).2) :
    IsLocal start (fun store => next (op store).1 (op store).2) store where
  part := by
    rw [h.part]
    exact hnext.part
  others other hother := (hnext.others other hother).trans (h.others other hother)
  ordered := hnext.ordered
  name := hnext.name.trans h.name

/-- What is local in a memory is local in the store. -/
theorem of_memory {step : MemoryStore → τ × MemoryStore} {f : τ → ρ} {store : MemoryStore}
    (hop : ∀ store, op (memory store) = (f (step store).1, memory (step store).2))
    (hpart : step (store.part (isOfSite start)) =
      ((step store).1, (step store).2.part (isOfSite start)))
    (hothers : ∀ other, Unrelated start other →
      (step store).2.part (isOfSite other) = store.part (isOfSite other)) :
    IsLocal start op (memory store) where
  part := by
    rw [Store.part, hop, hop, hpart]
    rfl
  others other hother := by
    rw [hop]
    exact congrArg memory (hothers other hother)
  ordered := by
    rw [hop]
    trivial
  name := by
    rw [hop]
    rfl

/-- What is local in a directory, and keeps its order, is local in the store. -/
theorem of_file {step : FileStore → ρ × FileStore} {store : FileStore}
    (hop : ∀ store, op (file store) = ((step store).1, file (step store).2))
    (hpart : step (store.part (isOfSite start)) =
      ((step store).1, (step store).2.part (isOfSite start)))
    (hothers : ∀ other, Unrelated start other →
      (step store).2.part (isOfSite other) = store.part (isOfSite other))
    (hsorted : SortedMap.Sorted (step store).2.directory) :
    IsLocal start op (file store) where
  part := by
    rw [Store.part, hop, hop, hpart]
    rfl
  others other hother := by
    rw [hop]
    exact congrArg file (hothers other hother)
  ordered := by
    rw [hop]
    exact hsorted
  name := by
    rw [hop]
    rfl

end IsLocal

section

variable {start key : String} {now : Int} {store : Store}

theorem isLocal_get (hkey : isOfSite start key = true) (hordered : store.IsOrdered) :
    IsLocal start ((backend now).get key) store := by
  have hname := isOfSite_fileName hkey
  cases store with
  | memory store =>
      exact .of_memory (fun _ => rfl) (MemoryStore.get_part hkey) fun other hother =>
        MemoryStore.part_get (isOfSite_eq_false hother hkey)
  | file store =>
      refine .of_file (fun _ => rfl) (FileStore.get_part hname) (fun other hother => ?_)
        (FileStore.sorted_get hordered)
      exact FileStore.part_get (isOfSite_eq_false hother hname)
  | broken => exact ⟨rfl, fun _ _ => rfl, trivial, rfl⟩

theorem isLocal_set (hkey : isOfSite start key = true) (hordered : store.IsOrdered)
    (hroom : store.HasRoomFor key) (value : Json) (lifetime : Nat) :
    IsLocal start ((backend now).set key value lifetime) store := by
  have hname := isOfSite_fileName hkey
  cases store with
  | memory store =>
      refine ⟨?_, fun other hother => ?_, ?_, ?_⟩
      · simp only [backend, run, MemoryStore.backend, Store.part]
        rw [MemoryStore.set?_part hkey hroom]
        cases store.set? now key value lifetime <;> rfl
      · simp only [backend, run, MemoryStore.backend, Store.part]
        cases hset : store.set? now key value lifetime with
        | none => rfl
        | some store' =>
            exact congrArg memory
              (MemoryStore.part_set? (isOfSite_eq_false hother hkey) hroom hset)
      · simp only [backend, run, MemoryStore.backend]
        cases store.set? now key value lifetime <;> trivial
      · simp only [backend, run, MemoryStore.backend]
        cases store.set? now key value lifetime <;> rfl
  | file store =>
      refine .of_file (fun _ => rfl) (FileStore.set_part hname hordered) (fun other hother => ?_)
        (FileStore.sorted_set hordered)
      exact FileStore.part_set (isOfSite_eq_false hother hname)
  | broken => exact ⟨rfl, fun _ _ => rfl, trivial, rfl⟩

theorem HasRoomFor.get (h : store.HasRoomFor key) (now : Int) :
    ((backend now).get key store).2.HasRoomFor key := by
  cases store with
  | memory store => exact MemoryStore.HasRoomFor.get h now
  | file store => trivial
  | broken => trivial

theorem isLocal_erase (hkey : isOfSite start key = true) (hordered : store.IsOrdered) :
    IsLocal start ((backend now).erase key) store := by
  have hname := isOfSite_fileName hkey
  cases store with
  | memory store =>
      exact .of_memory (fun _ => rfl) (MemoryStore.erase_part hkey) fun other hother =>
        MemoryStore.part_erase (isOfSite_eq_false hother hkey)
  | file store =>
      refine .of_file (fun _ => rfl) (FileStore.erase_part hname) (fun other hother => ?_)
        (FileStore.sorted_removeIfPresent hordered _)
      exact FileStore.part_erase (isOfSite_eq_false hother hname)
  | broken => exact ⟨rfl, fun _ _ => rfl, trivial, rfl⟩

/-- A flush is local as far as the entries go. How many were removed is not asked for. -/
theorem isLocal_flush (hordered : store.IsOrdered) (group : Option String) :
    IsLocal start (fun store =>
      ((), ((backend now).flush (Cache.flushStart start group) store).2)) store := by
  have hkey (key : String) (h : Text.startsWith key (Cache.flushStart start group) = true) :
      isOfSite start key = true := isOfSite_of_flushStart h
  have hname (key : String) (h : Text.startsWith key (Cache.flushStart start group) = true) :
      isOfSite start (FileStore.fileName key) = true := isOfSite_fileName (hkey key h)
  cases store with
  | memory store =>
      refine ⟨congrArg (((), memory ·)) (MemoryStore.flush_part _), fun other hother => ?_, trivial, rfl⟩
      exact congrArg memory
        (MemoryStore.part_flush fun key h => isOfSite_eq_false hother (hkey key h))
  | file store =>
      refine ⟨congrArg (((), file ·)) (FileStore.flush_part hname), fun other hother => ?_, ?_, rfl⟩
      · exact congrArg file
          (FileStore.part_flush fun key h => isOfSite_eq_false hother (hname key h))
      · exact FileStore.removeAll_keeps (P := SortedMap.Sorted)
          (fun name _ dir hdir => FileStore.sorted_removeIfPresent hdir name) 0 hordered
  | broken => exact ⟨rfl, fun _ _ => rfl, trivial, rfl⟩

end

end Store

end DynamicContent.Cache
