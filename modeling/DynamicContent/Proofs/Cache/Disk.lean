/-
# Files on a disk that fails

To put a document in its place takes several calls to the file system: a temporary file is made, the
document is written to it and flushed, and then the file gets the name of the entry. If one of these
fails, the temporary file is given up. Here the operations on files are written down call by call, down
to those of a write, and every call may fail. How they fare is given by one stream, one element for each
call, so a statement about every stream is one about all patterns of failure.

An operation either does what the operation of the store in files does, or it fails. Where no call fails
it does the same, so nothing is said here of other operations than those. One thing is asked of whoever
makes temporary files, and only where it is needed: one that is given up is removed.
-/

import DynamicContent.Proofs.Cache.Script

namespace DynamicContent.Cache

/-- What becomes of a call to the file system. It may fail, for some cause. If it makes a temporary file,
the rest of its name is random. If it writes a text and fails, some of the text has been written. If it
lists a directory, the names come in some order. And a temporary file that is given up may stay. -/
structure Fate where
  cause? : Option String
  suffix : String
  written : Nat
  order : List String → List String
  stays : Bool

/-- The name of a temporary file. -/
def Fate.staging (fate : Fate) : String := ".tmp" ++ fate.suffix

/-- Whether every temporary file that is given up is removed. -/
def ClearsUp (fates : Nat → Fate) : Prop := ∀ n, (fates n).stays = false

namespace Directory

/-- Makes an empty file under a name that nothing has. -/
def create (name : String) (dir : Directory) : Except StepError Directory :=
  match nameError? name with
  | some error => .error error
  | none =>
    match dir.find? name with
    | some _ => .error (.other "File exists (os error 17)")
    | none => .ok (SortedMap.insert name (.file "") dir)

/-- Gives a file another name, in the place of the file that has it. -/
def rename (name target : String) (dir : Directory) : Except StepError Directory :=
  match dir.find? name with
  | some (.file content) => replace target content (dir.erase name)
  | _ => .error .notFound

theorem erase_of_create {name : String} {dir dir' : Directory} (h : dir.create name = .ok dir') :
    SortedMap.erase name dir' = dir := by
  unfold create at h
  split at h
  · contradiction
  · split at h
    · contradiction
    · next hfree =>
        obtain rfl := Except.ok.inj h
        rw [SortedMap.erase_insert_self, SortedMap.erase_of_find?_eq_none hfree]

theorem create_of_free {name : String} {dir : Directory} (hname : nameError? name = none)
    (hfree : dir.find? name = none) :
    dir.create name = .ok (SortedMap.insert name (.file "") dir) := by
  rw [create, hname, hfree]

end Directory

/-- To write an entry is to put its document in its place. -/
theorem FileStore.set_eq_storage (now : Int) (key : String) (value : Json) (lifetime : Nat)
    (store : FileStore) :
    store.set now key value lifetime =
      match store.directory.replace (fileName key)
        (document store.defaultLifetime key value lifetime now).toJson.print with
      | .ok directory => (.ok (), { store with directory })
      | .error error => (storage key (.error error), store) := by
  rw [set, document, Deposit.document]
  dsimp only
  split
  · next hreplace => rw [hreplace]
  · next hreplace => rw [hreplace]; rfl
  · next hreplace => rw [hreplace]; rfl

theorem FileStore.set_of_error {now : Int} {key : String} {value : Json} {lifetime : Nat}
    {store : FileStore} {error : CacheError}
    (h : (store.set now key value lifetime).1 = .error error) :
    (store.set now key value lifetime).2 = store := by
  rcases FileStore.set_cases now key value lifetime store with ⟨store', hset⟩ | ⟨hsame, -⟩
  · rw [hset] at h
    contradiction
  · exact hsame

/-- A store in files, and how many calls to the file system there have been. -/
structure Disk where
  files : FileStore
  calls : Nat

namespace Disk

variable (fates : Nat → Fate)

/-! ## Calls -/

/-- The disk behind a call that leaves a directory. -/
def onto (directory : Directory) (disk : Disk) : Disk :=
  ⟨{ disk.files with directory }, disk.calls + 1⟩

/-- A call that leaves everything as it is if it fails. -/
def call {α : Type} (step : Fate → Directory → Except StepError (α × Directory)) (disk : Disk) :
    Except StepError α × Disk :=
  let fate := fates disk.calls
  match fate.cause? with
  | some cause => (.error (.other cause), disk.onto disk.files.directory)
  | none =>
    match step fate disk.files.directory with
    | .ok (answer, directory) => (.ok answer, disk.onto directory)
    | .error error => (.error error, disk.onto disk.files.directory)

/-- Reads a file. -/
def read (name : String) : Disk → Except StepError String × Disk :=
  call fates fun _ dir => (dir.read name).map fun content => (content, dir)

/-- Removes a file. -/
def remove (name : String) : Disk → Except StepError Unit × Disk :=
  call fates fun _ dir => (dir.remove name).map fun dir => ((), dir)

/-- Lists the names in the directory. -/
def list : Disk → Except StepError (List String) × Disk :=
  call fates fun fate dir => .ok (fate.order dir.names, dir)

/-- Makes a temporary file, and says what its name is. -/
def stage : Disk → Except StepError String × Disk :=
  call fates fun fate dir => (dir.create fate.staging).map fun dir => (fate.staging, dir)

/-- Makes sure that a file has what was written to it. -/
def sync : Disk → Except StepError Unit × Disk := call fates fun _ dir => .ok ((), dir)

/-- Gives a file another name. -/
def rename (name target : String) : Disk → Except StepError Unit × Disk :=
  call fates fun _ dir => (dir.rename name target).map fun dir => ((), dir)

/-- Writes a text to a temporary file. If that fails, some of it has been written. -/
def fill (name content : String) (disk : Disk) : Except String Unit × Disk :=
  let fate := fates disk.calls
  match fate.cause? with
  | some cause => (.error cause, disk.onto (SortedMap.insert name
      (.file (String.ofList (content.toList.take fate.written))) disk.files.directory))
  | none => (.ok (), disk.onto (SortedMap.insert name (.file content) disk.files.directory))

/-- Gives up a temporary file. -/
def discard (name : String) (disk : Disk) : Disk :=
  if (fates disk.calls).stays then disk.onto disk.files.directory
  else disk.onto (disk.files.directory.erase name)

/-! ## Operations -/

/-- Removes a file, and says whether there was one. -/
def removeIfPresent (name : String) (disk : Disk) : Except CacheError Bool × Disk :=
  let (answer, disk) := disk.remove fates name
  (FileStore.removal answer, disk)

/-- The value under a key. A file whose document is no longer valid is removed. -/
def get (now : Int) (key : String) (disk : Disk) : Except CacheError (Option Json) × Disk :=
  match disk.read fates (FileStore.fileName key) with
  | (.error .notFound, disk) => (.ok none, disk)
  | (.error error, disk) => (.error (FileStore.failure error), disk)
  | (.ok content, disk) =>
    match (Json.parse? content).bind StoredEntry.ofJson? with
    | none => (.error (.payload "invalid entry"), disk)
    | some entry =>
      if entry.expiresAt ≤ now then
        let (removed, disk) := disk.removeIfPresent fates (FileStore.fileName key)
        (removed.map fun _ => none, disk)
      else (.ok (some entry.value), disk)

/-- Writes a document to a temporary file, and gives that the name of the entry. -/
def complete (name key content : String) (disk : Disk) : Except CacheError Unit × Disk :=
  match disk.fill fates name content with
  | (.error cause, disk) => (.error (.payload cause), disk)
  | (.ok _, disk) =>
    match disk.sync fates with
    | (.error error, disk) => (.error (FileStore.failure error), disk)
    | (.ok _, disk) =>
      let (answer, disk) := disk.rename fates name (FileStore.fileName key)
      (FileStore.storage key answer, disk)

/-- Writes a value. A temporary file that does not become the file of the entry is given up. -/
def set (now : Int) (key : String) (value : Json) (lifetime : Nat) (disk : Disk) :
    Except CacheError Unit × Disk :=
  let document := FileStore.document disk.files.defaultLifetime key value lifetime now
  match disk.stage fates with
  | (.error error, disk) => (.error (FileStore.failure error), disk)
  | (.ok name, disk) =>
    match disk.complete fates name key document.toJson.print with
    | (.ok _, disk) => (.ok (), disk)
    | (.error error, disk) => (.error error, disk.discard fates name)

/-- Removes the entry under a key, and says whether there was one. -/
def erase (key : String) : Disk → Except CacheError Bool × Disk :=
  removeIfPresent fates (FileStore.fileName key)

/-- Removes the files with the given names up to the first that cannot be removed, and counts them. -/
def removeAll (removed : Nat) : List String → Disk → Except CacheError Nat × Disk
  | [], disk => (.ok removed, disk)
  | name :: names, disk =>
    match disk.removeIfPresent fates name with
    | (.ok true, disk) => removeAll (removed + 1) names disk
    | (.ok false, disk) => removeAll removed names disk
    | (.error error, disk) => (.error error, disk)

/-- Removes the entries whose keys begin with a text, and says how many there were. -/
def flush (start : String) (disk : Disk) : Except CacheError Nat × Disk :=
  match disk.list fates with
  | (.error error, disk) => (.error (FileStore.failure error), disk)
  | (.ok names, disk) => disk.removeAll fates 0 (names.filter (FileStore.isDoomed start))

/-- A disk as a place for entries. -/
def backend (now : Int) : Backend Disk where
  get := get fates now
  set := set fates now
  erase := erase fates
  flush := flush fates

/-- What an operation does at one moment. -/
def perform (now : Int) (disk : Disk) : FileStore.Operation → FileStore.Reply × Disk
  | .get key => ((disk.get fates now key).map .value id)
  | .set key value lifetime => ((disk.set fates now key value lifetime).map .stored id)
  | .erase key => ((disk.erase fates key).map .removed id)
  | .flush start => ((disk.flush fates start).map .flushed id)

/-! ## Where nothing fails -/

section

variable {fates : Nat → Fate} {disk : Disk} {cause : String}

/-- No call fails, names are listed in their order, and the names of temporary files are free. -/
structure Calm (fates : Nat → Fate) (dir : Directory) : Prop where
  succeeds : ∀ n, (fates n).cause? = none
  ordered : ∀ n names, (fates n).order names = names
  named : ∀ n, Directory.nameError? (fates n).staging = none
  free : ∀ n, dir.find? (fates n).staging = none

theorem call_of_fails {α : Type} {step : Fate → Directory → Except StepError (α × Directory)}
    (h : (fates disk.calls).cause? = some cause) :
    disk.call fates step = (.error (.other cause), disk.onto disk.files.directory) := by
  simp only [call, h]

theorem call_of_succeeds {α : Type} {step : Fate → Directory → Except StepError (α × Directory)}
    (h : (fates disk.calls).cause? = none) :
    disk.call fates step =
      match step (fates disk.calls) disk.files.directory with
      | .ok (answer, directory) => (.ok answer, disk.onto directory)
      | .error error => (.error error, disk.onto disk.files.directory) := by
  simp only [call, h]

theorem read_of_succeeds (name : String) (h : (fates disk.calls).cause? = none) :
    disk.read fates name =
      (disk.files.directory.read name, disk.onto disk.files.directory) := by
  rw [read, call_of_succeeds h]
  cases disk.files.directory.read name <;> rfl

theorem removeIfPresent_of_fails (name : String) (h : (fates disk.calls).cause? = some cause) :
    disk.removeIfPresent fates name = (.error (.io cause), disk.onto disk.files.directory) := by
  rw [removeIfPresent, remove, call_of_fails h]
  rfl

theorem removeIfPresent_of_succeeds (name : String) (h : (fates disk.calls).cause? = none) :
    disk.removeIfPresent fates name =
      ((FileStore.removeIfPresent name disk.files.directory).1,
        disk.onto (FileStore.removeIfPresent name disk.files.directory).2) := by
  rw [removeIfPresent, remove, call_of_succeeds h, FileStore.removeIfPresent_eq_removal]
  cases disk.files.directory.remove name <;> rfl

theorem rename_filled {name target content : String} {dir dir' : Directory}
    (h : SortedMap.erase name dir' = dir) :
    Directory.rename name target (SortedMap.insert name (.file content) dir') =
      dir.replace target content := by
  rw [Directory.rename, SortedMap.find?_insert_self]
  dsimp only
  rw [SortedMap.erase_insert_self, h]

/-! ## An operation does what it should, or fails -/

/-- An operation on a disk answers and leaves what one on the store in files does. Or it has failed, which
it does not where all is calm, and has left the files as they were. -/
inductive Follows {α : Type} (fates : Nat → Fate) (disk : Disk)
    (expected : Except CacheError α × FileStore) (result : Except CacheError α × Disk) : Prop
  | done (answer : result.1 = expected.1) (files : result.2.files = expected.2)
  | failed (hectic : ¬ Calm fates disk.files.directory) {error : CacheError}
      (answer : result.1 = .error error) (files : result.2.files = disk.files)

theorem not_calm {dir : Directory} {n : Nat} (h : (fates n).cause? = some cause) :
    ¬ Calm fates dir := by
  intro hcalm
  rw [hcalm.succeeds n] at h
  contradiction

theorem Follows.of_calm {α : Type} {expected : Except CacheError α × FileStore}
    {result : Except CacheError α × Disk} (h : Follows fates disk expected result)
    (hcalm : Calm fates disk.files.directory) :
    result.1 = expected.1 ∧ result.2.files = expected.2 := by
  cases h with
  | done answer files => exact ⟨answer, files⟩
  | failed hectic _ _ => exact absurd hcalm hectic

theorem removeIfPresent_follows (fates : Nat → Fate) (name : String) (disk : Disk) :
    Follows fates disk
      ((FileStore.removeIfPresent name disk.files.directory).1, { disk.files with
        directory := (FileStore.removeIfPresent name disk.files.directory).2 })
      (disk.removeIfPresent fates name) := by
  cases hcause : (fates disk.calls).cause? with
  | none =>
      rw [removeIfPresent_of_succeeds name hcause]
      exact .done rfl rfl
  | some cause =>
      rw [removeIfPresent_of_fails name hcause]
      exact .failed (not_calm hcause) rfl rfl

theorem get_follows (fates : Nat → Fate) (now : Int) (key : String) (disk : Disk) :
    Follows fates disk (disk.files.get now key) (disk.get fates now key) := by
  rw [get, FileStore.get]
  cases hcause : (fates disk.calls).cause? with
  | some cause =>
      have hread : disk.read fates (FileStore.fileName key) =
          (.error (.other cause), disk.onto disk.files.directory) := call_of_fails hcause
      rw [hread]
      exact .failed (not_calm hcause) rfl rfl
  | none =>
      rw [read_of_succeeds _ hcause]
      cases disk.files.directory.read (FileStore.fileName key) with
      | error error =>
          cases error with
          | notFound => exact .done rfl rfl
          | other cause => exact .done rfl rfl
      | ok content =>
          dsimp only
          cases (Json.parse? content).bind StoredEntry.ofJson? with
          | none => exact .done rfl rfl
          | some entry =>
              dsimp only
              by_cases hexpired : entry.expiresAt ≤ now
              · rw [if_pos hexpired, if_pos hexpired]
                have hremoved := removeIfPresent_follows fates (FileStore.fileName key)
                  (disk.onto disk.files.directory)
                cases hremoved with
                | done answer files =>
                    exact .done (congrArg (Except.map fun _ => none) answer) files
                | failed hectic answer files =>
                    exact .failed hectic (congrArg (Except.map fun _ => none) answer) files
              · rw [if_neg hexpired, if_neg hexpired]
                exact .done rfl rfl

theorem erase_follows (fates : Nat → Fate) (key : String) (disk : Disk) :
    Follows fates disk (disk.files.erase key) (disk.erase fates key) :=
  removeIfPresent_follows fates (FileStore.fileName key) disk

/-! ### Writes -/

/-- How it turns out to put a text in the place of an entry, and what directory that leaves. It is put
there, or the place is not free, or some call fails. Unless it is put there, there is at most a temporary
file besides what there was before that was made. -/
inductive Placed (fates : Nat → Fate) (name key content : String) (dir : Directory) :
    Except CacheError Unit → Directory → Prop
  | done {directory : Directory}
      (placed : dir.replace (FileStore.fileName key) content = .ok directory) :
      Placed fates name key content dir (.ok ()) directory
  | refused {error : StepError} {directory : Directory}
      (occupied : dir.replace (FileStore.fileName key) content = .error error)
      (rest : SortedMap.erase name directory = dir) :
      Placed fates name key content dir (FileStore.storage key (.error error)) directory
  | failed {error : CacheError} {cause : String} {n : Nat} {directory : Directory}
      (hectic : (fates n).cause? = some cause) (rest : SortedMap.erase name directory = dir) :
      Placed fates name key content dir (.error error) directory

theorem rename_placed {name content : String} {dir dir' : Directory} (key : String)
    (hrest : SortedMap.erase name dir' = dir)
    (hfilled : disk.files.directory = SortedMap.insert name (.file content) dir') :
    ∃ directory,
      (disk.rename fates name (FileStore.fileName key)).2 = disk.onto directory ∧
      Placed fates name key content dir
        (FileStore.storage key (disk.rename fates name (FileStore.fileName key)).1) directory := by
  have herase : SortedMap.erase name disk.files.directory = dir := by
    rw [hfilled, SortedMap.erase_insert_self, hrest]
  cases hcause : (fates disk.calls).cause? with
  | some cause =>
      rw [rename, call_of_fails hcause]
      exact ⟨_, rfl, .failed hcause herase⟩
  | none =>
      rw [rename, call_of_succeeds hcause, hfilled, rename_filled hrest, ← hfilled]
      cases hreplace : dir.replace (FileStore.fileName key) content with
      | ok directory => exact ⟨directory, rfl, .done hreplace⟩
      | error error => exact ⟨_, rfl, .refused hreplace herase⟩

theorem complete_placed {name : String} {dir : Directory} (key content : String)
    (hrest : SortedMap.erase name disk.files.directory = dir) :
    ∃ directory calls,
      (disk.complete fates name key content).2 = ⟨{ disk.files with directory }, calls⟩ ∧
      Placed fates name key content dir (disk.complete fates name key content).1 directory := by
  -- Whatever has been written to the temporary file, the rest of the directory is the same.
  have herase (text : String) :
      SortedMap.erase name (SortedMap.insert name (.file text) disk.files.directory) = dir :=
    (SortedMap.erase_insert_self name _ _).trans hrest
  rw [complete, fill]
  cases hfill : (fates disk.calls).cause? with
  | some cause => exact ⟨_, _, rfl, .failed hfill (herase _)⟩
  | none =>
      dsimp only
      cases hsync : (fates (disk.calls + 1)).cause? with
      | some cause =>
          rw [sync, call_of_fails hsync]
          exact ⟨_, _, rfl, .failed hsync (herase content)⟩
      | none =>
          rw [sync, call_of_succeeds hsync]
          obtain ⟨directory, hleft, hplaced⟩ := @rename_placed fates
            ((disk.onto (SortedMap.insert name (.file content) disk.files.directory)).onto
              (SortedMap.insert name (.file content) disk.files.directory))
            name content dir _ key hrest rfl
          exact ⟨directory, _, hleft, hplaced⟩

/-- To give up a temporary file leaves what there was without it. -/
theorem files_discard (hclears : ClearsUp fates) {name : String} {directory : Directory}
    (calls : Nat) (h : SortedMap.erase name directory = disk.files.directory) :
    (discard fates name ⟨{ disk.files with directory }, calls⟩).files = disk.files := by
  rw [discard, hclears calls, if_neg Bool.false_ne_true]
  dsimp only [onto]
  rw [h]

/-- A write puts the document in the place of the entry, or fails and leaves nothing behind. -/
theorem set_follows (hclears : ClearsUp fates) (now : Int) (key : String) (value : Json)
    (lifetime : Nat) (disk : Disk) :
    Follows fates disk (disk.files.set now key value lifetime)
      (disk.set fates now key value lifetime) := by
  rw [set, FileStore.set_eq_storage]
  generalize (FileStore.document disk.files.defaultLifetime key value lifetime now).toJson.print =
    content
  cases hcause : (fates disk.calls).cause? with
  | some cause =>
      rw [stage, call_of_fails hcause]
      exact .failed (not_calm hcause) rfl rfl
  | none =>
      rw [stage, call_of_succeeds hcause]
      cases hcreate : disk.files.directory.create (fates disk.calls).staging with
      | error error =>
          apply Follows.failed
          · intro hcalm
            rw [Directory.create_of_free (hcalm.named _) (hcalm.free _)] at hcreate
            contradiction
          · rfl
          · rfl
      | ok made =>
          obtain ⟨directory, calls, hleft, hplaced⟩ :=
            @complete_placed fates (disk.onto made) _ _ key content
              (Directory.erase_of_create hcreate)
          dsimp only [Except.map]
          cases hcomplete : (disk.onto made).complete fates _ key content with
          | mk answer left =>
              rw [hcomplete] at hleft hplaced
              obtain rfl := hleft
              cases hplaced with
              | done hplaced =>
                  rw [hplaced]
                  exact .done rfl rfl
              | @refused error _ hoccupied hrest =>
                  rw [hoccupied]
                  cases error <;>
                  · exact .done rfl (files_discard hclears calls hrest)
              | failed hfails hrest =>
                  exact .failed (not_calm hfails) rfl (files_discard hclears calls hrest)

/-! ### Flushes -/

theorem removeAll_of_succeeds (h : ∀ n, (fates n).cause? = none) (names : List String)
    (removed : Nat) (disk : Disk) :
    (disk.removeAll fates removed names).1 =
        (FileStore.removeAll removed names disk.files.directory).1 ∧
      (disk.removeAll fates removed names).2.files = { disk.files with
        directory := (FileStore.removeAll removed names disk.files.directory).2 } := by
  induction names generalizing removed disk with
  | nil => exact ⟨rfl, rfl⟩
  | cons name names ih =>
      rw [removeAll, FileStore.removeAll, removeIfPresent_of_succeeds name (h disk.calls)]
      cases FileStore.removeIfPresent name disk.files.directory with
      | mk answer directory =>
          cases answer with
          | error error => exact ⟨rfl, rfl⟩
          | ok was =>
              cases was with
              | true => exact ih (removed + 1) (disk.onto directory)
              | false => exact ih removed (disk.onto directory)

theorem flush_of_calm (hcalm : Calm fates disk.files.directory) (start : String) :
    (disk.flush fates start).1 = (disk.files.flush start).1 ∧
      (disk.flush fates start).2.files = (disk.files.flush start).2 := by
  rw [flush, list, call_of_succeeds (hcalm.succeeds _)]
  dsimp only
  rw [hcalm.ordered]
  exact removeAll_of_succeeds hcalm.succeeds _ 0 (disk.onto disk.files.directory)

/-- Where all is calm, an operation on a disk is that of the store in files. -/
theorem perform_of_calm (hclears : ClearsUp fates) (hcalm : Calm fates disk.files.directory)
    (now : Int) (op : FileStore.Operation) :
    (disk.perform fates now op).1 = (disk.files.perform now op).1 ∧
      (disk.perform fates now op).2.files = (disk.files.perform now op).2 := by
  cases op with
  | get key =>
      obtain ⟨hanswer, hfiles⟩ := (get_follows fates now key disk).of_calm hcalm
      exact ⟨congrArg FileStore.Reply.value hanswer, hfiles⟩
  | set key value lifetime =>
      obtain ⟨hanswer, hfiles⟩ :=
        (set_follows hclears now key value lifetime disk).of_calm hcalm
      exact ⟨congrArg FileStore.Reply.stored hanswer, hfiles⟩
  | erase key =>
      obtain ⟨hanswer, hfiles⟩ := (erase_follows fates key disk).of_calm hcalm
      exact ⟨congrArg FileStore.Reply.removed hanswer, hfiles⟩
  | flush start =>
      obtain ⟨hanswer, hfiles⟩ := flush_of_calm hcalm start
      exact ⟨congrArg FileStore.Reply.flushed hanswer, hfiles⟩

/-! ## What an operation leaves alone -/

section

variable {theirs : String → Bool} {now : Int} {key start : String} {value : Json}
  {lifetime : Nat}

theorem Follows.part {α : Type} {expected : Except CacheError α × FileStore}
    {result : Except CacheError α × Disk} (h : Follows fates disk expected result)
    (hexpected : expected.2.part theirs = disk.files.part theirs) :
    result.2.files.part theirs = disk.files.part theirs := by
  cases h with
  | done answer files => rw [files, hexpected]
  | failed hectic answer files => rw [files]

theorem part_get (h : theirs (FileStore.fileName key) = false) :
    (disk.get fates now key).2.files.part theirs = disk.files.part theirs :=
  (get_follows fates now key disk).part (FileStore.part_get h)

theorem part_set (hclears : ClearsUp fates) (h : theirs (FileStore.fileName key) = false) :
    (disk.set fates now key value lifetime).2.files.part theirs = disk.files.part theirs :=
  (set_follows hclears now key value lifetime disk).part (FileStore.part_set h)

theorem part_erase (h : theirs (FileStore.fileName key) = false) :
    (disk.erase fates key).2.files.part theirs = disk.files.part theirs :=
  (erase_follows fates key disk).part (FileStore.part_erase h)

theorem part_removeIfPresent {name : String} (h : theirs name = false) (disk : Disk) :
    (disk.removeIfPresent fates name).2.files.part theirs = disk.files.part theirs := by
  apply (removeIfPresent_follows fates name disk).part
  exact congrArg (FileStore.mk · _) (FileStore.filter_removeIfPresent h disk.files.directory)

theorem part_removeAll {names : List String} (h : ∀ name ∈ names, theirs name = false)
    (removed : Nat) (disk : Disk) :
    (disk.removeAll fates removed names).2.files.part theirs = disk.files.part theirs := by
  induction names generalizing removed disk with
  | nil => rfl
  | cons name names ih =>
      obtain ⟨hname, hnames⟩ := List.forall_mem_cons.mp h
      have hpart := @part_removeIfPresent fates theirs name hname disk
      rw [removeAll]
      cases hcall : disk.removeIfPresent fates name with
      | mk answer left =>
          rw [hcall] at hpart
          cases answer with
          | error error => exact hpart
          | ok was =>
              cases was with
              | true => exact (ih hnames (removed + 1) left).trans hpart
              | false => exact (ih hnames removed left).trans hpart

theorem part_flush
    (h : ∀ key, Text.startsWith key start = true → theirs (FileStore.fileName key) = false) :
    (disk.flush fates start).2.files.part theirs = disk.files.part theirs := by
  rw [flush]
  cases hcause : (fates disk.calls).cause? with
  | some cause =>
      rw [list, call_of_fails hcause]
      rfl
  | none =>
      rw [list, call_of_succeeds hcause]
      apply part_removeAll
      intro name hname
      obtain ⟨key, hstart, rfl⟩ := FileStore.exists_key_of_doomed (List.mem_filter.mp hname).2
      exact h key hstart

end

end

end Disk

end DynamicContent.Cache
