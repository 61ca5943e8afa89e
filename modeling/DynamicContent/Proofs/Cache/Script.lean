/-
# The operations on files, step by step

Each operation of a store in files asks the file system for several things: to read a file, to remove
one, to put one in its place, to list the directory. Each of these happens at once, but between two
of them others may do something. Here an operation is a script of such steps, in which the answer to
each decides how it goes on. A script in which nobody else intervenes does what the operation does, so
the scripts are those of the operations and not of something like them.

Writes, removals and flushes hold a lock while they change the directory. Reading does not, although it
removes an entry that has expired.
-/

import DynamicContent.Proofs.Cache.Part

namespace DynamicContent.Cache.FileStore

/-! ## Operations -/

/-- An operation on the entries. -/
inductive Operation where
  | get (key : String)
  | set (key : String) (value : Json) (lifetime : Nat)
  | erase (key : String)
  | flush (start : String)

/-- What an operation returns. -/
inductive Reply where
  | value (answer : Except CacheError (Option Json))
  | stored (answer : Except CacheError Unit)
  | removed (answer : Except CacheError Bool)
  | flushed (answer : Except CacheError Nat)

/-- What an operation does at one moment. -/
def perform (now : Int) (store : FileStore) : Operation → Reply × FileStore
  | .get key => ((store.get now key).map .value id)
  | .set key value lifetime => ((store.set now key value lifetime).map .stored id)
  | .erase key => ((store.erase key).map .removed id)
  | .flush start => ((store.flush start).map .flushed id)

namespace Operation

/-- Whether an operation writes or removes the entry under a key, expired or not. -/
def Changes (key : String) : Operation → Prop
  | get _ => False
  | set other _ _ => other = key
  | erase other => other = key
  | flush start => Text.startsWith key start = true

instance (key : String) : (op : Operation) → Decidable (op.Changes key)
  | get _ => inferInstanceAs (Decidable False)
  | set other _ _ => inferInstanceAs (Decidable (other = key))
  | erase other => inferInstanceAs (Decidable (other = key))
  | flush start => inferInstanceAs (Decidable (Text.startsWith key start = true))

end Operation

/-! ## Scripts -/

/-- What is left to do of an operation: to read the clock, to read or remove a file, to put the document
of an entry in its place, to list the directory, and to keep others from changing it or let them. -/
inductive Script where
  | done (reply : Reply)
  | clock (next : Int → Script)
  | read (name : String) (next : Except StepError String → Script)
  | remove (name : String) (next : Except StepError Unit → Script)
  | place (entry : StoredEntry) (next : Except StepError Unit → Script)
  | list (next : List String → Script)
  | lock (next : Script)
  | unlock (next : Script)

/-- Whether there was a file to remove. -/
def removal : Except StepError Unit → Except CacheError Bool
  | .ok () => .ok true
  | .error .notFound => .ok false
  | .error error => .error (failure error)

/-- Whether a file was put in its place. -/
def storage (key : String) : Except StepError Unit → Except CacheError Unit
  | .ok () => .ok ()
  | .error .notFound => .error (.persist key "No such file or directory (os error 2)")
  | .error (.other cause) => .error (.persist key cause)

/-- Whether a flush removes the file with a name. -/
def isDoomed (start name : String) : Bool :=
  (keyOfName? name).any fun key => Text.startsWith key start

/-- The document that is written at some time. -/
def document (defaultLifetime : Nat) (key : String) (value : Json) (lifetime : Nat) (now : Int) :
    StoredEntry :=
  Deposit.document defaultLifetime key ⟨value, now, lifetime⟩

namespace Script

/-- To remove an entry that was found expired. -/
def drop (key : String) : Script :=
  .remove (fileName key) fun answer => .done (.value ((removal answer).map fun _ => none))

/-- To return what a document says, or to drop it. -/
def judge (key : String) (entry : StoredEntry) : Script :=
  .clock fun now =>
    if entry.expiresAt ≤ now then drop key else .done (.value (.ok (some entry.value)))

/-- To read an entry. -/
def get (key : String) : Script :=
  .read (fileName key) fun answer =>
    match answer with
    | .error .notFound => .done (.value (.ok none))
    | .error error => .done (.value (.error (failure error)))
    | .ok content =>
      match (Json.parse? content).bind StoredEntry.ofJson? with
      | none => .done (.value (.error (.payload "invalid entry")))
      | some entry => judge key entry

/-- To let others change the directory, and return. -/
def leave (reply : Reply) : Script := .unlock (.done reply)

/-- To put the document of an entry in its place. -/
def write (entry : StoredEntry) : Script :=
  .place entry fun answer => leave (.stored (storage entry.key answer))

/-- To write an entry. The end of its validity is known before others are locked out. -/
def set (defaultLifetime : Nat) (key : String) (value : Json) (lifetime : Nat) : Script :=
  .clock fun now => .lock (write (document defaultLifetime key value lifetime now))

/-- To remove an entry. -/
def erase (key : String) : Script :=
  .lock (.remove (fileName key) fun answer => leave (.removed (removal answer)))

/-- To remove the files with the given names up to the first that cannot be removed. -/
def removeEach (removed : Nat) : List String → Script
  | [] => leave (.flushed (.ok removed))
  | name :: names => .remove name fun answer =>
    match removal answer with
    | .ok true => removeEach (removed + 1) names
    | .ok false => removeEach removed names
    | .error error => leave (.flushed (.error error))

/-- To remove the entries whose keys begin with a text. -/
def flush (start : String) : Script :=
  .lock (.list fun names => removeEach 0 (names.filter (isDoomed start)))

end Script

/-- The script of an operation. -/
def Operation.script (defaultLifetime : Nat) : Operation → Script
  | get key => .get key
  | set key value lifetime => .set defaultLifetime key value lifetime
  | erase key => .erase key
  | flush start => .flush start

/-! ## Steps -/

/-- What several clients share: the directory, the seconds that the clock shows, and the client that holds
the lock. -/
structure Shared (ι : Type) where
  directory : Directory
  now : Nat
  holder : Option ι

/-- The next step of a client in its script, and what it changes. A lock that somebody holds is waited
for. -/
def Script.step? {ι : Type} (c : ι) (shared : Shared ι) : Script → Option (Script × Shared ι)
  | done _ => none
  | clock next => some (next shared.now, shared)
  | read name next => some (next (shared.directory.read name), shared)
  | remove name next =>
    match shared.directory.remove name with
    | .ok directory => some (next (.ok ()), { shared with directory })
    | .error error => some (next (.error error), shared)
  | place entry next =>
    match shared.directory.replace (fileName entry.key) entry.toJson.print with
    | .ok directory => some (next (.ok ()), { shared with directory })
    | .error error => some (next (.error error), shared)
  | list next => some (next shared.directory.names, shared)
  | lock next =>
    match shared.holder with
    | none => some (next, { shared with holder := some c })
    | some _ => none
  | unlock next => some (next, { shared with holder := none })

/-- No step of a client changes what the clock shows. -/
theorem Script.now_of_step? {ι : Type} {c : ι} {script next : Script} {shared shared' : Shared ι}
    (h : script.step? c shared = some (next, shared')) : shared'.now = shared.now := by
  cases script with
  | done reply => contradiction
  | lock more =>
      rw [step?] at h
      split at h
      · obtain ⟨-, rfl⟩ := Prod.mk.inj (Option.some.inj h)
        rfl
      · contradiction
  | remove other more | place entry more =>
      rw [step?] at h
      split at h <;>
      · obtain ⟨-, rfl⟩ := Prod.mk.inj (Option.some.inj h)
        rfl
  | clock more | read other more | list more | unlock more =>
      obtain ⟨-, rfl⟩ := Prod.mk.inj (Option.some.inj h)
      rfl

/-- The reply of a script in which no other client intervenes. -/
inductive Script.Yields {ι : Type} (c : ι) : Script → Shared ι → Reply → Shared ι → Prop where
  | done (reply : Reply) (shared : Shared ι) : Yields c (.done reply) shared reply shared
  | step {script next : Script} {shared between after : Shared ι} {reply : Reply}
      (hstep : script.step? c shared = some (next, between))
      (hrest : Yields c next between reply after) : Yields c script shared reply after

section

variable {ι : Type} {c : ι} {directory : Directory} {now : Nat}

theorem Script.yields_leave (reply : Reply) :
    (leave reply).Yields c ⟨directory, now, some c⟩ reply ⟨directory, now, none⟩ :=
  .step rfl (.done _ _)

/-- The result of removing a file, with what is left. -/
theorem removeIfPresent_eq_removal (name : String) (directory : Directory) :
    removeIfPresent name directory =
      match directory.remove name with
      | .ok directory => (removal (.ok ()), directory)
      | .error error => (removal (.error error), directory) := by
  rw [removeIfPresent]
  cases directory.remove name with
  | ok left => rfl
  | error error => cases error <;> rfl

theorem Script.yields_removeEach (names : List String) (removed : Nat) (directory : Directory) :
    (removeEach removed names).Yields c ⟨directory, now, some c⟩
      (.flushed (removeAll removed names directory).1)
      ⟨(removeAll removed names directory).2, now, none⟩ := by
  induction names generalizing removed directory with
  | nil => exact yields_leave _
  | cons name names ih =>
      rw [removeAll, removeIfPresent_eq_removal, removeEach]
      cases hremove : directory.remove name with
      | ok left =>
          refine .step (by rw [step?, hremove]) ?_
          exact ih (removed + 1) left
      | error error =>
          refine .step (by rw [step?, hremove]) ?_
          cases error with
          | notFound => exact ih removed directory
          | other cause => exact yields_leave _

theorem Script.yields_get (key : String) (store : FileStore) :
    (get key).Yields c ⟨store.directory, now, none⟩ (.value (store.get now key).1)
      ⟨(store.get now key).2.directory, now, none⟩ := by
  refine .step rfl ?_
  rw [FileStore.get]
  split
  · next hread =>
      rw [hread]
      exact .done _ _
  · next error hother hread =>
      rw [hread]
      cases error with
      | notFound => exact absurd rfl hother
      | other cause => exact .done _ _
  · next content hread =>
      rw [hread]
      dsimp only
      cases (Json.parse? content).bind StoredEntry.ofJson? with
      | none => exact .done _ _
      | some entry =>
          refine .step rfl ?_
          dsimp only
          by_cases hexpired : entry.expiresAt ≤ now
          · rw [if_pos hexpired, if_pos hexpired, removeIfPresent_eq_removal]
            cases hremove : store.directory.remove (fileName key) with
            | ok left => exact .step (by rw [drop, step?, hremove]) (.done _ _)
            | error error => exact .step (by rw [drop, step?, hremove]) (.done _ _)
          · rw [if_neg hexpired, if_neg hexpired]
            exact .done _ _

theorem Script.yields_set (key : String) (value : Json) (lifetime : Nat) (store : FileStore) :
    (set store.defaultLifetime key value lifetime).Yields c ⟨store.directory, now, none⟩
      (.stored (store.set now key value lifetime).1)
      ⟨(store.set now key value lifetime).2.directory, now, none⟩ := by
  refine .step rfl (.step rfl ?_)
  rw [FileStore.set, write, document, Deposit.document]
  generalize (if lifetime = 0 then store.defaultLifetime else lifetime) = span
  dsimp only
  split
  · next hreplace => exact .step (by rw [step?, hreplace]; rfl) (yields_leave _)
  · next hreplace => exact .step (by rw [step?, hreplace]; rfl) (yields_leave _)
  · next hreplace => exact .step (by rw [step?, hreplace]; rfl) (yields_leave _)

theorem Script.yields_erase (key : String) (store : FileStore) :
    (erase key).Yields c ⟨store.directory, now, none⟩ (.removed (store.erase key).1)
      ⟨(store.erase key).2.directory, now, none⟩ := by
  refine .step rfl ?_
  rw [FileStore.erase, removeIfPresent_eq_removal]
  cases hremove : store.directory.remove (fileName key) with
  | ok left => exact .step (by rw [step?, hremove]) (yields_leave _)
  | error error => exact .step (by rw [step?, hremove]) (yields_leave _)

/-- An operation in which no other client intervenes does what it does at one moment. -/
theorem Operation.yields_script (op : Operation) (store : FileStore) :
    (op.script store.defaultLifetime).Yields c ⟨store.directory, now, none⟩
      (store.perform now op).1 ⟨(store.perform now op).2.directory, now, none⟩ := by
  cases op with
  | get key => exact Script.yields_get key store
  | set key value lifetime => exact Script.yields_set key value lifetime store
  | erase key => exact Script.yields_erase key store
  | flush start => exact .step rfl (.step rfl (Script.yields_removeEach _ 0 store.directory))

end

/-! ## What a script leaves alone -/

/-- A file holds what it held, or has been removed. -/
def IsHeldOrGone (content : String) (answer : Except StepError String) : Prop :=
  answer = .ok content ∨ answer = .error .notFound

namespace Script

/-- Whatever the steps answer, a script puts nothing in the place of the file with a name, and removes
the file only if it may drop it. The clock shows only such times, and reading the name gives only such
answers. -/
def Spares (name : String) (times : Int → Prop) (answers : Except StepError String → Prop)
    (drops : Prop) : Script → Prop
  | done _ => True
  | clock next => ∀ now, times now → (next now).Spares name times answers drops
  | read other next => ∀ answer, (other = name → answers answer) →
      (next answer).Spares name times answers drops
  | remove other next => (other = name → drops) ∧
      ∀ answer, (next answer).Spares name times answers drops
  | place entry next => fileName entry.key ≠ name ∧
      ∀ answer, (next answer).Spares name times answers drops
  | list next => ∀ names, (next names).Spares name times answers drops
  | lock next => next.Spares name times answers drops
  | unlock next => next.Spares name times answers drops

section

variable {name : String} {times times' : Int → Prop}
  {answers answers' : Except StepError String → Prop} {drops drops' : Prop}

theorem Spares.mono {script : Script} (h : script.Spares name times answers drops)
    (htimes : ∀ now, times' now → times now) (hanswers : ∀ answer, answers' answer → answers answer)
    (hdrops : drops → drops') : script.Spares name times' answers' drops' := by
  induction script with
  | done reply => trivial
  | clock next ih => exact fun now hnow => ih now (h now (htimes now hnow))
  | read other next ih =>
      exact fun answer hanswer => ih answer (h answer fun hname => hanswers answer (hanswer hname))
  | remove other next ih =>
      exact ⟨fun hname => hdrops (h.1 hname), fun answer => ih answer (h.2 answer)⟩
  | place entry next ih => exact ⟨h.1, fun answer => ih answer (h.2 answer)⟩
  | list next ih => exact fun names => ih names (h names)
  | lock next ih => exact ih h
  | unlock next ih => exact ih h

/-- What a step of such a script leaves is such a script, and the file is as it was, unless the step
removes it. -/
theorem Spares.step {ι : Type} {c : ι} {script next : Script} {shared shared' : Shared ι}
    (h : script.Spares name times answers drops) (hnow : times shared.now)
    (hread : answers (shared.directory.read name))
    (hstep : script.step? c shared = some (next, shared')) :
    next.Spares name times answers drops ∧
      (shared'.directory.read name = shared.directory.read name ∨
        drops ∧ (∃ more, script = .remove name more) ∧
          shared'.directory.read name = .error .notFound) := by
  cases script with
  | done reply => contradiction
  | clock more =>
      obtain ⟨rfl, rfl⟩ : more shared.now = next ∧ shared = shared' := by simpa [step?] using hstep
      exact ⟨h _ hnow, .inl rfl⟩
  | read other more =>
      obtain ⟨rfl, rfl⟩ : more (shared.directory.read other) = next ∧ shared = shared' := by
        simpa [step?] using hstep
      exact ⟨h _ fun hname => hname ▸ hread, .inl rfl⟩
  | remove other more =>
      rw [step?] at hstep
      split at hstep
      · next left hremove =>
          obtain ⟨rfl, rfl⟩ : more (.ok ()) = next ∧ { shared with directory := left } = shared' := by
            simpa using hstep
          refine ⟨h.2 _, ?_⟩
          by_cases hname : other = name
          · subst hname
            exact .inr ⟨h.1 rfl, ⟨more, rfl⟩, Directory.read_of_remove hremove⟩
          · exact .inl (Directory.read_of_remove_of_ne hname hremove)
      · next error _ =>
          obtain ⟨rfl, rfl⟩ : more (.error error) = next ∧ shared = shared' := by
            simpa using hstep
          exact ⟨h.2 _, .inl rfl⟩
  | place entry more =>
      rw [step?] at hstep
      split at hstep
      · next left hreplace =>
          obtain ⟨rfl, rfl⟩ : more (.ok ()) = next ∧ { shared with directory := left } = shared' := by
            simpa using hstep
          exact ⟨h.2 _, .inl (Directory.read_of_replace_of_ne h.1 hreplace)⟩
      · next error _ =>
          obtain ⟨rfl, rfl⟩ : more (.error error) = next ∧ shared = shared' := by
            simpa using hstep
          exact ⟨h.2 _, .inl rfl⟩
  | list more =>
      obtain ⟨rfl, rfl⟩ : more shared.directory.names = next ∧ shared = shared' := by
        simpa [step?] using hstep
      exact ⟨h _, .inl rfl⟩
  | lock more =>
      rw [step?] at hstep
      split at hstep
      · obtain ⟨rfl, rfl⟩ : more = next ∧ { shared with holder := some c } = shared' := by
          simpa using hstep
        exact ⟨h, .inl rfl⟩
      · contradiction
  | unlock more =>
      obtain ⟨rfl, rfl⟩ : more = next ∧ { shared with holder := none } = shared' := by
        simpa [step?] using hstep
      exact ⟨h, .inl rfl⟩

theorem spares_removeEach {names : List String} (hnames : name ∉ names) (removed : Nat) :
    (removeEach removed names).Spares name times answers drops := by
  induction names generalizing removed with
  | nil => trivial
  | cons other names ih =>
      rw [List.mem_cons, not_or] at hnames
      refine ⟨fun hname => absurd hname.symm hnames.1, fun answer => ?_⟩
      dsimp only
      split
      · exact ih hnames.2 _
      · exact ih hnames.2 _
      · trivial

/-- A read whose own file may be dropped does nothing else to any file. -/
theorem spares_get (key : String) (hdrops : fileName key = name → drops) :
    (get key).Spares name times answers drops := by
  intro answer _
  dsimp only
  split
  · trivial
  · trivial
  · split
    · trivial
    · intro now _
      dsimp only
      split
      · exact ⟨hdrops, fun _ => trivial⟩
      · trivial

/-- A read that finds a document which is valid at all times that the clock shows, or finds nothing,
does not drop it. -/
theorem spares_get_of_valid {key content : String} {entry : StoredEntry}
    (hentry : (Json.parse? content).bind StoredEntry.ofJson? = some entry)
    (hvalid : ∀ now, times now → now < entry.expiresAt) :
    (get key).Spares (fileName key) times (IsHeldOrGone content) drops := by
  intro answer hanswer
  rcases hanswer rfl with rfl | rfl
  · dsimp only
    rw [hentry]
    intro now hnow
    dsimp only
    rw [if_neg (Int.not_le.mpr (hvalid now hnow))]
    trivial
  · trivial

end

/-- An operation that does not change an entry leaves its file alone, unless it reads the entry. -/
theorem spares_script {key : String} {op : Operation} (hchanges : ¬ op.Changes key)
    (defaultLifetime : Nat) (times : Int → Prop) (answers : Except StepError String → Prop) :
    (op.script defaultLifetime).Spares (fileName key) times answers (op = .get key) := by
  cases op with
  | get other => exact spares_get other fun hname => fileName_inj.mp hname ▸ rfl
  | set other value lifetime =>
      exact fun now _ => ⟨mt fileName_inj.mp hchanges, fun _ => trivial⟩
  | erase other => exact ⟨fun hname => absurd (fileName_inj.mp hname) hchanges, fun _ => trivial⟩
  | flush start =>
      intro names
      refine spares_removeEach (fun hmem => ?_) 0
      obtain ⟨found, hstart, hname⟩ := exists_key_of_doomed (List.mem_filter.mp hmem).2
      exact hchanges (fileName_inj.mp hname ▸ hstart)

end Script

end DynamicContent.Cache.FileStore
