/-
# Several clients on one directory

Any number of clients call operations on the same directory, and the steps of their scripts interleave
in any way. Only what holds the lock keeps others from a step, and it is held by writes, removals and
flushes only. What is proved of such a run is proved by what one step keeps: a predicate on what is
left of a script, which holds whatever the next step answers.
-/

import DynamicContent.Proofs.Cache.Script
import Mathlib.Logic.Function.Basic

namespace DynamicContent.Cache.FileStore

/-! ## Runs -/

/-- An operation that a client has called, and what is left of it. -/
structure Task where
  op : Operation
  rest : Script

/-- What clients share, and what each of them is doing. -/
structure Clients (ι : Type) where
  shared : Shared ι
  tasks : ι → Option Task

/-- What happens next: time passes or the clock is set, a client calls an operation, goes on with it,
or takes its reply. -/
inductive Event (ι : Type) where
  | ticked (now : Nat)
  | called (c : ι) (op : Operation)
  | went (c : ι)
  | took (c : ι)

variable {ι : Type} [DecidableEq ι] {defaultLifetime : Nat}

/-- Whether what happens next is that a client goes on. -/
def Event.isStepOf (c : ι) : Event ι → Bool
  | went d => c = d
  | _ => false

theorem Event.eq_went_of_isStepOf {c : ι} {event : Event ι}
    (h : event.isStepOf c = true) : event = .went c := by
  cases event with
  | went d => exact of_decide_eq_true h ▸ rfl
  | ticked now | called d op | took d => contradiction

namespace Clients

/-- No client is doing anything. -/
def idle (directory : Directory) (now : Nat) : Clients ι := ⟨⟨directory, now, none⟩, fun _ => none⟩

/-- The system after an event, if that can happen. -/
def step? (defaultLifetime : Nat) (s : Clients ι) : Event ι → Option (Clients ι)
  | .ticked now => some { s with shared := { s.shared with now } }
  | .called c op =>
    match s.tasks c with
    | none =>
      some { s with tasks := Function.update s.tasks c (some ⟨op, op.script defaultLifetime⟩) }
    | some _ => none
  | .went c => do
    let task ← s.tasks c
    let (rest, shared) ← task.rest.step? c s.shared
    some ⟨shared, Function.update s.tasks c (some ⟨task.op, rest⟩)⟩
  | .took c =>
    match s.tasks c with
    | some ⟨_, .done _⟩ => some { s with tasks := Function.update s.tasks c none }
    | _ => none

/-- The system after some events, if they can happen one after the other. -/
def run? (defaultLifetime : Nat) : List (Event ι) → Clients ι → Option (Clients ι)
  | [], s => some s
  | event :: events, s => (s.step? defaultLifetime event).bind (run? defaultLifetime events)

variable {s s' : Clients ι} {c : ι}

theorem run?_cons_eq_some_iff {event : Event ι} {events : List (Event ι)} :
    run? defaultLifetime (event :: events) s = some s' ↔
      ∃ between, s.step? defaultLifetime event = some between ∧
        run? defaultLifetime events between = some s' :=
  Option.bind_eq_some_iff

theorem run?_append (events more : List (Event ι)) (s : Clients ι) :
    run? defaultLifetime (events ++ more) s =
      (run? defaultLifetime events s).bind (run? defaultLifetime more) := by
  induction events generalizing s with
  | nil => rfl
  | cons event events ih =>
      rw [List.cons_append, run?, run?, Option.bind_assoc]
      exact Option.bind_congr fun between _ => ih between

/-- What each event of a run keeps, the run keeps. -/
theorem run?_induction {P : Clients ι → Prop} {events : List (Event ι)}
    (hstep : ∀ event ∈ events, ∀ s s', P s → step? defaultLifetime s event = some s' → P s')
    (hrun : run? defaultLifetime events s = some s') (h : P s) : P s' := by
  induction events generalizing s with
  | nil => exact Option.some.inj hrun ▸ h
  | cons event events ih =>
      obtain ⟨between, hfirst, hrest⟩ := run?_cons_eq_some_iff.mp hrun
      obtain ⟨hhere, hlater⟩ := List.forall_mem_cons.mp hstep
      exact ih hlater hrest (hhere s between h hfirst)

/-- A client that goes on has a task, and makes the next step of it. -/
theorem step?_went_iff : s.step? defaultLifetime (.went c) = some s' ↔
    ∃ op rest next shared, s.tasks c = some ⟨op, rest⟩ ∧
      rest.step? c s.shared = some (next, shared) ∧
        s' = ⟨shared, Function.update s.tasks c (some ⟨op, next⟩)⟩ := by
  simp only [step?, Option.bind_eq_bind, Option.bind_eq_some_iff, Option.some.injEq]
  constructor
  · rintro ⟨⟨op, rest⟩, htask, ⟨next, shared⟩, hstep, rfl⟩
    exact ⟨op, rest, next, shared, htask, hstep, rfl⟩
  · rintro ⟨op, rest, next, shared, htask, hstep, rfl⟩
    exact ⟨⟨op, rest⟩, htask, ⟨next, shared⟩, hstep, rfl⟩

/-- A client that calls an operation is doing nothing, and has the whole of it before it. -/
theorem step?_called_iff {op : Operation} : s.step? defaultLifetime (.called c op) = some s' ↔
    s.tasks c = none ∧
      s' = ⟨s.shared, Function.update s.tasks c (some ⟨op, op.script defaultLifetime⟩)⟩ := by
  rw [step?]
  cases s.tasks c with
  | none => simp [eq_comm]
  | some task => simp

/-- A client that takes a reply has one, and is doing nothing then. -/
theorem step?_took_iff : s.step? defaultLifetime (.took c) = some s' ↔
    ∃ op reply, s.tasks c = some ⟨op, .done reply⟩ ∧
      s' = ⟨s.shared, Function.update s.tasks c none⟩ := by
  rw [step?]
  split
  · next op reply htask => simp [htask, eq_comm]
  · next hnone =>
      constructor
      · nofun
      · rintro ⟨op, reply, htask, -⟩
        exact absurd htask (hnone op reply)

/-- What a client is doing after an event is what it was doing, what the next step of that leaves, or an
operation that it has called. -/
theorem tasks_cases {event : Event ι} (hstep : s.step? defaultLifetime event = some s')
    {op : Operation} {rest : Script} (htask : s'.tasks c = some ⟨op, rest⟩) :
    s.tasks c = some ⟨op, rest⟩ ∨
      (event = .went c ∧ ∃ before shared, s.tasks c = some ⟨op, before⟩ ∧
        before.step? c s.shared = some (rest, shared)) ∨
      event = .called c op ∧ rest = op.script defaultLifetime := by
  cases event with
  | ticked now =>
      obtain rfl := Option.some.inj hstep
      exact .inl htask
  | called d called =>
      obtain ⟨-, rfl⟩ := step?_called_iff.mp hstep
      by_cases hc : c = d
      · subst hc
        obtain ⟨rfl, rfl⟩ : called = op ∧ called.script defaultLifetime = rest := by
          simpa using htask
        exact .inr (.inr ⟨rfl, rfl⟩)
      · exact .inl (by simpa [hc] using htask)
  | went d =>
      obtain ⟨other, before, next, shared, hbefore, hnext, rfl⟩ := step?_went_iff.mp hstep
      by_cases hc : c = d
      · subst hc
        obtain ⟨rfl, rfl⟩ : other = op ∧ next = rest := by simpa using htask
        exact .inr (.inl ⟨rfl, before, shared, hbefore, hnext⟩)
      · exact .inl (by simpa [hc] using htask)
  | took d =>
      obtain ⟨other, reply, -, rfl⟩ := step?_took_iff.mp hstep
      by_cases hc : c = d
      · subst hc
        simp at htask
      · exact .inl (by simpa [hc] using htask)

/-- A client that does not take its reply has the same task after an event, unless it has gone on. -/
theorem task_of_step? {event : Event ι} (hstep : s.step? defaultLifetime event = some s')
    {op : Operation} {rest : Script} (htask : s.tasks c = some ⟨op, rest⟩)
    (hrest : event = .took c → ∀ reply, rest ≠ .done reply) :
    s'.tasks c = some ⟨op, rest⟩ ∨
      event = .went c ∧ ∃ next shared, rest.step? c s.shared = some (next, shared) ∧
        s' = ⟨shared, Function.update s.tasks c (some ⟨op, next⟩)⟩ := by
  cases event with
  | ticked now =>
      obtain rfl := Option.some.inj hstep
      exact .inl htask
  | called d called =>
      obtain ⟨hfree, rfl⟩ := step?_called_iff.mp hstep
      have hc : c ≠ d := by
        rintro rfl
        rw [hfree] at htask
        contradiction
      exact .inl (by simpa [hc] using htask)
  | went d =>
      obtain ⟨other, before, next, shared, hbefore, hnext, rfl⟩ := step?_went_iff.mp hstep
      by_cases hc : c = d
      · subst hc
        obtain ⟨rfl, rfl⟩ : op = other ∧ rest = before := by simpa [htask] using hbefore
        exact .inr ⟨rfl, next, shared, hnext, rfl⟩
      · exact .inl (by simpa [hc] using htask)
  | took d =>
      obtain ⟨other, reply, hdone, rfl⟩ := step?_took_iff.mp hstep
      have hc : c ≠ d := by
        rintro rfl
        rw [htask] at hdone
        exact hrest rfl reply (by simpa using congrArg (Option.map Task.rest) hdone)
      exact .inl (by simpa [hc] using htask)

/-- Only a client that is doing nothing calls an operation. -/
theorem task_of_called {op : Operation} (hstep : s.step? defaultLifetime (.called c op) = some s') :
    s.tasks c = none ∧ s'.tasks c = some ⟨op, op.script defaultLifetime⟩ := by
  obtain ⟨hfree, rfl⟩ := step?_called_iff.mp hstep
  exact ⟨hfree, Function.update_self ..⟩

/-- An event leaves what clients share as it is, or sets the clock, or is the step of a client. -/
theorem shared_cases {event : Event ι} (hstep : s.step? defaultLifetime event = some s') :
    s'.shared = s.shared ∨
      (∃ now, event = .ticked now ∧ s'.shared = { s.shared with now }) ∨
      ∃ c op rest next, event = .went c ∧ s.tasks c = some ⟨op, rest⟩ ∧
        rest.step? c s.shared = some (next, s'.shared) := by
  cases event with
  | ticked now =>
      obtain rfl := Option.some.inj hstep
      exact .inr (.inl ⟨now, rfl, rfl⟩)
  | called d called =>
      obtain ⟨-, rfl⟩ := step?_called_iff.mp hstep
      exact .inl rfl
  | went d =>
      obtain ⟨op, rest, next, shared, htask, hnext, rfl⟩ := step?_went_iff.mp hstep
      exact .inr (.inr ⟨d, op, rest, next, rfl, htask, hnext⟩)
  | took d =>
      obtain ⟨op, reply, -, rfl⟩ := step?_took_iff.mp hstep
      exact .inl rfl

/-- The clock stands still unless it is what the event is about. -/
theorem now_cases {event : Event ι} (hstep : s.step? defaultLifetime event = some s') :
    s'.shared.now = s.shared.now ∨ event = .ticked s'.shared.now := by
  rcases shared_cases hstep with hsame | ⟨now, hevent, hsame⟩ | ⟨c, op, rest, next, -, -, hnext⟩
  · left
    rw [hsame]
  · right
    rw [hsame]
    exact hevent
  · exact .inl (Script.now_of_step? hnext)

theorem now_le_of_step? {event : Event ι} {latest : Nat}
    (hstep : s.step? defaultLifetime event = some s') (h : s.shared.now ≤ latest)
    (hticked : ∀ now, event = .ticked now → now ≤ latest) : s'.shared.now ≤ latest := by
  rcases now_cases hstep with hsame | hevent
  · exact hsame ▸ h
  · exact hticked _ hevent

theorem le_now_of_step? {event : Event ι} {first : Nat}
    (hstep : s.step? defaultLifetime event = some s') (h : first ≤ s.shared.now)
    (hticked : ∀ now, event = .ticked now → first ≤ now) : first ≤ s'.shared.now := by
  rcases now_cases hstep with hsame | hevent
  · exact hsame ▸ h
  · exact hticked _ hevent

/-- A client is in the middle of an operation. -/
def InProgress (s : Clients ι) (c : ι) (op : Operation) : Prop :=
  ∃ rest, s.tasks c = some ⟨op, rest⟩ ∧ ∀ reply, rest ≠ .done reply

/-- A client has the reply of an operation. -/
def Returned (s : Clients ι) (c : ι) (op : Operation) (reply : Reply) : Prop :=
  s.tasks c = some ⟨op, .done reply⟩

/-- In a run from a state a client goes on from some other. -/
def GoesOnFrom (defaultLifetime : Nat) (events : List (Event ι)) (s : Clients ι) (c : ι)
    (moment : Clients ι) : Prop :=
  ∃ front back, events = front ++ .went c :: back ∧
    run? defaultLifetime front s = some moment

theorem goesOnFrom_cons_iff {event : Event ι} {events : List (Event ι)} {moment between : Clients ι}
    (hstep : s.step? defaultLifetime event = some between) :
    GoesOnFrom defaultLifetime (event :: events) s c moment ↔
      (event = .went c ∧ moment = s) ∨ GoesOnFrom defaultLifetime events between c moment := by
  constructor
  · rintro ⟨front, back, hsplit, hmoment⟩
    cases front with
    | nil =>
        obtain ⟨rfl, -⟩ := List.cons.inj hsplit
        exact .inl ⟨rfl, (Option.some.inj hmoment).symm⟩
    | cons first front =>
        obtain ⟨rfl, rfl⟩ := List.cons.inj hsplit
        rw [run?, hstep] at hmoment
        exact .inr ⟨front, back, rfl, hmoment⟩
  · rintro (⟨rfl, rfl⟩ | ⟨front, back, rfl, hmoment⟩)
    · exact ⟨[], events, rfl, rfl⟩
    · exact ⟨event :: front, back, rfl, run?_cons_eq_some_iff.mpr ⟨between, hstep, hmoment⟩⟩

/-! ## A document that stays -/

/-- A client that reads an entry has read its file, and has not taken its reply. -/
def HasRead (key : String) (s : Clients ι) (c : ι) : Prop :=
  ∃ rest, s.tasks c = some ⟨.get key, rest⟩ ∧ rest ≠ .get key

/-- A client that reads an entry is about to remove its file. -/
def Drops (key : String) (s : Clients ι) (c : ι) : Prop :=
  ∃ next, s.tasks c = some ⟨.get key, .remove (fileName key) next⟩

/-- The file of an entry holds a document that is valid as long as the clock shows no later time, or has
been removed. No client that may go on does anything to it, except that it is removed by such as have
read an older one. -/
structure Settled (key : String) (entry : StoredEntry) (latest : Nat) (stale : ι → Prop)
    (s : Clients ι) : Prop where
  parses : (Json.parse? entry.toJson.print).bind StoredEntry.ofJson? = some entry
  valid : (latest : Int) < entry.expiresAt
  read : IsHeldOrGone entry.toJson.print (s.shared.directory.read (fileName key))
  now : s.shared.now ≤ latest
  spares : ∀ c op rest, s.tasks c = some ⟨op, rest⟩ →
    rest.Spares (fileName key) (· ≤ (latest : Int)) (IsHeldOrGone entry.toJson.print)
      (op = .get key ∧ stale c)

section

variable {key : String} {entry : StoredEntry} {latest : Nat} {stale : ι → Prop}

omit [DecidableEq ι] in
theorem Settled.int_now_le (h : s.Settled key entry latest stale) : (s.shared.now : Int) ≤ latest :=
  Int.ofNat_le.mpr h.now

/-- After an event the file is as it was, unless a client that has read an older document removes it. -/
theorem Settled.read_step (h : s.Settled key entry latest stale) {event : Event ι}
    (hstep : s.step? defaultLifetime event = some s') :
    s'.shared.directory.read (fileName key) = s.shared.directory.read (fileName key) ∨
      s'.shared.directory.read (fileName key) = .error .notFound ∧
        ∃ c, event = .went c ∧ stale c ∧ s.Drops key c := by
  rcases shared_cases hstep with hsame | ⟨now, -, hsame⟩ | ⟨c, op, rest, next, rfl, htask, hnext⟩
  · exact .inl (hsame ▸ rfl)
  · exact .inl (hsame ▸ rfl)
  · rcases ((h.spares c op rest htask).step h.int_now_le h.read hnext).2 with
      hsame | ⟨⟨rfl, hstale⟩, ⟨more, rfl⟩, hgone⟩
    · exact .inl hsame
    · exact .inr ⟨hgone, c, rfl, hstale, more, htask⟩

omit [DecidableEq ι] in
/-- An operation that does not change an entry may be called. -/
theorem Settled.spares_script (h : s.Settled key entry latest stale) {op : Operation}
    (hop : ¬ op.Changes key) (c : ι) :
    (op.script defaultLifetime).Spares (fileName key) (· ≤ (latest : Int))
      (IsHeldOrGone entry.toJson.print) (op = .get key ∧ stale c) := by
  by_cases hget : op = .get key
  · subst hget
    exact Script.spares_get_of_valid h.parses fun now hnow => Int.lt_of_le_of_lt hnow h.valid
  · exact (Script.spares_script hop defaultLifetime _ _).mono (fun _ h => h) (fun _ h => h)
      fun heq => absurd heq hget

theorem Settled.step (h : s.Settled key entry latest stale) {event : Event ι}
    (hstep : s.step? defaultLifetime event = some s')
    (hticked : ∀ now, event = .ticked now → now ≤ latest)
    (hcalled : ∀ c op, event = .called c op → ¬ op.Changes key) :
    s'.Settled key entry latest stale := by
  refine ⟨h.parses, h.valid, ?_, now_le_of_step? hstep h.now hticked, fun c op rest htask => ?_⟩
  · rcases h.read_step hstep with hsame | ⟨hgone, -⟩
    · exact hsame ▸ h.read
    · exact .inr hgone
  · rcases tasks_cases hstep htask with hsame | ⟨-, before, shared, hbefore, hnext⟩ | ⟨hcall, rfl⟩
    · exact h.spares c op rest hsame
    · exact ((h.spares c op before hbefore).step h.int_now_le h.read hnext).1
    · exact h.spares_script (hcalled c op hcall) c

/-- What is settled stays so in a run in which no operation is called that would change it. -/
theorem Settled.run {events : List (Event ι)} (hrun : run? defaultLifetime events s = some s')
    (h : s.Settled key entry latest stale) (hticked : ∀ now, .ticked now ∈ events → now ≤ latest)
    (hcalled : ∀ c op, .called c op ∈ events → ¬ op.Changes key) :
    s'.Settled key entry latest stale := by
  refine run?_induction (fun event hevent s s' hs hstep => ?_) hrun h
  exact hs.step hstep (fun now hnow => hticked now (hnow ▸ hevent))
    fun c op hcall => hcalled c op (hcall ▸ hevent)

/-- A client that is about to remove the file leaves none. -/
theorem Settled.gone_of_drops (h : s.Settled key entry latest stale)
    (hstep : s.step? defaultLifetime (.went c) = some s') (hdrops : s.Drops key c) :
    s'.shared.directory.read (fileName key) = .error .notFound := by
  obtain ⟨more, htask⟩ := hdrops
  rcases h.read with hread | hread
  · obtain ⟨left, hremove⟩ := Directory.exists_remove_of_read hread
    obtain ⟨op, rest, next, shared, htask', hnext, rfl⟩ := step?_went_iff.mp hstep
    obtain ⟨rfl, rfl⟩ : _ = op ∧ _ = rest := by simpa [htask] using htask'
    rw [Script.step?, hremove] at hnext
    obtain ⟨-, rfl⟩ := Prod.mk.inj (Option.some.inj hnext)
    exact Directory.read_of_remove hremove
  · rcases h.read_step hstep with hsame | ⟨hgone, -⟩
    · exact hsame.trans hread
    · exact hgone

/-- After an event there is no file if there was none before, or if a client that has read an older
document has removed it. -/
theorem Settled.gone_step_iff (h : s.Settled key entry latest stale) {event : Event ι}
    (hstep : s.step? defaultLifetime event = some s') :
    s'.shared.directory.read (fileName key) = .error .notFound ↔
      s.shared.directory.read (fileName key) = .error .notFound ∨
        ∃ c, event = .went c ∧ stale c ∧ s.Drops key c := by
  constructor
  · intro hgone
    rcases h.read_step hstep with hsame | ⟨-, hdrops⟩
    · exact .inl (hsame ▸ hgone)
    · exact .inr hdrops
  · rintro (hgone | ⟨c, rfl, -, hdrops⟩)
    · rcases h.read_step hstep with hsame | ⟨hgone, -⟩
      · exact hsame.trans hgone
      · exact hgone
    · exact h.gone_of_drops hstep hdrops

/-- After a run there is no file if there was none before, or if a client that has read an older document
has removed it in the run. -/
theorem Settled.gone_iff {events : List (Event ι)} (hrun : run? defaultLifetime events s = some s')
    (h : s.Settled key entry latest stale) (hticked : ∀ now, .ticked now ∈ events → now ≤ latest)
    (hcalled : ∀ c op, .called c op ∈ events → ¬ op.Changes key) :
    s'.shared.directory.read (fileName key) = .error .notFound ↔
      s.shared.directory.read (fileName key) = .error .notFound ∨
        ∃ c moment, stale c ∧ GoesOnFrom defaultLifetime events s c moment ∧ moment.Drops key c := by
  induction events generalizing s with
  | nil =>
      obtain rfl := Option.some.inj hrun
      simp [GoesOnFrom]
  | cons event events ih =>
      obtain ⟨between, hstep, hlater⟩ := run?_cons_eq_some_iff.mp hrun
      have hbetween : between.Settled key entry latest stale :=
        h.step hstep (fun now hnow => hticked now (hnow ▸ List.mem_cons_self))
          fun c op hcall => hcalled c op (hcall ▸ List.mem_cons_self)
      rw [ih hlater hbetween (fun now hnow => hticked now (List.mem_cons_of_mem event hnow))
        fun c op hcall => hcalled c op (List.mem_cons_of_mem event hcall), h.gone_step_iff hstep]
      simp only [goesOnFrom_cons_iff hstep]
      constructor
      · rintro ((hgone | ⟨c, hevent, hstale, hdrops⟩) | ⟨c, moment, hstale, hlater, hdrops⟩)
        · exact .inl hgone
        · exact .inr ⟨c, s, hstale, .inl ⟨hevent, rfl⟩, hdrops⟩
        · exact .inr ⟨c, moment, hstale, .inr hlater, hdrops⟩
      · rintro (hgone | ⟨c, moment, hstale, ⟨hevent, rfl⟩ | hlater, hdrops⟩)
        · exact .inl (.inl hgone)
        · exact .inl (.inr ⟨c, hevent, hstale, hdrops⟩)
        · exact .inr ⟨c, moment, hstale, hlater, hdrops⟩

/-! ## A client that reads -/

/-- A client that reads an entry has found something, and its reply is to be that: it has the reply, or
has yet to see that the document is valid. -/
def HasFound (key : String) (entry : StoredEntry) (found : Option Json) (s : Clients ι) (c : ι) :
    Prop :=
  s.tasks c = some ⟨.get key, .done (.value (.ok found))⟩ ∨
    found = some entry.value ∧ s.tasks c = some ⟨.get key, .judge key entry⟩

/-- What a client has found stays what it is going to reply. -/
theorem HasFound.step {found : Option Json} (h : s.HasFound key entry found c) {event : Event ι}
    (hstep : s.step? defaultLifetime event = some s') (hvalid : (s.shared.now : Int) < entry.expiresAt)
    (htook : event ≠ .took c) : s'.HasFound key entry found c := by
  rcases h with htask | ⟨rfl, htask⟩
  · rcases task_of_step? hstep htask fun h => absurd h htook with
      hsame | ⟨-, next, shared, hnext, -⟩
    · exact .inl hsame
    · contradiction
  · rcases task_of_step? hstep htask fun h => absurd h htook with
      hsame | ⟨-, next, shared, hnext, rfl⟩
    · exact .inr ⟨rfl, hsame⟩
    · rw [Script.judge, Script.step?, if_neg (Int.not_le.mpr hvalid)] at hnext
      obtain ⟨rfl, -⟩ := Prod.mk.inj (Option.some.inj hnext)
      exact .inl (Function.update_self ..)

/-- A client that has found something has its reply after at most one more step. -/
theorem HasFound.returns_soon {found : Option Json} (h : s.HasFound key entry found c)
    (hvalid : (s.shared.now : Int) < entry.expiresAt) :
    ∃ n ≤ 1, ∃ final, run? defaultLifetime (List.replicate n (.went c)) s = some final ∧
      final.Returned c (.get key) (.value (.ok found)) := by
  rcases h with htask | ⟨rfl, htask⟩
  · exact ⟨0, Nat.zero_le 1, s, rfl, htask⟩
  · have hstep : s.step? defaultLifetime (.went c) = some ⟨s.shared, Function.update s.tasks c
        (some ⟨.get key, .done (.value (.ok (some entry.value)))⟩)⟩ := by
      refine step?_went_iff.mpr ⟨_, _, _, _, htask, ?_, rfl⟩
      rw [Script.judge, Script.step?, if_neg (Int.not_le.mpr hvalid)]
    exact ⟨1, le_rfl, _, run?_cons_eq_some_iff.mpr ⟨_, hstep, rfl⟩, Function.update_self ..⟩

/-- A client that reads the file finds what is in it. -/
theorem Settled.exists_hasFound (h : s.Settled key entry latest stale)
    (htask : s.tasks c = some ⟨.get key, .get key⟩) :
    ∃ s' found, s.step? defaultLifetime (.went c) = some s' ∧ s'.shared = s.shared ∧
      s'.HasFound key entry found c ∧
      (s.shared.directory.read (fileName key) ≠ .error .notFound ∧ found = some entry.value ∨
        s.shared.directory.read (fileName key) = .error .notFound ∧ found = none) := by
  have hstep (next : Script) (hnext : (Script.get key).step? c s.shared = some (next, s.shared)) :
      s.step? defaultLifetime (.went c) =
        some ⟨s.shared, Function.update s.tasks c (some ⟨.get key, next⟩)⟩ :=
    step?_went_iff.mpr ⟨_, _, _, _, htask, hnext, rfl⟩
  rcases h.read with hread | hread
  · refine ⟨_, some entry.value, hstep (.judge key entry) ?_, rfl,
      .inr ⟨rfl, Function.update_self ..⟩, .inl ⟨by rw [hread]; nofun, rfl⟩⟩
    rw [Script.get, Script.step?, hread]
    dsimp only
    rw [h.parses]
  · refine ⟨_, none, hstep (.done (.value (.ok none))) ?_, rfl,
      .inl (Function.update_self ..), .inr ⟨hread, rfl⟩⟩
    rw [Script.get, Script.step?, hread]

end

/-! ## A write -/

section

variable {key : String} {value : Json} {lifetime first : Nat} {w : ι}

/-- The script of a write up to the step that puts its document in place. The clock showed some time or
later when it was read. -/
inductive Writing (defaultLifetime : Nat) (key : String) (value : Json) (lifetime first : Nat) :
    Script → Prop where
  | called : Writing defaultLifetime key value lifetime first
      (.set defaultLifetime key value lifetime)
  | waiting {now : Nat} (h : first ≤ now) : Writing defaultLifetime key value lifetime first
      (.lock (.write (document defaultLifetime key value lifetime now)))
  | ready {now : Nat} (h : first ≤ now) : Writing defaultLifetime key value lifetime first
      (.write (document defaultLifetime key value lifetime now))

theorem Writing.ne_done {rest : Script} (h : Writing defaultLifetime key value lifetime first rest)
    (reply : Reply) : rest ≠ .done reply := by
  cases h <;> exact fun h => by contradiction

omit [DecidableEq ι] in
/-- The step that is to put a document in place does that, or fails to. -/
theorem step?_write {entry : StoredEntry} {next : Script} {shared shared' : Shared ι}
    (hstep : (Script.write entry).step? w shared = some (next, shared')) :
    (next = .leave (.stored (.ok ())) ∧
        shared'.directory.read (fileName entry.key) = .ok entry.toJson.print) ∨
      ∃ error, next = .leave (.stored (.error error)) := by
  rw [Script.write, Script.step?] at hstep
  split at hstep
  · next directory hreplace =>
      obtain ⟨rfl, rfl⟩ := Prod.mk.inj (Option.some.inj hstep)
      exact .inl ⟨rfl, Directory.read_of_replace hreplace⟩
  · next error _ =>
      obtain ⟨rfl, -⟩ := Prod.mk.inj (Option.some.inj hstep)
      cases error <;> exact .inr ⟨_, rfl⟩

omit [DecidableEq ι] in
/-- A step brings a write nearer to putting its document in place, or does that, or fails to. -/
theorem Writing.step {rest next : Script} {shared shared' : Shared ι}
    (h : Writing defaultLifetime key value lifetime first rest) (hnow : first ≤ shared.now)
    (hstep : rest.step? w shared = some (next, shared')) :
    Writing defaultLifetime key value lifetime first next ∨
      ∃ now : Nat, rest = .write (document defaultLifetime key value lifetime now) ∧
        (next = .leave (.stored (.ok ())) ∨ ∃ error, next = .leave (.stored (.error error))) := by
  cases h with
  | called =>
      obtain ⟨rfl, -⟩ := Prod.mk.inj (Option.some.inj hstep)
      exact .inl (.waiting hnow)
  | waiting h =>
      rw [Script.step?] at hstep
      split at hstep
      · obtain ⟨rfl, -⟩ := Prod.mk.inj (Option.some.inj hstep)
        exact .inl (.ready h)
      · contradiction
  | @ready now h => exact .inr ⟨now, rfl, (step?_write hstep).imp_left And.left⟩

/-- Where a write has failed, it will not have succeeded later. -/
theorem not_returned_of_failed {events : List (Event ι)} (hrun : run? defaultLifetime events s = some s')
    (hcalls : ∀ op, .called w op ∈ events → ¬ op.Changes key)
    (hfailed : ∀ op rest, s.tasks w = some ⟨op, rest⟩ → op.Changes key →
      ∃ error, rest = .leave (.stored (.error error)) ∨ rest = .done (.stored (.error error))) :
    ¬ s'.Returned w (.set key value lifetime) (.stored (.ok ())) := by
  have hlater : ∀ op rest, s'.tasks w = some ⟨op, rest⟩ → op.Changes key →
      ∃ error, rest = .leave (.stored (.error error)) ∨ rest = .done (.stored (.error error)) := by
    refine run?_induction (P := fun s => ∀ op rest, s.tasks w = some ⟨op, rest⟩ → op.Changes key →
      ∃ error, rest = .leave (.stored (.error error)) ∨ rest = .done (.stored (.error error)))
      (fun event hevent s s' hs hstep op rest htask hop => ?_) hrun hfailed
    rcases tasks_cases hstep htask with hsame | ⟨-, before, shared, hbefore, hnext⟩ | ⟨rfl, -⟩
    · exact hs op rest hsame hop
    · obtain ⟨error, rfl | rfl⟩ := hs op before hbefore hop
      · obtain ⟨rfl, -⟩ : Script.done (.stored (.error error)) = rest ∧ _ = shared := by
          simpa [Script.leave, Script.step?] using hnext
        exact ⟨error, .inr rfl⟩
      · contradiction
    · exact absurd hop (hcalls op hevent)
  intro hreturned
  obtain ⟨error, heq | heq⟩ := hlater _ _ hreturned rfl
  · contradiction
  · simp at heq

/-- At some moment of a run a write puts its document in place. -/
def Places (defaultLifetime : Nat) (w : ι) (key : String) (value : Json) (lifetime : Nat)
    (events : List (Event ι)) (s s' : Clients ι) : Prop :=
  ∃ front back moment placed, ∃ now : Nat,
    events = front ++ .went w :: back ∧
    run? defaultLifetime front s = some moment ∧
    moment.tasks w = some ⟨.set key value lifetime,
      .write (document defaultLifetime key value lifetime now)⟩ ∧
    moment.step? defaultLifetime (.went w) = some placed ∧
    run? defaultLifetime back placed = some s'

theorem Places.cons {event : Event ι} {events : List (Event ι)} {between : Clients ι}
    (hstep : s.step? defaultLifetime event = some between)
    (h : Places defaultLifetime w key value lifetime events between s') :
    Places defaultLifetime w key value lifetime (event :: events) s s' := by
  obtain ⟨front, back, moment, placed, now, rfl, hfront, hmoment⟩ := h
  exact ⟨event :: front, back, moment, placed, now, rfl,
    run?_cons_eq_some_iff.mpr ⟨between, hstep, hfront⟩, hmoment⟩

/-- A write that has succeeded has put its document in place. -/
theorem places_of_returned {events : List (Event ι)} (hrun : run? defaultLifetime events s = some s')
    (hcalls : ∀ op, .called w op ∈ events → ¬ op.Changes key) {rest : Script}
    (htask : s.tasks w = some ⟨.set key value lifetime, rest⟩)
    (hrest : Writing defaultLifetime key value lifetime 0 rest)
    (hreturned : s'.Returned w (.set key value lifetime) (.stored (.ok ()))) :
    Places defaultLifetime w key value lifetime events s s' := by
  induction events generalizing s rest with
  | nil =>
      obtain rfl := Option.some.inj hrun
      rw [hreturned] at htask
      exact absurd (by simpa using htask.symm) (hrest.ne_done (.stored (.ok ())))
  | cons event events ih =>
      obtain ⟨between, hstep, hlater⟩ := run?_cons_eq_some_iff.mp hrun
      have hcalls' : ∀ op, .called w op ∈ events → ¬ op.Changes key := fun op hop =>
        hcalls op (List.mem_cons_of_mem event hop)
      rcases task_of_step? hstep htask fun _ => hrest.ne_done with
        hsame | ⟨rfl, next, shared, hnext, rfl⟩
      · exact (ih hlater hcalls' hsame hrest).cons hstep
      · rcases hrest.step (Nat.zero_le _) hnext with
          hmore | ⟨now, rfl, rfl | ⟨error, rfl⟩⟩
        · exact (ih hlater hcalls' (Function.update_self ..) hmore).cons hstep
        · exact ⟨[], events, s, _, now, rfl, rfl, htask, hstep, hlater⟩
        · refine absurd hreturned (not_returned_of_failed hlater hcalls' ?_)
          intro op rest hop _
          obtain ⟨rfl, rfl⟩ : _ = op ∧ _ = rest := by simpa using hop
          exact ⟨error, .inl rfl⟩

/-! ## Other clients -/

/-- What a client that does not change an entry has left to do leaves its file alone, unless it reads
the entry and drops it. -/
def Apart (key : String) (s : Clients ι) : Prop :=
  ∀ c op rest, s.tasks c = some ⟨op, rest⟩ → op.Changes key ∨
    rest.Spares (fileName key) (fun _ => True) (fun _ => True) (op = .get key)

theorem Apart.run {events : List (Event ι)} (h : s.Apart key)
    (hrun : run? defaultLifetime events s = some s') : s'.Apart key := by
  refine run?_induction (fun event _ s s' hs hstep c op rest htask => ?_) hrun h
  rcases tasks_cases hstep htask with hsame | ⟨-, before, shared, hbefore, hnext⟩ | ⟨-, rfl⟩
  · exact hs c op rest hsame
  · rcases hs c op before hbefore with hop | hspares
    · exact .inl hop
    · exact .inr (hspares.step trivial trivial hnext).1
  · by_cases hchanges : op.Changes key
    · exact .inl hchanges
    · exact .inr (Script.spares_script hchanges defaultLifetime _ _)

/-- Only one client is in the middle of an operation that changes an entry. -/
def OnlyChanger (key : String) (w : ι) (s : Clients ι) : Prop :=
  ∀ c op, s.InProgress c op → c ≠ w → ¬ op.Changes key

theorem OnlyChanger.run {events : List (Event ι)} (h : s.OnlyChanger key w)
    (hcalls : ∀ c op, .called c op ∈ events → ¬ op.Changes key)
    (hrun : run? defaultLifetime events s = some s') : s'.OnlyChanger key w := by
  refine run?_induction (fun event hevent s s' hs hstep c op hprogress hc => ?_) hrun h
  obtain ⟨rest, htask, hrest⟩ := hprogress
  rcases tasks_cases hstep htask with hsame | ⟨-, before, shared, hbefore, hnext⟩ | ⟨rfl, -⟩
  · exact hs c op ⟨rest, hsame, hrest⟩ hc
  · refine hs c op ⟨before, hbefore, ?_⟩ hc
    rintro reply rfl
    contradiction
  · exact hcalls c op hevent

theorem now_le_of_run? {events : List (Event ι)} {latest : Nat} (h : s.shared.now ≤ latest)
    (hticked : ∀ now, .ticked now ∈ events → now ≤ latest)
    (hrun : run? defaultLifetime events s = some s') : s'.shared.now ≤ latest :=
  run?_induction (fun _ hevent _ _ hs hstep =>
    now_le_of_step? hstep hs fun now hnow => hticked now (hnow ▸ hevent)) hrun h

/-- The document of a write that is valid beyond some time is read back from its text. -/
theorem ofJson?_parse?_document {now : Int} {latest : Nat} (hvalue : value.IsExact)
    (hdeep : value.depth + 1 < Json.depthLimit)
    (hvalid : (latest : Int) < (document defaultLifetime key value lifetime now).expiresAt) :
    (Json.parse? (document defaultLifetime key value lifetime now).toJson.print).bind
      StoredEntry.ofJson? = some (document defaultLifetime key value lifetime now) := by
  have hlow : Number.int64Min ≤ (document defaultLifetime key value lifetime now).expiresAt := by
    rw [Number.int64Min]
    omega
  exact ofJson?_parse? hvalue hdeep hlow (Int.min_le_right _ _)

/-- A document that was put in place stays there as long as it is valid, unless a client that has read
the file before removes it. -/
theorem settled_of_placed {entry : StoredEntry} {latest : Nat} {moment placed : Clients ι}
    (hapart : moment.Apart key) (honly : moment.OnlyChanger key w)
    (htask : moment.tasks w = some ⟨.set key value lifetime, .write entry⟩)
    (hstep : moment.step? defaultLifetime (.went w) = some placed)
    (hread : placed.shared.directory.read (fileName key) = .ok entry.toJson.print)
    (hnow : placed.shared.now ≤ latest)
    (hentry : (Json.parse? entry.toJson.print).bind StoredEntry.ofJson? = some entry)
    (hvalid : (latest : Int) < entry.expiresAt) :
    placed.Settled key entry latest (placed.HasRead key) := by
  refine ⟨hentry, hvalid, .inl hread, hnow, fun c op rest hrest => ?_⟩
  by_cases hstale : op = .get key ∧ rest = .get key
  -- A read that has not begun finds the new document.
  · obtain ⟨rfl, rfl⟩ := hstale
    exact Script.spares_get_of_valid hentry fun now hnow => Int.lt_of_le_of_lt hnow hvalid
  · have hdrops (hget : op = .get key) : op = .get key ∧ placed.HasRead key c := by
      subst hget
      exact ⟨rfl, rest, hrest, fun heq => hstale ⟨rfl, heq⟩⟩
    obtain ⟨op', rest', next, shared, htask', hnext, rfl⟩ := step?_went_iff.mp hstep
    by_cases hc : c = w
    -- The writer does nothing to the directory any more.
    · subst hc
      obtain ⟨rfl, rfl⟩ : _ = op' ∧ _ = rest' := by simpa [htask] using htask'
      obtain ⟨rfl, rfl⟩ : _ = op ∧ next = rest := by simpa using hrest
      rw [Script.write, Script.step?] at hnext
      split at hnext <;>
      · obtain ⟨rfl, -⟩ : _ = next ∧ _ = shared := by simpa using hnext
        trivial
    · replace hrest : moment.tasks c = some ⟨op, rest⟩ := by simpa [hc] using hrest
      by_cases hdone : ∃ reply, rest = .done reply
      · obtain ⟨reply, rfl⟩ := hdone
        trivial
      · have hchanges : ¬ op.Changes key :=
          honly c op ⟨rest, hrest, fun reply heq => hdone ⟨reply, heq⟩⟩ hc
        rcases hapart c op rest hrest with hop | hspares
        · exact absurd hop hchanges
        · exact hspares.mono (fun _ _ => trivial) (fun _ _ => trivial) hdrops

end

end Clients

end DynamicContent.Cache.FileStore
