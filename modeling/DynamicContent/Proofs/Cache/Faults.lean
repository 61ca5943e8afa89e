/-
# A cache outlives its backend

No operation of a cache fails, even if the backend does. Let the backend be a map each of whose calls
may fail, in a way that nobody can foresee: a read, a write or a removal that fails leaves the entries
alone, while a flush may have removed any of those it was to remove. How the calls fail is given by one
stream, one element for each call, so a statement about every stream is one about all patterns of
failure.

Those who use the cache see only what its operations return. From that a history is kept, and what the
map holds is told by it: under each stored key the value of the last write that was said to have taken
place, unless a removal or a flush came since. This holds at the beginning and is kept by each
operation, so it holds behind every run, and with it every later answer is known.

Lifetimes are not part of this. A map keeps its entries until they are removed.
-/

import DynamicContent.Proofs.Cache.Facade

namespace DynamicContent.Cache

/-- How a call of a backend fails: what it reports and, if it is a flush, the keys it has removed by
then. -/
structure Fault where
  cause : CacheError
  took : String → Bool

/-- A map, and how the calls to come will fail. -/
structure FaultyMap where
  entries : SortedMap Json
  faults : Nat → Option Fault

/-- What a flush removes: the keys that begin with a text, and of these only some if it fails. -/
def flushes (fault? : Option Fault) (start key : String) : Bool :=
  Text.startsWith key start && fault?.all (·.took key)

namespace FaultyMap

/-- How the next call fails, if it does. -/
def fault? (map : FaultyMap) : Option Fault := map.faults 0

/-- A call that has a result, and leaves other entries, only if it does not fail. -/
def call {α : Type} (map : FaultyMap) (result : α) (entries : SortedMap Json) :
    Except CacheError α × FaultyMap :=
  match map.fault? with
  | none => (.ok result, ⟨entries, fun n => map.faults (n + 1)⟩)
  | some fault => (.error fault.cause, ⟨map.entries, fun n => map.faults (n + 1)⟩)

/-- A flush leaves other entries even if it fails. -/
def flush (start : String) (map : FaultyMap) : Except CacheError Nat × FaultyMap :=
  let left := map.entries.filter fun entry => !flushes map.fault? start entry.1
  (match map.fault? with
    | none => .ok (map.entries.length - left.length)
    | some fault => .error fault.cause,
    ⟨left, fun n => map.faults (n + 1)⟩)

/-- A map that fails as a place for entries. -/
def backend : Backend FaultyMap where
  get key map := map.call (SortedMap.find? key map.entries) map.entries
  set key value _ map := map.call () (SortedMap.insert key value map.entries)
  erase key map :=
    map.call (SortedMap.contains key map.entries) (SortedMap.erase key map.entries)
  flush := flush

section

variable {α : Type} {map : FaultyMap} {result : α} {entries : SortedMap Json}

theorem call_of_none (h : map.fault? = none) :
    map.call result entries = (.ok result, ⟨entries, fun n => map.faults (n + 1)⟩) := by
  rw [call, h]

theorem call_of_some {fault : Fault} (h : map.fault? = some fault) :
    map.call result entries =
      (.error fault.cause, ⟨map.entries, fun n => map.faults (n + 1)⟩) := by
  rw [call, h]

end

end FaultyMap

/-- The cache of a site over a map that fails. -/
def faultyCache (start : String) : Cache FaultyMap := ⟨FaultyMap.backend, start⟩

/-! ## Histories -/

/-- A change as those who asked for it know it: by what they were told and, if a flush failed, by what
it had removed. -/
inductive Change where
  | written (key group : String) (value : Option Json) (stored : Bool)
  | erased (key group : String) (removed : Bool)
  | flushed (group : Option String) (fault? : Option Fault)

/-- The value of the last write under a stored key that was said to have taken place, unless it was
removed since. The last change comes first. -/
def lastWritten? (start stored : String) : List Change → Option Json
  | [] => none
  | .written key group value took :: past =>
    if took = true ∧ stored = storedKey start group key then value
    else lastWritten? start stored past
  | .erased key group removed :: past =>
    if removed = true ∧ stored = storedKey start group key then none
    else lastWritten? start stored past
  | .flushed group fault? :: past =>
    if flushes fault? (Cache.flushStart start group) stored = true then none
    else lastWritten? start stored past

/-- The states behind operations on a cache that was empty, each with the changes so far. -/
inductive Run (start : String) : List Change → CacheState FaultyMap → Prop where
  | fresh (faults : Nat → Option Fault) (counters : Counters) (events : List CacheEvent) :
      Run start [] ⟨⟨[], faults⟩, counters, events⟩
  | get {past : List Change} {s : CacheState FaultyMap} {α : Type} (decode : Json → Option α)
      (key group : String) (h : Run start past s) :
      Run start past ((faultyCache start).get decode key group s).2
  | set {past : List Change} {s : CacheState FaultyMap} (key : String) (value : Option Json)
      (lifetime : Nat) (group : String) (h : Run start past s) :
      Run start
        (.written key group value ((faultyCache start).set key value lifetime group s).1 :: past)
        ((faultyCache start).set key value lifetime group s).2
  | erase {past : List Change} {s : CacheState FaultyMap} (key group : String)
      (h : Run start past s) :
      Run start (.erased key group ((faultyCache start).erase key group s).1 :: past)
        ((faultyCache start).erase key group s).2
  | flush {past : List Change} {s : CacheState FaultyMap} (group : Option String)
      (h : Run start past s) :
      Run start (.flushed group s.store.fault? :: past) ((faultyCache start).flush group s).2

/-! ## One operation -/

variable {α : Type} {start : String} {s : CacheState FaultyMap} {past : List Change}
  {key group stored : String}

/-- A read finds what the map holds, unless it fails. It changes neither the entries nor what has been
announced. -/
theorem get_faulty (decode : Json → Option α) (key group : String) (s : CacheState FaultyMap) :
    ∃ t, (faultyCache start).get decode key group s =
        (if s.store.fault?.isSome = true then none
          else (SortedMap.find? (storedKey start group key) s.store.entries).bind decode, t) ∧
      t.events = s.events ∧ t.store.entries = s.store.entries := by
  obtain ⟨counters, hget⟩ := (faultyCache start).get_eq_found? decode key group s
  cases hfault : s.store.fault? with
  | none =>
      have hcall : (faultyCache start).backend.get
          (storedKey (faultyCache start).start group key) s.store = (.ok _, _) :=
        FaultyMap.call_of_none hfault
      rw [hcall] at hget
      refine ⟨_, hget.trans (Prod.ext ?_ rfl), rfl, rfl⟩
      dsimp only [faultyCache]
      cases SortedMap.find? (storedKey start group key) s.store.entries <;> rfl
  | some fault =>
      have hcall : (faultyCache start).backend.get
          (storedKey (faultyCache start).start group key) s.store = (.error _, _) :=
        FaultyMap.call_of_some hfault
      rw [hcall] at hget
      exact ⟨_, hget, rfl, rfl⟩

/-- A write takes place if there is a value and the call does not fail. Either way it is announced,
once. -/
theorem set_faulty (key : String) (value : Option Json) (lifetime : Nat) (group : String)
    (s : CacheState FaultyMap) :
    ∃ took t, (faultyCache start).set key value lifetime group s = (took, t) ∧
      took = (value.isSome && s.store.fault?.isNone) ∧
      t.events = s.events ++ [.written key group lifetime took] ∧
      ∀ stored, SortedMap.find? stored t.store.entries =
        if took = true ∧ stored = storedKey start group key then value
        else SortedMap.find? stored s.store.entries := by
  cases value with
  | none =>
      obtain ⟨counters, hset⟩ := (faultyCache start).set_none_eq key lifetime group s
      refine ⟨_, _, hset, rfl, rfl, ?_⟩
      intro stored
      exact (if_neg fun h => Bool.false_ne_true h.1).symm
  | some v =>
      obtain ⟨counters, hset⟩ := (faultyCache start).set_some_eq key v lifetime group s
      cases hfault : s.store.fault? with
      | none =>
          have hcall : (faultyCache start).backend.set
              (storedKey (faultyCache start).start group key) v lifetime s.store = (.ok (), _) :=
            FaultyMap.call_of_none hfault
          rw [hcall] at hset
          refine ⟨_, _, hset, rfl, rfl, ?_⟩
          intro stored
          simp only [succeeded, true_and]
          exact SortedMap.find?_insert _ _ _ _
      | some fault =>
          have hcall : (faultyCache start).backend.set
              (storedKey (faultyCache start).start group key) v lifetime s.store = (.error _, _) :=
            FaultyMap.call_of_some hfault
          rw [hcall] at hset
          refine ⟨_, _, hset, rfl, rfl, ?_⟩
          intro stored
          exact (if_neg fun h => Bool.false_ne_true h.1).symm

/-- A removal removes what there is, unless it fails. Either way it is announced, once. -/
theorem erase_faulty (key group : String) (s : CacheState FaultyMap) :
    ∃ took t, (faultyCache start).erase key group s = (took, t) ∧
      took = ((SortedMap.find? (storedKey start group key) s.store.entries).isSome &&
        s.store.fault?.isNone) ∧
      t.events = s.events ++ [.erased key group took] ∧
      ∀ stored, SortedMap.find? stored t.store.entries =
        if took = true ∧ stored = storedKey start group key then none
        else SortedMap.find? stored s.store.entries := by
  obtain ⟨counters, herase⟩ := (faultyCache start).erase_eq key group s
  cases hfault : s.store.fault? with
  | none =>
      have hcall : (faultyCache start).backend.erase
          (storedKey (faultyCache start).start group key) s.store = (.ok _, _) :=
        FaultyMap.call_of_none hfault
      rw [hcall] at herase
      refine ⟨_, _, herase, (Bool.and_true _).symm, rfl, ?_⟩
      intro stored
      exact SortedMap.find?_erase_of_contains _ _ _
  | some fault =>
      have hcall : (faultyCache start).backend.erase
          (storedKey (faultyCache start).start group key) s.store = (.error _, _) :=
        FaultyMap.call_of_some hfault
      rw [hcall] at herase
      refine ⟨_, _, herase, (Bool.and_false _).symm, rfl, ?_⟩
      intro stored
      exact (if_neg fun h => Bool.false_ne_true h.1).symm

/-- A flush removes what it is to remove, or some of that if it fails. Either way it is announced,
once. -/
theorem flush_faulty (group : Option String) (s : CacheState FaultyMap) :
    ∃ t, (faultyCache start).flush group s = ((), t) ∧
      t.events = s.events ++ [.flushed group] ∧
      ∀ stored, SortedMap.find? stored t.store.entries =
        if flushes s.store.fault? (Cache.flushStart start group) stored = true then none
        else SortedMap.find? stored s.store.entries := by
  obtain ⟨counters, hflush⟩ := (faultyCache start).flush_eq group s
  refine ⟨_, hflush, rfl, ?_⟩
  intro stored
  dsimp only [faultyCache, FaultyMap.backend, FaultyMap.flush]
  rw [SortedMap.find?_filter fun key =>
    !flushes s.store.fault? (Cache.flushStart start group) key]
  cases flushes s.store.fault? (Cache.flushStart start group) stored <;> rfl

/-! ## Runs -/

/-- What the map holds behind a run is told by its history. -/
theorem Run.find?_entries (h : Run start past s) (stored : String) :
    SortedMap.find? stored s.store.entries = lastWritten? start stored past := by
  induction h with
  | fresh faults counters events => rfl
  | @get _ s _ decode key group h ih =>
      obtain ⟨t, hget, -, hentries⟩ := get_faulty decode key group s
      rw [hget, hentries, ih]
  | @set _ s key value lifetime group h ih =>
      obtain ⟨took, t, hset, -, -, hfind⟩ := set_faulty key value lifetime group s
      rw [hset, lastWritten?, ← ih]
      exact hfind stored
  | @erase _ s key group h ih =>
      obtain ⟨took, t, herase, -, -, hfind⟩ := erase_faulty key group s
      rw [herase, lastWritten?, ← ih]
      exact hfind stored
  | @flush _ s group h ih =>
      obtain ⟨t, hflush, -, hfind⟩ := flush_faulty group s
      rw [hflush, lastWritten?, ← ih]
      exact hfind stored

/-- What a read finds: nothing if it fails, or else what can be decoded of the value that was last
written. -/
def recalled? (start : String) (past : List Change) (fault? : Option Fault)
    (decode : Json → Option α) (key group : String) : Option α :=
  if fault?.isSome = true then none
  else (lastWritten? start (storedKey start group key) past).bind decode

theorem Run.get_eq_recalled? (h : Run start past s) (decode : Json → Option α)
    (key group : String) :
    ∃ t, (faultyCache start).get decode key group s =
        (recalled? start past s.store.fault? decode key group, t) ∧
      t.events = s.events ∧ Run start past t := by
  obtain ⟨t, hget, hevents, -⟩ := get_faulty decode key group s
  have hrun := h.get decode key group
  rw [hget] at hrun
  rw [h.find?_entries] at hget
  exact ⟨t, hget, hevents, hrun⟩

/-- What the operations return and announce behind a run. The computation of a value that is asked for
has a state of its own, by which it can tell whether it was run, and may use the cache. -/
structure AnswersSoftly (start : String) (past : List Change) (s : CacheState FaultyMap) :
    Prop where
  get : ∀ {α : Type} (decode : Json → Option α) (key group : String),
    ∃ t, (faultyCache start).get decode key group s =
        (recalled? start past s.store.fault? decode key group, t) ∧
      t.events = s.events ∧ Run start past t
  set : ∀ (key : String) (value : Option Json) (lifetime : Nat) (group : String),
    ∃ stored t, (faultyCache start).set key value lifetime group s = (stored, t) ∧
      stored = (value.isSome && s.store.fault?.isNone) ∧
      t.events = s.events ++ [.written key group lifetime stored] ∧
      Run start (.written key group value stored :: past) t
  erase : ∀ key group : String,
    ∃ removed t, (faultyCache start).erase key group s = (removed, t) ∧
      removed = ((lastWritten? start (storedKey start group key) past).isSome &&
        s.store.fault?.isNone) ∧
      t.events = s.events ++ [.erased key group removed] ∧
      Run start (.erased key group removed :: past) t
  flush : ∀ group : Option String,
    ∃ t, (faultyCache start).flush group s = ((), t) ∧
      t.events = s.events ++ [.flushed group] ∧
      Run start (.flushed group s.store.fault? :: past) t
  hit : ∀ {α τ : Type} (decode : Json → Option α) (encode : α → Option Json) (key : String)
      (lifetime : Nat) (group : String) (compute : StateT τ (CacheM FaultyMap) α) (own : τ)
      (value : α), recalled? start past s.store.fault? decode key group = some value →
    ∃ t, (faultyCache start).remember decode encode key lifetime group compute own s =
        ((value, own), t) ∧
      t.events = s.events ∧ Run start past t
  miss : ∀ {α τ : Type} (decode : Json → Option α) (encode : α → Option Json) (key : String)
      (lifetime : Nat) (group : String) (compute : StateT τ (CacheM FaultyMap) α) (own : τ),
      recalled? start past s.store.fault? decode key group = none →
    ∃ t, t.events = s.events ∧ Run start past t ∧
      ∃ stored u, (faultyCache start).remember decode encode key lifetime group compute own s =
          ((compute own t).1, u) ∧
        (faultyCache start).set key (encode (compute own t).1.1) lifetime group
          (compute own t).2 = (stored, u) ∧
        stored = ((encode (compute own t).1.1).isSome &&
          (compute own t).2.store.fault?.isNone) ∧
        u.events = (compute own t).2.events ++ [.written key group lifetime stored] ∧
        ∀ later, Run start later (compute own t).2 →
          Run start (.written key group (encode (compute own t).1.1) stored :: later) u

/-- Whatever fails, the operations of a cache answer and announce what the history of the cache tells,
and go on from there: a read finds the value that was last written and not removed since, or nothing;
each change is announced once, with the answer that was given; and a value that is asked for is
computed once if none is found and not at all otherwise, and is returned whether it was stored or
not. -/
theorem answersSoftly_of_run (h : Run start past s) : AnswersSoftly start past s where
  get decode key group := h.get_eq_recalled? decode key group
  set key value lifetime group := by
    obtain ⟨stored, t, hset, hstored, hevents, -⟩ := set_faulty key value lifetime group s
    have hrun := h.set key value lifetime group
    rw [hset] at hrun
    exact ⟨stored, t, hset, hstored, hevents, hrun⟩
  erase key group := by
    obtain ⟨removed, t, herase, hremoved, hevents, -⟩ := erase_faulty key group s
    have hrun := h.erase key group
    rw [herase] at hrun
    rw [h.find?_entries] at hremoved
    exact ⟨removed, t, herase, hremoved, hevents, hrun⟩
  flush group := by
    obtain ⟨t, hflush, hevents, -⟩ := flush_faulty group s
    have hrun := h.flush group
    rw [hflush] at hrun
    exact ⟨t, hflush, hevents, hrun⟩
  hit decode encode key lifetime group compute own value hfound := by
    obtain ⟨t, hget, hevents, hrun⟩ := h.get_eq_recalled? decode key group
    refine ⟨t, ?_, hevents, hrun⟩
    rw [remember_apply, hget, hfound]
  miss decode encode key lifetime group compute own hfound := by
    obtain ⟨t, hget, hevents, hrun⟩ := h.get_eq_recalled? decode key group
    refine ⟨t, hevents, hrun, ?_⟩
    obtain ⟨stored, u, hset, hstored, hwritten, -⟩ :=
      set_faulty key (encode (compute own t).1.1) lifetime group (compute own t).2
    refine ⟨stored, u, ?_, hset, hstored, hwritten, ?_⟩
    · rw [remember_apply, hget, hfound]
      dsimp only
      rw [hset]
    · intro later hlater
      have hrun := hlater.set key (encode (compute own t).1.1) lifetime group
      rwa [hset] at hrun

/-- A map that is empty, and whose every second call fails without removing anything. -/
def everySecond : FaultyMap :=
  ⟨[], fun n => if n % 2 = 1 then some ⟨.io "disk gone", fun _ => false⟩ else none⟩

/-- The first write outlives a second one that fails and, behind a read, a flush that fails. -/
theorem answersSoftly_of_failed_flush :
    let past : List Change := [.flushed none (some ⟨.io "disk gone", fun _ => false⟩),
      .written "k" "g" (some (.string "second")) false,
      .written "k" "g" (some (.string "first")) true]
    ∃ s, Run "weft_" past s ∧ AnswersSoftly "weft_" past s ∧ s.store.fault? = none ∧
      recalled? "weft_" past s.store.fault? Json.string? "k" "g" = some "first" := by
  have hfresh : Run "weft_" [] ⟨everySecond, [], []⟩ := .fresh everySecond.faults [] []
  have hrun := (((hfresh.set "k" (some (.string "first")) 0 "g").set "k"
    (some (.string "second")) 0 "g").get Json.string? "k" "g").flush none
  exact ⟨_, hrun, answersSoftly_of_run hrun, rfl, by decide +kernel⟩

end DynamicContent.Cache
