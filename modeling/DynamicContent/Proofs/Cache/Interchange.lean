/-
# Either place will do

Whoever uses a cache cannot tell a memory from a directory. Both keep the same ledger, from which every
answer and every announcement follows: what a read finds, whether a removal removed something, whether
a value that is asked for is at hand. So a run of operations gives the same transcript in both places.

That is so within limits. The ledger says nothing of what is forgotten or no longer valid, so no entry
may expire and the memory must have room. And a file is named by its key and is read as JSON, so the
names may not be too long, and values must come back exactly.
-/

import DynamicContent.Proofs.Cache.Facade

namespace DynamicContent.Cache

open Number (int64Min int64Max)

/-- An operation on a cache with values of some type. The value of the last one is computed only if
none is found. -/
inductive Call (α : Type) where
  | get (decode : Json → Option α) (key group : String)
  | set (key : String) (value : Option Json) (lifetime : Nat) (group : String)
  | erase (key group : String)
  | flush (group : Option String)
  | remember (decode : Json → Option α) (encode : α → Option Json) (key : String) (lifetime : Nat)
      (group : String) (value : α)

/-- What an operation returns. -/
inductive Answer (α : Type) where
  | found (value : Option α)
  | done (took : Bool)
  | flushed
  | value (value : α)
deriving DecidableEq

variable {α : Type}

namespace Ledger

/-- What is found under a key of a group. -/
def read? (start : String) (decode : Json → Option α) (key group : String) (ledger : Ledger) :
    Option α :=
  (SortedMap.find? (storedKey start group key) ledger).bind fun d => decode d.value

/-- Writes a value, if there is one. -/
def write (start : String) (now : Int) (key : String) (value : Option Json) (lifetime : Nat)
    (group : String) (ledger : Ledger) : Ledger :=
  match value with
  | none => ledger
  | some v => SortedMap.insert (storedKey start group key) ⟨v, now, lifetime⟩ ledger

end Ledger

namespace Call

/-- Carries out an operation. -/
def run (cache : Cache Store) : Call α → CacheM Store (Answer α)
  | get decode key group => do
    let found ← cache.get decode key group
    pure (.found found)
  | set key value lifetime group => do
    let stored ← cache.set key value lifetime group
    pure (.done stored)
  | erase key group => do
    let removed ← cache.erase key group
    pure (.done removed)
  | flush group => do
    cache.flush group
    pure .flushed
  | remember decode encode key lifetime group value => do
    let value ← cache.remember decode encode key lifetime group (pure value : CacheM Store α)
    pure (.value value)

/-- The key and the group of an operation on one entry. -/
def target? : Call α → Option (String × String)
  | get _ key group | set key _ _ group | erase key group | remember _ _ key _ group _ =>
    some (key, group)
  | flush _ => none

/-- What an operation writes, and for how long. -/
def written? (start : String) (ledger : Ledger) : Call α → Option (Json × Nat)
  | set _ value lifetime _ => value.map (·, lifetime)
  | remember decode encode key lifetime group value =>
    match ledger.read? start decode key group with
    | some _ => none
    | none => (encode value).map (·, lifetime)
  | _ => none

/-- What an operation makes of a ledger. -/
def after (start : String) (now : Int) (ledger : Ledger) : Call α → Ledger
  | get _ _ _ => ledger
  | set key value lifetime group => ledger.write start now key value lifetime group
  | erase key group => SortedMap.erase (storedKey start group key) ledger
  | flush group => ledger.flush (Cache.flushStart start group)
  | remember decode encode key lifetime group value =>
    match ledger.read? start decode key group with
    | some _ => ledger
    | none => ledger.write start now key (encode value) lifetime group

/-- What an operation returns, going by a ledger. -/
def answer (start : String) (ledger : Ledger) : Call α → Answer α
  | get decode key group => .found (ledger.read? start decode key group)
  | set _ value _ _ => .done value.isSome
  | erase key group => .done (SortedMap.find? (storedKey start group key) ledger).isSome
  | flush _ => .flushed
  | remember decode _ key _ group value =>
    .value ((ledger.read? start decode key group).getD value)

/-- What an operation announces, going by a ledger. -/
def events (start : String) (ledger : Ledger) : Call α → List CacheEvent
  | get _ _ _ => []
  | set key value lifetime group => [.written key group lifetime value.isSome]
  | erase key group =>
    [.erased key group (SortedMap.find? (storedKey start group key) ledger).isSome]
  | flush group => [.flushed group]
  | remember decode encode key lifetime group value =>
    match ledger.read? start decode key group with
    | some _ => []
    | none => [.written key group lifetime (encode value).isSome]

/-- Whether a place that keeps a ledger serves an operation as the ledger tells. -/
structure IsServed (start : String) (now : Int) (ledger : Ledger) (place : Place)
    (call : Call α) : Prop where
  returned : ∀ key d, SortedMap.find? key ledger = some d → place.Returns now d
  named : ∀ key group, call.target? = some (key, group) →
    Directory.nameError? (FileStore.fileName (storedKey start group key)) = none
  clock : ∀ value lifetime, call.written? start ledger = some (value, lifetime) →
    now + lifetime ≤ int64Max
  room : place.HasRoom (call.after start now ledger)

end Call

/-! ## One operation -/

variable {start : String} {now : Int} {place : Place} {ledger : Ledger} {s : CacheState Store}
  {key group : String}

/-- An action whose result is put in another form. -/
theorem bind_pure_eq {β γ : Type} {action : CacheM Store β} {f : β → γ} {b : β}
    {t : CacheState Store} (h : action s = (b, t)) :
    (do let a ← action; pure (f a) : CacheM Store γ) s = (f b, t) :=
  congrArg (fun p : β × CacheState Store => (f p.1, p.2)) h

theorem get_eq_read? (decode : Json → Option α) (h : Place.Keeps ledger place s.store)
    (hname : Directory.nameError? (FileStore.fileName (storedKey start group key)) = none)
    (hreturned : ∀ key d, SortedMap.find? key ledger = some d → place.Returns now d) :
    ∃ t, (siteCache start now).get decode key group s =
        (ledger.read? start decode key group, t) ∧
      t.events = s.events ∧ Place.Keeps ledger place t.store := by
  obtain ⟨counters, hget⟩ := (siteCache start now).get_eq decode key group s
  refine ⟨_, hget.trans (Prod.ext ?_ rfl), rfl, ?_⟩
  · dsimp only
    cases hline : SortedMap.find? (storedKey start group key) ledger with
    | none => rw [remembered?_of_none decode h hline, Ledger.read?, hline, Option.bind_none]
    | some d =>
        rw [remembered?_of_returns decode h hline (hreturned _ d hline), Ledger.read?, hline,
          Option.bind_some]
  · dsimp only [siteCache]
    cases hline : SortedMap.find? (storedKey start group key) ledger with
    | none =>
        rw [h.get_of_none (storedKey_ne_empty _ _ _) hname hline]
        exact h
    | some d => exact (h.get_of_returns (storedKey_ne_empty _ _ _) hline (hreturned _ d hline)).2

theorem set_eq_write (value : Option Json) (lifetime : Nat) (h : Place.Keeps ledger place s.store)
    (hname : Directory.nameError? (FileStore.fileName (storedKey start group key)) = none)
    (hclock : value.isSome = true → now + lifetime ≤ int64Max)
    (hroom : place.HasRoom (ledger.write start now key value lifetime group)) :
    ∃ t, (siteCache start now).set key value lifetime group s = (value.isSome, t) ∧
      t.events = s.events ++ [.written key group lifetime value.isSome] ∧
      Place.Keeps (ledger.write start now key value lifetime group) place t.store := by
  cases value with
  | none =>
      obtain ⟨counters, hset⟩ := (siteCache start now).set_none_eq key lifetime group s
      exact ⟨_, hset, rfl, h⟩
  | some v =>
      obtain ⟨counters, hset⟩ := (siteCache start now).set_some_eq key v lifetime group s
      have hok : ((Store.backend now).set (storedKey start group key) v lifetime s.store).1 =
          .ok () := h.set_fst hname (hclock rfl)
      have hstored : succeeded ((siteCache start now).backend.set
          (storedKey (siteCache start now).start group key) v lifetime s.store).1 = true :=
        congrArg succeeded hok
      rw [hstored] at hset
      exact ⟨_, hset, rfl, h.set (storedKey_ne_empty _ _ _) hok hroom⟩

theorem erase_eq_isSome (h : Place.Keeps ledger place s.store)
    (hname : Directory.nameError? (FileStore.fileName (storedKey start group key)) = none) :
    ∃ t, (siteCache start now).erase key group s =
        ((SortedMap.find? (storedKey start group key) ledger).isSome, t) ∧
      t.events = s.events ++
        [.erased key group (SortedMap.find? (storedKey start group key) ledger).isSome] ∧
      Place.Keeps (SortedMap.erase (storedKey start group key) ledger) place t.store := by
  obtain ⟨counters, herase⟩ := (siteCache start now).erase_eq key group s
  obtain ⟨hanswer, hkeeps⟩ := @Place.Keeps.erase _ _ _ now _ h (storedKey_ne_empty _ _ _) hname
  have hremoved : Cache.removal ((siteCache start now).backend.erase
      (storedKey (siteCache start now).start group key) s.store).1 =
      (SortedMap.find? (storedKey start group key) ledger).isSome :=
    congrArg Cache.removal hanswer
  rw [hremoved] at herase
  exact ⟨_, herase, rfl, hkeeps⟩

theorem flush_eq_unit (group : Option String) (h : Place.Keeps ledger place s.store) :
    ∃ t, (siteCache start now).flush group s = ((), t) ∧
      t.events = s.events ++ [.flushed group] ∧
      Place.Keeps (ledger.flush (Cache.flushStart start group)) place t.store := by
  obtain ⟨counters, hflush⟩ := (siteCache start now).flush_eq group s
  exact ⟨_, hflush, rfl, (h.flush _).2⟩

section Remember

variable {decode : Json → Option α}

/-- What is in the cache is remembered, and nothing is written. -/
theorem remember_eq_of_read (encode : α → Option Json) (lifetime : Nat) (value : α) {hit : α}
    (h : Place.Keeps ledger place s.store)
    (hname : Directory.nameError? (FileStore.fileName (storedKey start group key)) = none)
    (hreturned : ∀ key d, SortedMap.find? key ledger = some d → place.Returns now d)
    (hfound : ledger.read? start decode key group = some hit) :
    ∃ t, (siteCache start now).remember decode encode key lifetime group
        (pure value : CacheM Store α) s = (hit, t) ∧
      t.events = s.events ∧ Place.Keeps ledger place t.store := by
  obtain ⟨t, hget, hevents, hkeeps⟩ := get_eq_read? decode h hname hreturned
  refine ⟨t, ?_, hevents, hkeeps⟩
  rw [Cache.remember_pure_eq, hget, hfound]

/-- What is not in the cache is written there. -/
theorem remember_eq_of_not_read {encode : α → Option Json} {lifetime : Nat} {value : α}
    (h : Place.Keeps ledger place s.store)
    (hname : Directory.nameError? (FileStore.fileName (storedKey start group key)) = none)
    (hreturned : ∀ key d, SortedMap.find? key ledger = some d → place.Returns now d)
    (hnone : ledger.read? start decode key group = none)
    (hclock : (encode value).isSome = true → now + lifetime ≤ int64Max)
    (hroom : place.HasRoom (ledger.write start now key (encode value) lifetime group)) :
    ∃ t, (siteCache start now).remember decode encode key lifetime group
        (pure value : CacheM Store α) s = (value, t) ∧
      t.events = s.events ++ [.written key group lifetime (encode value).isSome] ∧
      Place.Keeps (ledger.write start now key (encode value) lifetime group) place t.store := by
  obtain ⟨t, hget, hevents, hkeeps⟩ := get_eq_read? decode h hname hreturned
  obtain ⟨u, hset, hwritten, hkept⟩ := set_eq_write (encode value) lifetime hkeeps hname hclock hroom
  refine ⟨u, ?_, hevents ▸ hwritten, hkept⟩
  rw [Cache.remember_pure_eq, hget, hnone]
  dsimp only
  rw [hset]

end Remember

namespace Call

/-- A place that serves an operation answers and announces what the ledger tells, and keeps what it
then tells. -/
theorem run_eq (call : Call α) (h : Place.Keeps ledger place s.store)
    (hserved : call.IsServed start now ledger place) :
    ∃ t, call.run (siteCache start now) s = (call.answer start ledger, t) ∧
      t.events = s.events ++ call.events start ledger ∧
      Place.Keeps (call.after start now ledger) place t.store := by
  cases call with
  | get decode key group =>
      obtain ⟨t, hget, hevents, hkeeps⟩ :=
        get_eq_read? decode h (hserved.named key group rfl) hserved.returned
      refine ⟨t, ?_, ?_, hkeeps⟩
      · exact bind_pure_eq hget
      · rw [hevents, events, List.append_nil]
  | set key value lifetime group =>
      have hclock : value.isSome = true → now + lifetime ≤ int64Max := by
        intro hsome
        obtain ⟨v, rfl⟩ := Option.isSome_iff_exists.mp hsome
        exact hserved.clock v lifetime rfl
      obtain ⟨t, hset, hevents, hkeeps⟩ :=
        set_eq_write value lifetime h (hserved.named key group rfl) hclock hserved.room
      exact ⟨t, bind_pure_eq hset, hevents, hkeeps⟩
  | erase key group =>
      obtain ⟨t, herase, hevents, hkeeps⟩ := erase_eq_isSome h (hserved.named key group rfl)
      exact ⟨t, bind_pure_eq herase, hevents, hkeeps⟩
  | flush group =>
      obtain ⟨t, hflush, hevents, hkeeps⟩ := flush_eq_unit group h
      exact ⟨t, bind_pure_eq hflush, hevents, hkeeps⟩
  | remember decode encode key lifetime group value =>
      have hname := hserved.named key group rfl
      cases hfound : ledger.read? start decode key group with
      | some hit =>
          obtain ⟨t, hremember, hevents, hkeeps⟩ :=
            remember_eq_of_read encode lifetime value h hname hserved.returned hfound
          refine ⟨t, ?_, ?_, ?_⟩
          · rw [answer, hfound]
            exact bind_pure_eq hremember
          · rw [hevents, events, hfound, List.append_nil]
          · rwa [after, hfound]
      | none =>
          have hclock : (encode value).isSome = true → now + lifetime ≤ int64Max := by
            intro hsome
            obtain ⟨v, hv⟩ := Option.isSome_iff_exists.mp hsome
            refine hserved.clock v lifetime ?_
            rw [written?, hfound]
            dsimp only
            rw [hv, Option.map_some]
          have hroom := hserved.room
          rw [after, hfound] at hroom
          obtain ⟨t, hremember, hevents, hkeeps⟩ :=
            remember_eq_of_not_read h hname hserved.returned hfound hclock hroom
          refine ⟨t, ?_, ?_, ?_⟩
          · rw [answer, hfound]
            exact bind_pure_eq hremember
          · rw [hevents, events, hfound]
          · rwa [after, hfound]

end Call

/-! ## Runs -/

/-- An operation at some time. -/
structure TimedCall (α : Type) where
  now : Int
  call : Call α

/-- The answers to operations that are carried out one after the other, each with what has been
announced by then. -/
def transcript (start : String) :
    List (TimedCall α) → CacheState Store → List (Answer α × List CacheEvent)
  | [], _ => []
  | c :: cs, s =>
    let (answer, t) := c.call.run (siteCache start c.now) s
    (answer, t.events) :: transcript start cs t

/-- The transcript that a ledger tells. -/
def toldTranscript (start : String) :
    List (TimedCall α) → Ledger → List CacheEvent → List (Answer α × List CacheEvent)
  | [], _, _ => []
  | c :: cs, ledger, events =>
    (c.call.answer start ledger, events ++ c.call.events start ledger) ::
      toldTranscript start cs (c.call.after start c.now ledger)
        (events ++ c.call.events start ledger)

/-- Whether a place serves all operations of a run. -/
def Serves (start : String) (place : Place) : List (TimedCall α) → Ledger → Prop
  | [], _ => True
  | c :: cs, ledger =>
    c.call.IsServed start c.now ledger place ∧
      Serves start place cs (c.call.after start c.now ledger)

/-- A place that serves all operations of a run gives the transcript that its ledger tells. -/
theorem transcript_eq (calls : List (TimedCall α)) (h : Place.Keeps ledger place s.store)
    (hserves : Serves start place calls ledger) :
    transcript start calls s = toldTranscript start calls ledger s.events := by
  induction calls generalizing s ledger with
  | nil => rfl
  | cons c cs ih =>
      obtain ⟨hserved, hothers⟩ := hserves
      obtain ⟨t, hrun, hevents, hkeeps⟩ := c.call.run_eq h hserved
      rw [transcript, hrun, toldTranscript]
      dsimp only
      rw [ih hkeeps hothers, hevents]

/-! ## Both places -/

/-- What the limits of both places, and of the clock, ask of an operation: that no entry has expired,
neither in memory nor in a file; that the name of a file is not too long; that what is written has no
floating numbers, nests fewer than 100 levels and has a lifetime that ends while the clock runs; and
that there is room. -/
structure Call.IsWithin (start : String) (capacity defaultLifetime : Nat) (now : Int)
    (ledger : Ledger) (call : Call α) : Prop where
  valid : ∀ key d, SortedMap.find? key ledger = some d →
    now < (d.document (max defaultLifetime 1) key).expiresAt
  named : ∀ key group, call.target? = some (key, group) →
    Directory.nameError? (FileStore.fileName (storedKey start group key)) = none
  written : ∀ value lifetime, call.written? start ledger = some (value, lifetime) →
    int64Min ≤ now ∧ now + lifetime ≤ int64Max ∧ value.IsExact ∧ value.depth < 100
  room : (call.after start now ledger).length ≤ max capacity 1

/-- Whether all operations of a run are within the limits of both places. -/
def AreWithin (start : String) (capacity defaultLifetime : Nat) :
    List (TimedCall α) → Ledger → Prop
  | [], _ => True
  | c :: cs, ledger =>
    c.call.IsWithin start capacity defaultLifetime c.now ledger ∧
      AreWithin start capacity defaultLifetime cs (c.call.after start c.now ledger)

/-- A ledger of values that files give back. -/
def Ledger.IsPlain (ledger : Ledger) : Prop :=
  ∀ key d, SortedMap.find? key ledger = some d →
    int64Min ≤ d.time ∧ d.value.IsExact ∧ d.value.depth < 100

theorem Ledger.IsPlain.write {value : Option Json} {lifetime : Nat} (h : ledger.IsPlain)
    (hvalue : ∀ v, value = some v → int64Min ≤ now ∧ v.IsExact ∧ v.depth < 100) :
    (ledger.write start now key value lifetime group).IsPlain := by
  cases value with
  | none => exact h
  | some v => exact SortedMap.forall_find?_insert h (hvalue v rfl)

namespace Call

variable {capacity defaultLifetime : Nat} {call : Call α}

theorem IsWithin.isServed_memory
    (h : call.IsWithin start capacity defaultLifetime now ledger) :
    call.IsServed start now ledger (.memory capacity) where
  returned key d hline := by
    have hvalid := h.valid key d hline
    by_cases hzero : d.lifetime = 0
    · exact .inl hzero
    · right
      rw [Deposit.document, if_neg hzero] at hvalid
      simp only [FileStore.expiry] at hvalid
      omega
  named := h.named
  clock value lifetime hwritten := (h.written value lifetime hwritten).2.1
  room := h.room

theorem IsWithin.isServed_files (h : call.IsWithin start capacity defaultLifetime now ledger)
    (hplain : ledger.IsPlain) : call.IsServed start now ledger (.files defaultLifetime) where
  returned key d hline := by
    obtain ⟨hlow, hexact, hdepth⟩ := hplain key d hline
    refine ⟨hlow, h.valid key d hline, hexact, ?_⟩
    simp only [Json.depthLimit]
    omega
  named := h.named
  clock value lifetime hwritten := (h.written value lifetime hwritten).2.1
  room := trivial

/-- What is within the limits only writes what files give back. -/
theorem IsWithin.isPlain_after (h : call.IsWithin start capacity defaultLifetime now ledger)
    (hplain : ledger.IsPlain) : (call.after start now ledger).IsPlain := by
  have hwritten := h.written
  cases call with
  | get decode key group => exact hplain
  | set key value lifetime group =>
      refine hplain.write fun v hv => ?_
      obtain ⟨hlow, -, hexact, hdepth⟩ := hwritten v lifetime (by rw [hv]; rfl)
      exact ⟨hlow, hexact, hdepth⟩
  | erase key group =>
      intro other d hd
      rw [after, SortedMap.find?_erase] at hd
      split at hd
      · contradiction
      · exact hplain other d hd
  | flush group =>
      intro other d hd
      rw [after, Ledger.find?_flush] at hd
      split at hd
      · contradiction
      · exact hplain other d hd
  | remember decode encode key lifetime group value =>
      rw [after]
      cases hfound : ledger.read? start decode key group with
      | some hit => exact hplain
      | none =>
          refine hplain.write fun v hv => ?_
          obtain ⟨hlow, -, hexact, hdepth⟩ := hwritten v lifetime (by
            rw [written?, hfound]
            dsimp only
            rw [hv, Option.map_some])
          exact ⟨hlow, hexact, hdepth⟩

end Call

variable {capacity defaultLifetime : Nat}

theorem serves_memory {calls : List (TimedCall α)}
    (h : AreWithin start capacity defaultLifetime calls ledger) :
    Serves start (.memory capacity) calls ledger := by
  induction calls generalizing ledger with
  | nil => trivial
  | cons c cs ih => exact ⟨h.1.isServed_memory, ih h.2⟩

theorem serves_files {calls : List (TimedCall α)}
    (h : AreWithin start capacity defaultLifetime calls ledger) (hplain : ledger.IsPlain) :
    Serves start (.files defaultLifetime) calls ledger := by
  induction calls generalizing ledger with
  | nil => trivial
  | cons c cs ih => exact ⟨h.1.isServed_files hplain, ih h.2 (h.1.isPlain_after hplain)⟩

/-- The two places are interchangeable. Operations that are within the limits of both give the same
answers and announcements over an empty memory as over an empty directory. -/
theorem transcript_memory_eq_files {calls : List (TimedCall α)} {memory files : CacheState Store}
    (hmemory : memory.store = (Place.memory capacity).fresh)
    (hfiles : files.store = (Place.files defaultLifetime).fresh)
    (hevents : memory.events = files.events)
    (hwithin : AreWithin start capacity defaultLifetime calls []) :
    transcript start calls memory = transcript start calls files := by
  have hplain : Ledger.IsPlain [] := fun key d hd => by contradiction
  rw [transcript_eq calls (hmemory ▸ Place.keeps_fresh _) (serves_memory hwithin),
    transcript_eq calls (hfiles ▸ Place.keeps_fresh _) (serves_files hwithin hplain), hevents]

/-- A value is computed, found again and removed, and then there is nothing to flush. -/
def errand : List (TimedCall Int) :=
  [⟨10, .remember Json.int64? (fun n => some (.int n)) "a" 60 "query" 7⟩,
    ⟨20, .get Json.int64? "a" "query"⟩, ⟨30, .erase "a" "query"⟩, ⟨40, .flush none⟩]

theorem errand_memory_eq_files :
    AreWithin "weft_" 2 86400 errand [] ∧
      transcript "weft_" errand ⟨(Place.memory 2).fresh, [], []⟩ =
        transcript "weft_" errand ⟨(Place.files 86400).fresh, [], []⟩ := by
  have hempty (now : Int) (key : String) (d : Deposit) (hd : SortedMap.find? key [] = some d) :
      now < (d.document (max 86400 1) key).expiresAt := by
    contradiction
  have hone (now : Int) (hnow : now < 70) (key : String) (d : Deposit)
      (hd : SortedMap.find? key [("weft_query_a", ⟨.int 7, 10, 60⟩)] = some d) :
      now < (d.document (max 86400 1) key).expiresAt := by
    rw [SortedMap.find?] at hd
    split at hd
    · obtain rfl := Option.some.inj hd
      exact hnow
    · contradiction
  have hnamed (key group : String) (htarget : some ("a", "query") = some (key, group)) :
      Directory.nameError? (FileStore.fileName (storedKey "weft_" group key)) = none := by
    cases htarget
    decide
  have hwithin : AreWithin "weft_" 2 86400 errand [] := by
    refine ⟨⟨hempty _, hnamed, fun value lifetime hvalue => ?_, by decide⟩,
      ⟨hone _ (by decide), hnamed, fun value lifetime hvalue => ?_, by decide⟩,
      ⟨hone _ (by decide), hnamed, fun value lifetime hvalue => ?_, by decide⟩,
      ⟨hempty _, fun key group htarget => ?_, fun value lifetime hvalue => ?_, by decide⟩, trivial⟩
    · cases hvalue
      exact ⟨by decide, by decide, ⟨by decide, by decide⟩, by decide⟩
    · contradiction
    · contradiction
    · contradiction
    · contradiction
  exact ⟨hwithin, transcript_memory_eq_files rfl rfl rfl hwithin⟩

end DynamicContent.Cache
