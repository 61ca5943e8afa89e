/-
# The operations of a cache

Each operation of a cache asks the backend once, and what it returns and announces follows from the
answer. To write is to announce that, whether it took place or not, and a failure of the backend is
the same as a value that is missing, was not written or was not removed. What is counted is left
open here, since no answer depends on it.

Over a place that keeps a ledger, what is read follows from the line of the stored key.
-/

import DynamicContent.Proofs.Cache.Key
import DynamicContent.Proofs.Cache.Place

namespace DynamicContent.Cache

/-- The cache of a site at some time. -/
def siteCache (start : String) (now : Int) : Cache Store := ⟨Store.backend now, start⟩

theorem eq_ok_of_succeeded {result : Except CacheError Unit} (h : succeeded result = true) :
    result = .ok () := by
  cases result with
  | ok _ => rfl
  | error _ => contradiction

namespace Cache

variable {σ α : Type} {cache : Cache σ}

/-- What the keys of the entries begin with that a flush removes. -/
def flushStart (start : String) : Option String → String
  | some group => groupStart start group
  | none => namespaceStart start

/-- What has no JSON form is announced as not written. -/
theorem set_none_eq (key : String) (lifetime : Nat) (group : String) (s : CacheState σ) :
    ∃ counters, cache.set key none lifetime group s =
      (false, { s with counters, events := s.events ++ [.written key group lifetime false] }) :=
  ⟨_, rfl⟩

/-- What a backend says about a removal; one that failed removed nothing. -/
def removal : Except CacheError Bool → Bool
  | .ok removed => removed
  | .error _ => false

theorem erase_eq (key group : String) (s : CacheState σ) :
    ∃ counters, cache.erase key group s =
      (removal (cache.backend.erase (storedKey cache.start group key) s.store).1,
        { store := (cache.backend.erase (storedKey cache.start group key) s.store).2,
          counters,
          events := s.events ++ [.erased key group
            (removal (cache.backend.erase (storedKey cache.start group key) s.store).1)] }) := by
  rw [erase, bind_apply, onStore_apply]
  cases (cache.backend.erase (storedKey cache.start group key) s.store).1 with
  | ok removed => exact ⟨_, rfl⟩
  | error _ => exact ⟨_, rfl⟩

theorem flush_start_eq (start : String) (group : Option String) (s : CacheState σ) :
    ∃ counters, (do
        match ← onStore (cache.backend.flush start) with
        | .ok _ => pure ()
        | .error _ => countFailure "flush"
        announce (.flushed group) : CacheM σ Unit) s = ((), {
      store := (cache.backend.flush start s.store).2,
      counters,
      events := s.events ++ [.flushed group] }) := by
  rw [bind_apply, onStore_apply]
  cases (cache.backend.flush start s.store).1 with
  | ok _ => exact ⟨_, rfl⟩
  | error _ => exact ⟨_, rfl⟩

theorem flush_eq (group : Option String) (s : CacheState σ) :
    ∃ counters, cache.flush group s = ((), {
      store := (cache.backend.flush (flushStart cache.start group) s.store).2,
      counters,
      events := s.events ++ [.flushed group] }) := by
  cases group with
  | none => exact flush_start_eq (namespaceStart cache.start) none s
  | some group => exact flush_start_eq (groupStart cache.start group) (some group) s

/-- A value that is at hand is only written where none is found. -/
theorem remember_pure_eq (decode : Json → Option α) (encode : α → Option Json) (key : String)
    (lifetime : Nat) (group : String) (value : α) (s : CacheState σ) :
    cache.remember decode encode key lifetime group (pure value : CacheM σ α) s =
      match cache.get decode key group s with
      | (some hit, t) => (hit, t)
      | (none, t) => (value, (cache.set key (encode value) lifetime group t).2) := by
  rw [remember]
  show (cache.get decode key group >>= _) s = _
  rw [bind_apply]
  cases cache.get decode key group s with
  | mk found t =>
      cases found with
      | some hit => rfl
      | none => rfl

end Cache

/-- What is asked for with a way to compute it is computed where none is found, and then written. -/
theorem remember_apply {σ α τ : Type} {cache : Cache σ} (decode : Json → Option α)
    (encode : α → Option Json) (key : String) (lifetime : Nat) (group : String)
    (compute : StateT τ (CacheM σ) α) (own : τ) (s : CacheState σ) :
    cache.remember decode encode key lifetime group compute own s =
      match cache.get decode key group s with
      | (some hit, t) => ((hit, own), t)
      | (none, t) => ((compute own t).1,
          (cache.set key (encode (compute own t).1.1) lifetime group (compute own t).2).2) := by
  have hbind {β : Type} (next : Option α → StateT τ (CacheM σ) β) :
      (liftM (cache.get decode key group) >>= next : StateT τ (CacheM σ) β) own s =
        next (cache.get decode key group s).1 own (cache.get decode key group s).2 := rfl
  rw [Cache.remember]
  refine (hbind _).trans ?_
  cases cache.get decode key group s with
  | mk found t =>
      cases found with
      | some hit => rfl
      | none => rfl

/-! ## Over a place that keeps a ledger -/

section

variable {α : Type} {start : String} {place : Place} {ledger : Ledger}

/-- What is read follows from the line of the stored key. -/
theorem remembered?_congr {store store' : Store} {ledger' : Ledger} (decode : Json → Option α)
    {key group : String} {now : Int} (h : Place.Keeps ledger place store)
    (h' : Place.Keeps ledger' place store')
    (hline : SortedMap.find? (storedKey start group key) ledger =
      SortedMap.find? (storedKey start group key) ledger') :
    (siteCache start now).remembered? decode key group store =
      (siteCache start now).remembered? decode key group store' := by
  have hget : ((Store.backend now).get (storedKey start group key) store).1 =
      ((Store.backend now).get (storedKey start group key) store').1 :=
    h.get_congr h' (storedKey_ne_empty _ _ _) hline
  rw [Cache.remembered?, Cache.remembered?]
  dsimp only [siteCache]
  rw [hget]

theorem remembered?_of_none {store : Store} (decode : Json → Option α) {key group : String}
    {now : Int} (h : Place.Keeps ledger place store)
    (hline : SortedMap.find? (storedKey start group key) ledger = none) :
    (siteCache start now).remembered? decode key group store = none := by
  rw [Cache.remembered?]
  split
  · next v hv => exact absurd hv (h.get_ne_some (storedKey_ne_empty _ _ _) hline v)
  · rfl

theorem remembered?_of_returns {store : Store} (decode : Json → Option α) {key group : String}
    {now : Int} {d : Deposit} (h : Place.Keeps ledger place store)
    (hline : SortedMap.find? (storedKey start group key) ledger = some d)
    (hreturns : place.Returns now d) :
    (siteCache start now).remembered? decode key group store = decode d.value := by
  have hget := (h.get_of_returns (storedKey_ne_empty _ _ _) hline hreturns).1
  rw [Cache.remembered?]
  dsimp only [siteCache]
  rw [hget]

end

end DynamicContent.Cache
