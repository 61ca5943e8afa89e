/-
# The cache of a site

Values by group and key over some backend. A failure of the backend is counted and otherwise looks
like a missing entry or a write that did not take place; no operation fails. Whatever changes the
entries is announced, whether it took place or not.
-/

import DynamicContent.Cache.Backend
import DynamicContent.Cache.Key
import DynamicContent.Data.SortedMap
import DynamicContent.Text.Blank

namespace DynamicContent

/-! ## Counters

How often something happened, by name and labels. -/

/-- The counters that were ever increased. -/
abbrev Counters := SortedMap Nat

namespace Counters

/-- The name of a counter with its labels in braces. -/
def label (name : String) (labels : List (String × String)) : String :=
  if labels.isEmpty then name
  else name ++ "\x7b" ++ Text.join "," (labels.map fun (k, v) => k ++ "=" ++ v) ++ "\x7d"

/-- Increases a counter. -/
def increase (name : String) (labels : List (String × String)) (counters : Counters) : Counters :=
  SortedMap.modify (label name labels) 0 (· + 1) counters

end Counters

end DynamicContent

namespace DynamicContent.Cache

/-! ## Values by group and key -/

/-- An announcement of a change. A flush without a group is one of all entries of the site. -/
inductive CacheEvent where
  | written (key group : String) (lifetime : Nat) (stored : Bool)
  | erased (key group : String) (removed : Bool)
  | flushed (group : Option String)
deriving DecidableEq, Inhabited

/-- What the operations on a cache change: the entries, the counters and the announcements so far. -/
structure CacheState (σ : Type) where
  store : σ
  counters : Counters
  events : List CacheEvent

/-- An operation on a cache. -/
abbrev CacheM (σ : Type) := StateM (CacheState σ)

/-- Whether a memory was asked to keep something until a time that its clock cannot tell. It refuses a
write for no other reason, and the program does not go on behind such a write. -/
def CacheState.clockOverran (s : CacheState Store) : Bool :=
  match s.store with
  | .memory _ =>
    SortedMap.contains (Counters.label "weft_cache_error_total" [("op", "set")]) s.counters
  | _ => false

/-- A cache: a backend, and what the stored keys of the site begin with. -/
structure Cache (σ : Type) where
  backend : Backend σ
  start : String

namespace Cache

variable {σ : Type}

/-- Runs an operation of the backend. -/
def onStore {α : Type} (f : σ → Except CacheError α × σ) : CacheM σ (Except CacheError α) :=
  fun s =>
    let (result, store) := f s.store
    (result, { s with store })

/-- Increases a counter. -/
def count (name : String) (labels : List (String × String)) : CacheM σ Unit :=
  modify fun s => { s with counters := Counters.increase name labels s.counters }

/-- Counts a failure. -/
def countFailure (operation : String) : CacheM σ Unit :=
  count "weft_cache_error_total" [("op", operation)]

/-- Announces a change. -/
def announce (event : CacheEvent) : CacheM σ Unit :=
  modify fun s => { s with events := s.events ++ [event] }

/-- The value under a key, if there is one that can be decoded. -/
def get {α : Type} (cache : Cache σ) (decode : Json → Option α) (key group : String) :
    CacheM σ (Option α) := do
  let miss : CacheM σ (Option α) := do
    count "weft_cache_miss_total" [("group", group)]
    pure none
  match ← onStore (cache.backend.get (storedKey cache.start group key)) with
  | .ok none => miss
  | .error _ =>
    countFailure "get"
    miss
  | .ok (some v) =>
    match decode v with
    | some a =>
      count "weft_cache_hit_total" [("group", group)]
      pure (some a)
    | none =>
      countFailure "decode"
      miss

/-- Writes a value, and says whether that took place. What has no JSON form is not written. -/
def set (cache : Cache σ) (key : String) (value : Option Json) (lifetime : Nat) (group : String) :
    CacheM σ Bool := do
  let stored ← match value with
    | none =>
      countFailure "encode"
      pure false
    | some v =>
      match ← onStore (cache.backend.set (storedKey cache.start group key) v lifetime) with
      | .ok _ => pure true
      | .error _ =>
        countFailure "set"
        pure false
  if stored then count "weft_cache_write_total" [("group", group)]
  announce (.written key group lifetime stored)
  pure stored

/-- Removes the value under a key, and says whether there was one. -/
def erase (cache : Cache σ) (key group : String) : CacheM σ Bool := do
  let removed ← match ← onStore (cache.backend.erase (storedKey cache.start group key)) with
    | .ok removed => pure removed
    | .error _ =>
      countFailure "delete"
      pure false
  announce (.erased key group removed)
  pure removed

/-- Removes the values of a group, or all values of the site. -/
def flush (cache : Cache σ) (group : Option String) : CacheM σ Unit := do
  let start := match group with
    | some group => groupStart cache.start group
    | none => namespaceStart cache.start
  match ← onStore (cache.backend.flush start) with
  | .ok _ => pure ()
  | .error _ => countFailure "flush"
  announce (.flushed group)

/-- The value under a key; a missing one is computed and written. -/
def remember {m : Type → Type} {α : Type} [Monad m] [MonadLiftT (CacheM σ) m] (cache : Cache σ)
    (decode : Json → Option α) (encode : α → Option Json) (key : String) (lifetime : Nat)
    (group : String) (compute : m α) : m α := do
  match ← (cache.get decode key group : CacheM σ (Option α)) with
  | some hit => pure hit
  | none =>
    let value ← compute
    let _ ← (cache.set key (encode value) lifetime group : CacheM σ Bool)
    pure value

end Cache

end DynamicContent.Cache
