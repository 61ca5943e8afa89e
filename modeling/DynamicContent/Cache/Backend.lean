/-
# Backends

What a cache needs of the place where its entries are: to read, write and remove one under its stored
key, and to remove all whose keys begin alike. Each of these may fail.
-/

import DynamicContent.Cache.File
import DynamicContent.Json.Basic
import DynamicContent.Text.Blank

namespace DynamicContent.Cache

/-! ## Entries in memory

A bounded store that forgets the entry whose last use is longest ago. Writing an entry uses it, and so
does reading it; asking for one that is not there, removing and flushing use nothing. An entry
without a lifetime stays until it is forgotten or removed.

Time is counted in whole seconds by a clock of 64 bits. A lifetime that ends later than this clock can
tell has no deadline, and an entry with such a lifetime cannot be written: the sum is taken unchecked,
and a program whose clock overruns stops where it is. -/

/-- A value and the time from which it is no longer valid. -/
structure MemoryEntry where
  value : Json
  deadline : Option Int
deriving Inhabited

/-- The entries, the one used last in front. -/
structure MemoryStore where
  capacity : Nat
  entries : List (String × MemoryEntry)
deriving Inhabited

namespace MemoryStore

/-- An empty store; one that may hold nothing may hold one entry. -/
def empty (capacity : Nat) : MemoryStore := ⟨max capacity 1, []⟩

/-- The deadline of a lifetime, if there is one; `none` if it is later than the clock can tell. -/
def deadline? (now : Int) (lifetime : Nat) : Option (Option Int) :=
  if lifetime = 0 then some none
  else if now + lifetime ≤ Number.int64Max then some (some (now + lifetime))
  else none

/-- Whether an entry is no longer valid. -/
def isExpired (now : Int) (entry : MemoryEntry) : Bool := entry.deadline.any fun d => d ≤ now

/-- The entries without the one under a key. -/
def without (key : String) (entries : List (String × MemoryEntry)) : List (String × MemoryEntry) :=
  entries.filter (·.1 != key)

/-- The entry under a key. -/
def entry? (store : MemoryStore) (key : String) : Option MemoryEntry :=
  (store.entries.find? (·.1 == key)).map (·.2)

/-- The value under a key. -/
def get (now : Int) (key : String) (store : MemoryStore) : Option Json × MemoryStore :=
  match store.entry? key with
  | none => (none, store)
  | some entry =>
    if isExpired now entry then (none, { store with entries := without key store.entries })
    else (some entry.value, { store with entries := (key, entry) :: without key store.entries })

/-- Writes a value; `none` if its deadline is later than the clock can tell. -/
def set? (now : Int) (key : String) (value : Json) (lifetime : Nat) (store : MemoryStore) :
    Option MemoryStore :=
  (deadline? now lifetime).map fun deadline =>
    { store with
      entries := ((key, ⟨value, deadline⟩) :: without key store.entries).take store.capacity }

/-- Removes the entry under a key, and says whether there was one. -/
def erase (key : String) (store : MemoryStore) : Bool × MemoryStore :=
  ((store.entry? key).isSome, { store with entries := without key store.entries })

/-- Removes the entries whose keys begin with a text, and says how many there were. -/
def flush (start : String) (store : MemoryStore) : Nat × MemoryStore :=
  let kept := store.entries.filter fun entry => !Text.startsWith entry.1 start
  (store.entries.length - kept.length, { store with entries := kept })

/-- The number of entries. -/
def size (store : MemoryStore) : Nat := store.entries.length

end MemoryStore

/-! ## Memory or files -/

/-- A place for entries with states `σ`. -/
structure Backend (σ : Type) where
  get : String → σ → Except CacheError (Option Json) × σ
  set : String → Json → Nat → σ → Except CacheError Unit × σ
  erase : String → σ → Except CacheError Bool × σ
  flush : String → σ → Except CacheError Nat × σ

/-- The memory as a place for entries. A lifetime whose end the clock cannot tell is refused, which ends
the program. -/
def MemoryStore.backend (now : Int) : Backend MemoryStore where
  get key store :=
    let (value, store) := store.get now key
    (.ok value, store)
  set key value lifetime store :=
    match store.set? now key value lifetime with
    | some store => (.ok (), store)
    | none => (.error (.io "deadline out of range"), store)
  erase key store :=
    let (removed, store) := store.erase key
    (.ok removed, store)
  flush start store :=
    let (removed, store) := store.flush start
    (.ok removed, store)

/-- A directory as a place for entries. -/
def FileStore.backend (now : Int) : Backend FileStore where
  get := FileStore.get now
  set := FileStore.set now
  erase := FileStore.erase
  flush := FileStore.flush

/-- One of the places. -/
inductive Store where
  | memory (store : MemoryStore)
  | file (store : FileStore)
  | broken
deriving Inhabited

namespace Store

/-- What a place is called. -/
def name : Store → String
  | memory _ => "memory"
  | file _ => "file"
  | broken => "broken"

/-- An operation on whichever place there is. -/
def run {α : Type} (inMemory : MemoryStore → Except CacheError α × MemoryStore)
    (inFiles : FileStore → Except CacheError α × FileStore) : Store → Except CacheError α × Store
  | memory store =>
    let (result, store) := inMemory store
    (result, memory store)
  | file store =>
    let (result, store) := inFiles store
    (result, file store)
  | broken => (.error (.io "disk gone"), broken)

/-- Whichever place there is as a place for entries. -/
def backend (now : Int) : Backend Store :=
  let inMemory := MemoryStore.backend now
  let inFiles := FileStore.backend now
  { get := fun key => run (inMemory.get key) (inFiles.get key)
    set := fun key value lifetime =>
      run (inMemory.set key value lifetime) (inFiles.set key value lifetime)
    erase := fun key => run (inMemory.erase key) (inFiles.erase key)
    flush := fun start => run (inMemory.flush start) (inFiles.flush start) }

end Store

end DynamicContent.Cache
