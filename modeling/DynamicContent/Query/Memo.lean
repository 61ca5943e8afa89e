/-
# Remembered queries

The results of queries are kept in a group of the cache, under the kind of the query and its
arguments. A query that fails has no posts for now, and that is not kept.
-/

import DynamicContent.Cache.Facade
import DynamicContent.Query.Json
import DynamicContent.Record.Json
import DynamicContent.Site.Content

namespace DynamicContent

/-- Remembers the results of queries for a lifetime, unless it is switched off. -/
structure QueryMemo (σ : Type) where
  cache : Cache.Cache σ
  enabled : Bool
  lifetime : Nat

namespace QueryMemo

open Cache

variable {σ : Type} {m : Type → Type} [Monad m] [MonadLiftT (CacheM σ) m]

/-- The group of the cache that the results are in. -/
def group : String := "query"

/-- The key of the result of a query of a kind with some arguments. -/
def key (kind : String) (payload : Json) : String :=
  argumentKey (.ofFields [("kind", .string kind), ("payload", payload)]) group

/-- The lifetime of a result; `none` if it is not to be kept. -/
def lifetime? (memo : QueryMemo σ) (asked : Option Nat) : Option Nat :=
  let lifetime := asked.getD memo.lifetime
  if memo.enabled && 0 < lifetime then some lifetime else none

/-- The result of a computation, kept under a kind and arguments. -/
def cached {α : Type} (memo : QueryMemo σ) (decode : Json → Option α) (encode : α → Option Json)
    (kind : String) (payload : Json) (lifetime : Option Nat) (compute : m α) : m α :=
  match memo.lifetime? lifetime with
  | some lifetime => memo.cache.remember decode encode (key kind payload) lifetime group compute
  | none => compute

/-- The kind of the queries for posts. -/
def postsKind : String := "posts"

/-- Posts as they are kept. -/
def postsToJson (posts : List Post) : Json := .array (posts.map Post.toJson)

/-- The posts that a query finds; `run` asks the site. -/
def posts (memo : QueryMemo σ) (query : PostQuery) (run : m (Except ContentError (List Post))) :
    m (List Post) := do
  match memo.lifetime? none with
  | none =>
    match ← run with
    | .ok found => pure found
    | .error _ => pure []
  | some lifetime =>
    let key := key postsKind query.toJson
    match ← (memo.cache.get (Json.listOf? Post.ofJson?) key group : CacheM σ (Option (List Post))) with
    | some hit => pure hit
    | none =>
      match ← run with
      | .ok found =>
        let _ ← (memo.cache.set key (some (postsToJson found)) lifetime group : CacheM σ Bool)
        pure found
      | .error _ => pure []

/-- Forgets one result, and says whether there was one. -/
def clearKey (memo : QueryMemo σ) (kind : String) (payload : Json) : CacheM σ Bool :=
  memo.cache.erase (key kind payload) group

/-- Forgets all results. -/
def clearAll (memo : QueryMemo σ) : CacheM σ Unit := memo.cache.flush (some group)

end QueryMemo

end DynamicContent
