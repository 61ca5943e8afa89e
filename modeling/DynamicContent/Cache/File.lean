/-
# Entries in files

A store that keeps each entry in a file of its own, named for its key, as a JSON document with the
key, the end of its validity and the value. Every entry has a lifetime. A file is written apart and
put in its place when it is complete, so that a reader sees the old document or the new one.
-/

import DynamicContent.Data.SortedMap
import DynamicContent.Json.Basic
import DynamicContent.Json.Parser
import DynamicContent.Json.Printer
import DynamicContent.Text.Blank

namespace DynamicContent.Cache

/-! ## Why an operation fails -/

/-- Why an operation on the entries failed: the storage, an entry that is no JSON, or an entry that
could not be written in full. -/
inductive CacheError where
  | io (cause : String)
  | payload (cause : String)
  | persist (key cause : String)
deriving DecidableEq, Inhabited

/-- What is reported, then its causes. -/
def CacheError.messages : CacheError → List String
  | io cause => ["cache io error: " ++ cause, cause]
  | payload cause => ["cache payload error: " ++ cause, cause]
  | persist key cause => ["failed to persist cache entry `" ++ key ++ "`: " ++ cause]

/-! ## A directory

What a program can see of one directory: its files with their contents, and the directories in it.
Each operation is one step. A name with a slash is a path into a directory that is not there, and a
name that is too long is refused. -/

/-- What a name stands for. -/
inductive DirectoryEntry where
  | file (content : String)
  | folder
deriving DecidableEq, Inhabited

/-- The entries by name. -/
abbrev Directory := SortedMap DirectoryEntry

/-- Why a step failed: nothing has the name, or something else is wrong. -/
inductive StepError where
  | notFound
  | other (cause : String)
deriving DecidableEq, Inhabited

namespace Directory

/-- The most bytes a name may have. -/
def maxNameBytes : Nat := 255

/-- What is wrong with a name, if anything. -/
def nameError? (name : String) : Option StepError :=
  if name.toList.contains (Char.ofNat 0) then some (.other "invalid name")
  else if name.toList.contains '/' then some .notFound
  else if maxNameBytes < Text.byteLength name.toList then some (.other "File name too long (os error 36)")
  else none

/-- The content of a file. -/
def read (name : String) (dir : Directory) : Except StepError String :=
  match nameError? name with
  | some error => .error error
  | none =>
    match dir.find? name with
    | some (.file content) => .ok content
    | some .folder => .error (.other "Is a directory (os error 21)")
    | none => .error .notFound

/-- Removes a file. -/
def remove (name : String) (dir : Directory) : Except StepError Directory :=
  match nameError? name with
  | some error => .error error
  | none =>
    match dir.find? name with
    | some (.file _) => .ok (dir.erase name)
    | some .folder => .error (.other "Is a directory (os error 21)")
    | none => .error .notFound

/-- Puts a complete file in the place of a name. -/
def replace (name content : String) (dir : Directory) : Except StepError Directory :=
  match nameError? name with
  | some error => .error error
  | none =>
    match dir.find? name with
    | some .folder => .error (.other "Is a directory (os error 21)")
    | _ => .ok (SortedMap.insert name (.file content) dir)

/-- The names in order. -/
def names (dir : Directory) : List String := dir.keys

end Directory

/-! ## The store -/

/-- The document of an entry. -/
structure StoredEntry where
  key : String
  expiresAt : Int
  value : Json
deriving Inhabited

namespace StoredEntry

/-- The document as JSON. -/
def toJson (entry : StoredEntry) : Json :=
  .ofFields [("key", .string entry.key), ("expires_at", .int entry.expiresAt),
    ("value", entry.value)]

/-- Reads a document. -/
def ofJson? (v : Json) : Option StoredEntry := do
  let fields ← v.recordFields? ["key", "expires_at", "value"]
  some {
    key := ← Json.readField fields "key" none Json.string?
    expiresAt := ← Json.readField fields "expires_at" none Json.int64?
    value := ← Json.readField fields "value" none some }

end StoredEntry

/-- The entries in a directory, and the lifetime of those that are given none. -/
structure FileStore where
  directory : Directory
  defaultLifetime : Nat
deriving Inhabited

namespace FileStore

/-- A store in an empty directory. -/
def empty (defaultLifetime : Nat) : FileStore := ⟨[], max defaultLifetime 1⟩

/-- What the names of the files of entries end with. -/
def extension : String := ".json"

/-- The name of the file of an entry. -/
def fileName (key : String) : String := key ++ extension

/-- The key that the name of a file stands for; a name that begins with its only point has none. -/
def keyOfName? (name : String) : Option String :=
  if Text.endsWith name extension then
    let key := String.ofList (name.toList.take (name.length - extension.length))
    if key.isEmpty then none else some key
  else none

/-- The end of the validity of an entry that is written now, or the last moment that can be told. -/
def expiry (now : Int) (lifetime : Nat) : Int :=
  min (now + min (lifetime : Int) Number.int64Max) Number.int64Max

/-- A failed step as the failure of an operation. -/
def failure : StepError → CacheError
  | .notFound => .io "No such file or directory (os error 2)"
  | .other cause => .io cause

/-- Removes a file, and says whether there was one. -/
def removeIfPresent (name : String) (dir : Directory) : Except CacheError Bool × Directory :=
  match dir.remove name with
  | .ok dir => (.ok true, dir)
  | .error .notFound => (.ok false, dir)
  | .error error => (.error (failure error), dir)

/-- The value under a key. A file whose document is no longer valid is removed. -/
def get (now : Int) (key : String) (store : FileStore) :
    Except CacheError (Option Json) × FileStore :=
  match store.directory.read (fileName key) with
  | .error .notFound => (.ok none, store)
  | .error error => (.error (failure error), store)
  | .ok content =>
    match (Json.parse? content).bind StoredEntry.ofJson? with
    | none => (.error (.payload "invalid entry"), store)
    | some entry =>
      if entry.expiresAt ≤ now then
        let (removed, directory) := removeIfPresent (fileName key) store.directory
        (removed.map fun _ => none, { store with directory })
      else (.ok (some entry.value), store)

/-- Writes a value. -/
def set (now : Int) (key : String) (value : Json) (lifetime : Nat) (store : FileStore) :
    Except CacheError Unit × FileStore :=
  let lifetime := if lifetime = 0 then store.defaultLifetime else lifetime
  let entry : StoredEntry := ⟨key, expiry now lifetime, value⟩
  match store.directory.replace (fileName key) entry.toJson.print with
  | .ok directory => (.ok (), { store with directory })
  | .error .notFound => (.error (.persist key "No such file or directory (os error 2)"), store)
  | .error (.other cause) => (.error (.persist key cause), store)

/-- Removes the entry under a key, and says whether there was one. -/
def erase (key : String) (store : FileStore) : Except CacheError Bool × FileStore :=
  let (removed, directory) := removeIfPresent (fileName key) store.directory
  (removed, { store with directory })

/-- Removes the files with the given names up to the first that cannot be removed, and counts them. -/
def removeAll (removed : Nat) : List String → Directory → Except CacheError Nat × Directory
  | [], dir => (.ok removed, dir)
  | name :: names, dir =>
    match removeIfPresent name dir with
    | (.ok true, dir) => removeAll (removed + 1) names dir
    | (.ok false, dir) => removeAll removed names dir
    | (.error error, dir) => (.error error, dir)

/-- Removes the entries whose keys begin with a text, and says how many there were. -/
def flush (start : String) (store : FileStore) : Except CacheError Nat × FileStore :=
  let doomed := store.directory.names.filter fun name =>
    (keyOfName? name).any fun key => Text.startsWith key start
  let (removed, directory) := removeAll 0 doomed store.directory
  (removed, { store with directory })

end FileStore

end DynamicContent.Cache
