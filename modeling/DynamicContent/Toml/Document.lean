/-
# Configuration documents

A document of the TOML format is a sequence of lines, each of which names a value by a dotted key or
opens a table for the lines that follow. Its value is an object. A table may be opened once, a key
set once, and a value that is written out in one place is closed.
-/

import DynamicContent.Toml.Scalar

namespace DynamicContent.Toml

/-! ## Tables under construction -/

/-- How a table came about: on the way to another one, by a line of its own, or by a dotted key. -/
inductive Origin where
  | implied
  | opened
  | dotted
deriving DecidableEq

/-- What a key holds: a closed value, a table, or a list of tables, the newest first. -/
inductive Node where
  | value (v : Json)
  | table (origin : Origin) (entries : List (String × Node))
  | tables (items : List (List (String × Node)))

/-- The entries of a table, the newest first. -/
abbrev Entries := List (String × Node)

/-- What a key holds. -/
def Entries.find? (key : String) : Entries → Option Node
  | [] => none
  | (k, node) :: rest => if k = key then some node else Entries.find? key rest

/-- Sets what a key holds. -/
def Entries.set (key : String) (node : Node) : Entries → Entries
  | [] => [(key, node)]
  | (k, old) :: rest => if k = key then (k, node) :: rest else (k, old) :: Entries.set key node rest

mutual

/-- A node as JSON. -/
def Node.toJson : Node → Json
  | .value v => v
  | .table _ entries => .ofFields (entriesToJson entries)
  | .tables items => .array (tablesToJson items).reverse

/-- The entries of a table as JSON. -/
def entriesToJson : List (String × Node) → List (String × Json)
  | [] => []
  | (k, node) :: rest => (k, node.toJson) :: entriesToJson rest

/-- A list of tables as JSON. -/
def tablesToJson : List (List (String × Node)) → List Json
  | [] => []
  | entries :: rest => .ofFields (entriesToJson entries) :: tablesToJson rest

end

/-- Changes the table at the end of a path of opened tables; tables that are missing on the way are
implied. -/
def changeAt (f : Entries → Option Entries) : List String → Entries → Option Entries
  | [], entries => f entries
  | key :: path, entries =>
    match entries.find? key with
    | none => (changeAt f path []).map fun inner => entries.set key (.table .implied inner)
    | some (.table origin inner) =>
      (changeAt f path inner).map fun inner => entries.set key (.table origin inner)
    | some (.tables (newest :: older)) =>
      (changeAt f path newest).map fun inner => entries.set key (.tables (inner :: older))
    | _ => none

/-- Opens a table. -/
def openTable (key : String) (entries : Entries) : Option Entries :=
  match entries.find? key with
  | none => some (entries.set key (.table .opened []))
  | some (.table .implied inner) => some (entries.set key (.table .opened inner))
  | _ => none

/-- Opens a further table of a list. -/
def openListed (key : String) (entries : Entries) : Option Entries :=
  match entries.find? key with
  | none => some (entries.set key (.tables [[]]))
  | some (.tables items) => some (entries.set key (.tables ([] :: items)))
  | _ => none

/-- Sets a dotted key to a value. -/
def setKey (v : Json) : List String → Entries → Option Entries
  | [], _ => none
  | [key], entries =>
    match entries.find? key with
    | none => some (entries.set key (.value v))
    | some _ => none
  | key :: path, entries =>
    match entries.find? key with
    | none => (setKey v path []).map fun inner => entries.set key (.table .dotted inner)
    | some (.table .opened _) => none
    | some (.table origin inner) =>
      (setKey v path inner).map fun inner => entries.set key (.table origin inner)
    | _ => none

/-! ## Keys -/

/-- The characters of a key without quotes. -/
def isKeyChar (c : Char) : Bool := c.isAlphanum || c == '_' || c == '-'

/-- One part of a key. -/
def takeKeyPart? (cs : List Char) : Option (String × List Char) :=
  match takeLine? cs with
  | some (text, rest) => some (String.ofList text, rest)
  | none =>
    let word := cs.takeWhile isKeyChar
    if word.isEmpty then none else some (String.ofList word, cs.drop word.length)

/-- A dotted key, with the spaces after it. The first argument bounds the number of parts. -/
def takeKey? : Nat → List Char → Option (List String × List Char)
  | 0, _ => none
  | n + 1, cs => do
    let (part, cs) ← takeKeyPart? (skipSpaces cs)
    match skipSpaces cs with
    | '.' :: rest =>
      let (parts, rest) ← takeKey? n rest
      some (part :: parts, rest)
    | rest => some ([part], rest)

/-! ## Values -/

/-- Whatever may stand between the parts of a list: spaces, ends of lines and comments. The first
argument bounds the number of characters. -/
def skipBetween? : Nat → List Char → Option (List Char)
  | 0, _ => none
  | n + 1, cs =>
    match skipSpaces cs with
    | '#' :: rest => skipBetween? n (rest.dropWhile isPlain)
    | rest =>
      match takeNewline? rest with
      | some rest => skipBetween? n rest
      | none => some rest

mutual

/-- A value. The first argument bounds the depth and the number of parts. -/
def takeValue? : Nat → List Char → Option (Json × List Char)
  | 0, _ => none
  | n + 1, '[' :: cs => do
    let (items, rest) ← takeItems? n cs
    some (.array items, rest)
  | n + 1, '{' :: cs => do
    let (entries, rest) ← takeEntries? n [] cs
    some (.ofFields (entriesToJson entries), rest)
  | _ + 1, cs =>
    match takeText? cs with
    | some (text, rest) => some (.string (String.ofList text), rest)
    | none => do
      let (word, rest) := takeBare cs
      some (← bareValue? word, rest)

/-- The rest of a list. -/
def takeItems? : Nat → List Char → Option (List Json × List Char)
  | 0, _ => none
  | n + 1, cs => do
    match ← skipBetween? (cs.length + 1) cs with
    | ']' :: rest => some ([], rest)
    | cs =>
      let (item, cs) ← takeValue? n cs
      match ← skipBetween? (cs.length + 1) cs with
      | ',' :: rest =>
        let (items, rest) ← takeItems? n rest
        some (item :: items, rest)
      | ']' :: rest => some ([item], rest)
      | _ => none

/-- The rest of a table that is written out in one place. -/
def takeEntries? : Nat → Entries → List Char → Option (Entries × List Char)
  | 0, _, _ => none
  | n + 1, entries, cs => do
    match ← skipBetween? (cs.length + 1) cs with
    | '}' :: rest => some (entries, rest)
    | cs =>
      let (key, cs) ← takeKey? (cs.length + 1) cs
      match cs with
      | '=' :: cs =>
        let (v, cs) ← takeValue? n (skipSpaces cs)
        let entries ← setKey v key entries
        match ← skipBetween? (cs.length + 1) cs with
        | ',' :: rest => takeEntries? n entries rest
        | '}' :: rest => some (entries, rest)
        | _ => none
      | _ => none

end

/-! ## Lines -/

/-- The rest of a line with nothing but spaces and a comment. -/
def endLine? (cs : List Char) : Option (List Char) :=
  let rest := match skipSpaces cs with
    | '#' :: rest => rest.dropWhile isPlain
    | rest => rest
  if rest.isEmpty then some [] else takeNewline? rest

/-- The lines of a document, from a table with a given path on. The first argument bounds their
number. -/
def lines? : Nat → List String → Entries → List Char → Option Entries
  | 0, _, _, _ => none
  | _ + 1, _, root, [] => some root
  | n + 1, path, root, cs =>
    match skipSpaces cs with
    | '[' :: '[' :: rest => do
      let (key, rest) ← takeKey? (rest.length + 1) rest
      match rest with
      | ']' :: ']' :: rest =>
        let root ← changeAt (openListed (key.getLast?.getD "")) key.dropLast root
        lines? n key root (← endLine? rest)
      | _ => none
    | '[' :: rest => do
      let (key, rest) ← takeKey? (rest.length + 1) rest
      match rest with
      | ']' :: rest =>
        let root ← changeAt (openTable (key.getLast?.getD "")) key.dropLast root
        lines? n key root (← endLine? rest)
      | _ => none
    | rest =>
      match endLine? rest with
      | some rest => lines? n path root rest
      | none => do
        let (key, rest) ← takeKey? (rest.length + 1) rest
        match rest with
        | '=' :: rest =>
          let (v, rest) ← takeValue? (rest.length + 1) (skipSpaces rest)
          let root ← changeAt (setKey v key) path root
          lines? n path root (← endLine? rest)
        | _ => none

/-- The object that a document describes. -/
def parse? (text : String) : Option Json :=
  let cs := match text.toList with
    | '\ufeff' :: cs => cs
    | cs => cs
  (lines? (cs.length + 1) [] [] cs).map fun entries => .ofFields (entriesToJson entries)

end DynamicContent.Toml
