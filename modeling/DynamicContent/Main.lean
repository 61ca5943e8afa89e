/-
# The program

The outer layer: it reads the files, variables and cached entries that a command line may need, has the
command carried out, and writes what comes of it. It decides nothing itself.
-/

import DynamicContent.Program.Run
import Std.Time.DateTime.Timestamp

namespace DynamicContent.Program

/-- The text of a file, if it can be read. -/
def readText? (path : String) : IO (Option String) := do
  try
    return some (← IO.FS.readFile path)
  catch _ => return none

/-- The texts of those files that can be read. -/
def readTexts (paths : List String) : IO (SortedMap String) := do
  let read ← paths.mapM fun path => return (← readText? path).map (path, ·)
  return SortedMap.ofList (read.filterMap id)

/-- The variables of the environment that may set something. -/
def readVariables : IO (List (String × String)) := do
  let read ← variableNames.mapM fun name => return (← IO.getEnv name).map (name, ·)
  return read.filterMap id

/-- What is in a directory; nothing if there is no such directory. -/
def readEntries (directory : String) : IO Cache.Directory := do
  try
    let entries ← (System.mkFilePath [directory]).readDir
    let read ← entries.toList.mapM fun entry => do
      match ← readText? (directory ++ "/" ++ entry.fileName) with
      | some text => return (entry.fileName, Cache.DirectoryEntry.file text)
      | none => return (entry.fileName, .folder)
    return SortedMap.ofList read
  catch _ => return []

/-- Makes a directory hold what it is to hold, file by file. -/
def writeEntries (directory : String) (before after : Cache.Directory) : IO Unit := do
  IO.FS.createDirAll directory
  for (name, _) in before do
    if !after.contains name then IO.FS.removeFile (directory ++ "/" ++ name)
  for (name, entry) in after do
    match entry with
    | .file text =>
      if before.find? name ≠ some entry then
        let path := directory ++ "/" ++ name
        IO.FS.writeFile (path ++ ".tmp") text
        IO.FS.rename (path ++ ".tmp") path
    | .folder => pure ()

/-- The directory of the cache that a command line asks for, if its entries are kept in files. -/
def cacheDirectory? (files : SortedMap String) (environment : List (String × String))
    (arguments : Arguments) : Option String :=
  match loadSettings files environment arguments with
  | .ok settings => if settings.cache.backend = .file then some settings.cache.directory else none
  | .error _ => none

/-- Gathers what a command line needs. -/
def gather (environment : List (String × String)) (arguments : Option Arguments) :
    IO (Option String × Surroundings) := do
  let files ← readTexts ((arguments.map Arguments.files).getD [])
  let directory := arguments.bind (cacheDirectory? files environment)
  let entries ← match directory with
    | some directory => readEntries directory
    | none => pure []
  let input ← match arguments.map Arguments.takesInput with
    | some true => IO.FS.readFile "/dev/stdin"
    | _ => pure ""
  let now := (← Std.Time.Timestamp.now).toSecondsSinceUnixEpoch.val
  return (directory, ⟨files, environment, input, entries, now⟩)

end DynamicContent.Program

open DynamicContent Program in
/-- Carries out a command line. -/
def main (words : List String) : IO UInt32 := do
  let environment ← readVariables
  let (directory, surroundings) ← gather environment (Arguments.read environment words).toOption
  let outcome := run surroundings words
  match directory with
  | some directory => writeEntries directory surroundings.entries outcome.entries
  | none => pure ()
  IO.print outcome.output
  for text in outcome.reported do
    IO.eprintln text
  return outcome.exitCode.toUInt32
