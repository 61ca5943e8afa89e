/-
# Running the program

The program is a function: from the words of the command line and what it finds around it, to what it
writes, the code that it ends with and the cached entries that it leaves behind. Reading the files and
writing the results is left to whoever calls it.
-/

import DynamicContent.Program.Arguments
import DynamicContent.Site.Json
import DynamicContent.Toml.Document

namespace DynamicContent.Program

/-- What the program finds where it runs: the texts of the files that it can read by their paths, the
variables of the environment, what is sent to it, the entries in the directory of the cache, and
the time. -/
structure Surroundings where
  files : SortedMap String
  environment : List (String × String)
  input : String
  entries : Cache.Directory
  now : Int

/-- What the program did. What it reports is not part of what it writes. -/
structure Outcome where
  output : String
  exitCode : Nat
  reported : List String
  entries : Cache.Directory

/-! ## Settings -/

/-- The bases of the names of the files that settings are looked for in, in this order. -/
def settingsBases : List String := ["config/default", programName]

/-- The kinds of documents by the ends of the names of their files. -/
def documentKinds : List (String × (String → Option Json)) :=
  [(".toml", Toml.parse?), (".json", fun text => Json.parse? text)]

/-- The layer in a document; none if it cannot be read or is no table. -/
def layer? (read : String → Option Json) (text : String) : Option (SortedMap Setting) :=
  match (read text).map Setting.ofJson with
  | some (.table fields) => some fields
  | _ => none

/-- The layer in a file that need not be there, with whatever kind of document it is. -/
def optionalLayer (files : SortedMap String) (base : String) :
    Except SettingsError (Option (SortedMap Setting)) :=
  match documentKinds.find? fun kind => files.contains (base ++ kind.1) with
  | none => .ok none
  | some (extension, read) =>
    match layer? read ((files.find? (base ++ extension)).getD "") with
    | some layer => .ok (some layer)
    | none => .error (.unreadable ("cannot decode " ++ base ++ extension))

/-- The layer in a file that has to be there, whose name may lack the end. -/
def requiredLayer (files : SortedMap String) (path : String) :
    Except SettingsError (SortedMap Setting) :=
  match files.find? path with
  | some text =>
    match (documentKinds.find? fun kind => Text.endsWith path kind.1).bind fun kind =>
      layer? kind.2 text with
    | some layer => .ok layer
    | none => .error (.unreadable ("cannot decode " ++ path))
  | none => do
    match ← optionalLayer files path with
    | some layer => pure layer
    | none => .error (.unreadable ("configuration file \"" ++ path ++ "\" not found"))

/-- The names that a file with a base may have. -/
def fileNames (base : String) : List String := documentKinds.map fun kind => base ++ kind.1

/-- The paths of the files that may be read to carry out arguments. -/
def Arguments.files (a : Arguments) : List String :=
  let chosen := match a.configFile with
    | some path => path :: fileNames path
    | none => []
  let others := match a.command with
    | .render request _ input _ => request.site :: input.toList
    | .dispatch request _ _ _ => [request.site]
    | _ => []
  settingsBases.flatMap fileNames ++ chosen ++ others

/-- Whether carrying out arguments takes what is sent to the program. -/
def Arguments.takesInput (a : Arguments) : Bool :=
  match a.command with
  | .render _ none none _ => true
  | _ => false

/-- The names of the variables that may set something. -/
def variableNames : List String :=
  configFileVariable :: SettingsDraft.sections.flatMap fun (name, fields) =>
    fields.map fun field => Text.asciiUpper (Setting.variableStart ++ name ++ "__" ++ field)

/-- The keys of the environment whose values are lists. -/
def listKeys : List String := ["functions.allowlist"]

/-- The settings that the files, the environment and the command line make. -/
def loadSettings (files : SortedMap String) (environment : List (String × String))
    (arguments : Arguments) : Except SettingsError Settings := do
  let plain ← settingsBases.mapM (optionalLayer files)
  let chosen ← match arguments.configFile with
    | some path => do pure [← requiredLayer files path]
    | none => pure []
  let layers := plain.filterMap id ++ chosen ++ [Setting.environmentLayer listKeys environment]
  match SettingsDraft.ofLayers? (layers.foldl Setting.addLayer (.table [])) with
  | some draft => Settings.ofDraft (arguments.overrides.apply draft)
  | none => .error (.unreadable "a value is of a wrong type")

/-! ## Commands -/

/-- Whether a directory cannot be made because a file is at its path or above it. -/
def isObstructed (files : SortedMap String) (directory : String) : Bool :=
  let parts := Text.splitString (· == '/') directory
  (List.range parts.length).any fun n => files.contains (Text.join "/" (parts.take (n + 1)))

/-- The site in a file. -/
def loadSite (files : SortedMap String) (path : String) : Except ProgramError Site :=
  match files.find? path with
  | none => .error (.io ("cannot read " ++ path))
  | some text =>
    match Toml.parse? text with
    | none => .error (.siteDocument "the document cannot be read")
    | some document =>
      match Site.ofJson document with
      | .ok site => .ok site
      | .error e => .error (.siteDocument e.message)

/-- A line of output. -/
def line (s : String) : String := s ++ "\n"

/-- Runs a rendering for a site, and gives what is written of it. Nothing is written of one in which the
clock overran. -/
def runRendering (surroundings : Surroundings) (settings : Settings) (request : RequestArguments)
    (rendering : Engine → Request → RenderM Engine.Fragment) (written : Engine.Fragment → String)
    (store : Cache.Store) : Except ProgramError (String × Cache.Store) := do
  let site ← loadSite surroundings.files request.site
  let engine := (settings.setup surroundings.now).engine site
    (settings.openCache surroundings.now)
  let (fragment, world) := rendering engine request.toRequest (World.start store)
  if world.cache.clockOverran then .error .clockOverran
  return (written fragment, world.cache.store)

/-- Carries out a command: what it writes, and the entries in the cache after it. -/
def carryOut (surroundings : Surroundings) (settings : Settings) (store : Cache.Store) :
    Command → Except ProgramError (String × Cache.Store)
  | .render request text input showsAssets => do
    let text ← match text, input with
      | some text, _ => pure text
      | none, some path =>
        match surroundings.files.find? path with
        | some text => pure text
        | none => .error (.io ("cannot read " ++ path))
      | none, none => pure surroundings.input
    runRendering surroundings settings request (fun engine request => engine.expandFragment request text)
      (fun fragment => line fragment.html ++
        if showsAssets then String.join (fragment.assets.map fun handle => line ("asset: " ++ handle))
        else "") store
  | .dispatch request typeTag attrs content =>
    if (Text.trim typeTag).isEmpty then .error (.validation "--type must not be empty")
    else
      let attrs := (Attributes.ofTexts (pairs attrs)).insertText "type" typeTag
      runRendering surroundings settings request
        (fun engine request => engine.renderFragment request attrs content)
        (fun fragment => line fragment.html) store
  | .flushCache group =>
    let (_, after) := (settings.openCache surroundings.now).flush group ⟨store, [], []⟩
    .ok ("", after.store)
  | .tellKey group payload =>
    let payload := (Json.parse? payload).getD (.string payload)
    .ok (line (Cache.argumentKey payload group), store)

/-- The entries in the directory of a store. -/
def entriesOf (before : Cache.Directory) : Cache.Store → Cache.Directory
  | .file store => store.directory
  | _ => before

/-- Carries out what the arguments ask for. -/
def runArguments (surroundings : Surroundings) (arguments : Arguments) :
    Except ProgramError (String × Cache.Directory) := do
  let settings ← match loadSettings surroundings.files surroundings.environment arguments with
    | .ok settings => pure settings
    | .error e => .error (.settings e)
  if settings.cache.backend = .file && isObstructed surroundings.files settings.cache.directory then
    .error (.cache (.io "cannot make the directory of the cache"))
  let store := settings.store surroundings.entries
  let (output, store) ← carryOut surroundings settings store arguments.command
  return (output, entriesOf surroundings.entries store)

/-- The code that the program ends with if its command line is not carried out. -/
def usageExitCode : UsageError → Nat
  | .helpAsked | .versionAsked => 0
  | _ => 2

/-- How the program is called. -/
def usageLine : String := "Usage: " ++ programName ++ " [OPTIONS] <COMMAND>"

/-- What is written if the command line is not carried out. -/
def usageOutput : UsageError → String
  | .helpAsked =>
    line usageLine ++ line "" ++ line "Commands:" ++
      String.join (usage.commands.map fun entry => line ("  " ++ entry.1))
  | .versionAsked => line (programName ++ " " ++ programVersion)
  | _ => ""

/-- Runs the program. -/
def run (surroundings : Surroundings) (words : List String) : Outcome :=
  match Arguments.read surroundings.environment words with
  | .error e =>
    let code := usageExitCode e
    ⟨usageOutput e, code, if code = 0 then [] else [usageLine], surroundings.entries⟩
  | .ok arguments =>
    match runArguments surroundings arguments with
    | .ok (output, entries) => ⟨output, 0, [], entries⟩
    | .error e => ⟨"", e.exitCode, [e.report], surroundings.entries⟩

end DynamicContent.Program
