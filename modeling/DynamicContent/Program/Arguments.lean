/-
# What the program is asked to do

The command line names one of four things to do: to render a text, to render one element, to empty the
cache, and to tell a key of the cache. Rendering needs the document of a site and takes the request to
render for. Some options change the settings and may stand at any command; of several such occurrences the
one at the innermost command counts.
-/

import DynamicContent.Program.Settings
import DynamicContent.Program.Usage
import DynamicContent.Site.Request

namespace DynamicContent.Program

/-- What the command line changes in the settings. -/
structure Overrides where
  logLevel : Option String
  logsJson : Option Bool
  backend : Option String
  directory : Option String
  maxPasses : Option Nat
  maxDepth : Option Nat
  allowed : List String
deriving Inhabited

/-- The request to render for, and the document of the site. -/
structure RequestArguments where
  site : String
  query : List String
  body : List String
  cookies : List String
  session : List String
  server : List String
  uri : String
  post : Option Nat
  term : Option Nat
  user : Option Nat
  canManage : Bool
  adminScreen : Bool
deriving Inhabited

/-- What to do. -/
inductive Command where
  | render (request : RequestArguments) (text input : Option String) (showsAssets : Bool)
  | dispatch (request : RequestArguments) (typeTag : String) (attrs : List String) (content : String)
  | flushCache (group : Option String)
  | tellKey (group payload : String)
deriving Inhabited

/-- What the program is asked to do. -/
structure Arguments where
  configFile : Option String
  overrides : Overrides
  command : Command
deriving Inhabited

/-! ## The usage of the program -/

/-- An option with one value. -/
def option (name : String) (kind : ValueKind) : OptionUsage := ⟨name, .set, kind⟩

/-- An option that may be given several times. -/
def optionList (name : String) : OptionUsage := ⟨name, .append, .text⟩

/-- An option without a value. -/
def switch (name : String) : OptionUsage := ⟨name, .switch, .flag⟩

/-- The options at every command. -/
def commonOptions : List OptionUsage := [
  option "log-level" .text, option "log-json" .flag, option "cache-backend" .text,
  option "cache-directory" .path, option "resolver-max-passes" .number,
  option "resolver-max-depth" .number, ⟨"allow-function", .appendList, .text⟩]

/-- The option that asks for help. -/
def helpOption : OptionUsage := ⟨"help", .ask .helpAsked, .flag⟩

/-- The options of a request. -/
def requestOptions : List OptionUsage := [
  option "site" .path, optionList "query", optionList "body", optionList "cookie",
  optionList "session", optionList "server", option "uri" .text, option "post" .number,
  option "term" .number, option "user" .number, switch "manage", switch "admin-screen"]

/-- A command without commands below it. -/
def leafUsage (options : List OptionUsage) (operands : List OptionUsage) (required : List String)
    (exclusive : List String) : Usage :=
  .command ⟨options ++ commonOptions ++ [helpOption], operands, required, exclusive, false⟩ []

/-- A command that needs one of the commands below it. -/
def groupUsage (options : List OptionUsage) (below : List (String × Usage)) : Usage :=
  .command ⟨options ++ commonOptions ++ [helpOption], [], [], [], true⟩ below

/-- The name of the program. -/
def programName : String := "weft"

/-- The version of the program. -/
def programVersion : String := "0.1.0"

/-- The usage of the program. -/
def usage : Usage :=
  groupUsage [option "config-file" .path, ⟨"version", .ask .versionAsked, .flag⟩] [
    ("render", leafUsage
      (requestOptions ++ [option "text" .text, option "input" .path, switch "show-assets"])
      [] ["site"] ["text", "input"]),
    ("dispatch", leafUsage
      (requestOptions ++ [option "type" .text, optionList "attr", option "content" .text])
      [] ["site", "type"] []),
    ("cache", groupUsage [] [
      ("flush", leafUsage [option "group" .text] [] [] []),
      ("key", leafUsage [option "group" .text] [option "payload" .text] ["payload"] [])])]

/-- The variable of the environment that stands in for the option `config-file`. -/
def configFileVariable : String := "WEFT_CONFIG_FILE"

/-! ## Reading the arguments -/

/-- The one value of an option. -/
def given? (given : Given) (name : String) : Option String := (given.find? name).bind List.head?

/-- The value of an option that is a number. -/
def givenNumber? (given : Given) (name : String) : Option Nat :=
  (given? given name).bind fun s => Number.nat64OfText? s.toList

/-- The values of an option that may be given several times. -/
def givenList (given : Given) (name : String) : List String := (given.find? name).getD []

/-- What is changed in the settings. -/
def overridesOf (given : Given) : Overrides where
  logLevel := given? given "log-level"
  logsJson := (given? given "log-json").bind flagOfWord?
  backend := given? given "cache-backend"
  directory := given? given "cache-directory"
  maxPasses := givenNumber? given "resolver-max-passes"
  maxDepth := givenNumber? given "resolver-max-depth"
  allowed := givenList given "allow-function"

/-- The request to render for. -/
def requestArgumentsOf (given : Given) : RequestArguments where
  site := (given? given "site").getD ""
  query := givenList given "query"
  body := givenList given "body"
  cookies := givenList given "cookie"
  session := givenList given "session"
  server := givenList given "server"
  uri := (given? given "uri").getD "/"
  post := givenNumber? given "post"
  term := givenNumber? given "term"
  user := givenNumber? given "user"
  canManage := given.contains "manage"
  adminScreen := given.contains "admin-screen"

/-- What to do, by the name of the innermost command. -/
def commandOf (name : String) (given : Given) : Command :=
  match name with
  | "render" =>
    .render (requestArgumentsOf given) (given? given "text") (given? given "input")
      (given.contains "show-assets")
  | "dispatch" =>
    .dispatch (requestArgumentsOf given) ((given? given "type").getD "") (givenList given "attr")
      ((given? given "content").getD "")
  | "key" => .tellKey ((given? given "group").getD "default") ((given? given "payload").getD "")
  | _ => .flushCache (given? given "group")

namespace Arguments

/-- What the words of a command line ask for, given the variables of the environment. -/
def read (environment : List (String × String)) (words : List String) :
    Except UsageError Arguments := do
  let standIns := match environment.find? (·.1 = configFileVariable) with
    | some (_, path) => SortedMap.insert "config-file" [path] []
    | none => []
  let levels ← readWords usage standIns .start words
  let all := (levels.flatMap (·.2)).foldl (fun given entry => SortedMap.insert entry.1 entry.2 given) []
  let name := (levels.dropLast.getLast?.map (·.1)).getD ""
  return ⟨given? ((levels.head?.map (·.2)).getD []) "config-file", overridesOf all,
    commandOf name ((levels.getLast?.map (·.2)).getD [])⟩

end Arguments

/-! ## What the arguments mean -/

/-- The pairs that texts of the form `key=value` denote. A text without `=` has the empty value, and
one without a key is left out. -/
def pairs (entries : List String) : List (String × String) :=
  entries.filterMap fun entry =>
    let (key, value) := (Text.cut "=" entry).getD (entry, "")
    let key := Text.trim key
    if key.isEmpty then none else some (key, value)

/-- The request that arguments describe. There is a session if any of its values is given. -/
def RequestArguments.toRequest (a : RequestArguments) : Request where
  query := .ofList (pairs a.query)
  body := .ofList (pairs a.body)
  cookies := .ofList (pairs a.cookies)
  session := if a.session.isEmpty then none else some (.ofList (pairs a.session))
  server := .ofList (pairs a.server)
  uri := a.uri
  currentPost := a.post
  queriedTerm := a.term
  viewer := ⟨a.user, a.canManage⟩
  adminScreen := a.adminScreen

/-- A draft of the settings with what the command line changes in it. -/
def Overrides.apply (o : Overrides) (draft : SettingsDraft) : SettingsDraft :=
  { draft with
    logLevel := o.logLevel.orElse fun _ => draft.logLevel
    logsJson := o.logsJson.orElse fun _ => draft.logsJson
    backend := o.backend.orElse fun _ => draft.backend
    directory := o.directory.orElse fun _ => draft.directory
    maxPasses := o.maxPasses.orElse fun _ => draft.maxPasses
    maxDepth := o.maxDepth.orElse fun _ => draft.maxDepth
    allowed := draft.allowed ++ o.allowed }

end DynamicContent.Program
