/-
# Reading a command line

What a command takes is described by a *usage*: its options and operands, and the commands below it. The
words of a command line are read from left to right. An option that takes a value has it attached with
`=` or in the next word; a value that was begun is checked when the next option, operand or the end
comes, so that of two faults the later one may be reported first. A word that names a command hands
the rest to that command, unless it is the value of an option; what is missing is looked for last.
-/

import DynamicContent.Number.Integer
import DynamicContent.Text.LetterCase
import DynamicContent.Data.SortedMap

namespace DynamicContent.Program

/-- Why a command line is not carried out. Asking for help or for the version is a reason, too. -/
inductive UsageError where
  | helpAsked
  | versionAsked
  | helpInstead
  | missingCommand
  | unknownCommand
  | unknownArgument
  | missingArgument
  | conflict
  | missingValue
  | invalidValue
  | unwantedValue
deriving DecidableEq, Inhabited

/-- What the value of an option may be. -/
inductive ValueKind where
  | text
  | path
  | number
  | flag
deriving DecidableEq, Inhabited

/-- What an option does: it sets one value, adds one or several, is switched on, or asks for something
else to be done. -/
inductive OptionAction where
  | set
  | append
  | appendList
  | switch
  | ask (error : UsageError)
deriving DecidableEq, Inhabited

/-- An option or operand. -/
structure OptionUsage where
  name : String
  action : OptionAction
  kind : ValueKind
deriving DecidableEq, Inhabited

/-- What a command takes itself. Of the options that exclude each other at most one may be given. -/
structure CommandUsage where
  options : List OptionUsage
  operands : List OptionUsage
  required : List String
  exclusive : List String
  needsCommand : Bool
deriving Inhabited

/-- A command and the commands below it. -/
inductive Usage where
  | command (own : CommandUsage) (below : List (String × Usage))
deriving Inhabited

/-- The values that were given, by the names of their options. -/
abbrev Given := SortedMap (List String)

namespace Usage

/-- What the command takes itself. -/
def own : Usage → CommandUsage
  | command own _ => own

/-- The commands below. -/
def commands : Usage → List (String × Usage)
  | command _ below => below

/-- The command below with a name. -/
def command? (usage : Usage) (name : String) : Option Usage :=
  (usage.commands.find? (·.1 = name)).map (·.2)

/-- The option that is written with a name. -/
def option? (usage : Usage) (name : String) : Option OptionUsage :=
  usage.own.options.find? (·.name = name)

end Usage

/-- The flag that a word stands for. -/
def flagOfWord? (s : String) : Option Bool :=
  let word := Text.lower s
  if ["y", "yes", "t", "true", "on", "1"].contains word then some true
  else if ["n", "no", "f", "false", "off", "0"].contains word then some false
  else none

/-- Refuses a value that is not of a kind. -/
def checkValue (kind : ValueKind) (s : String) : Except UsageError Unit :=
  match kind with
  | .text => .ok ()
  | .path => if s.isEmpty then .error .missingValue else .ok ()
  | .number => if (Number.nat64OfText? s.toList).isSome then .ok () else .error .invalidValue
  | .flag => if (flagOfWord? s).isSome then .ok () else .error .invalidValue

/-- What was read of a command so far: the values that were checked, an option or operand whose value is
not checked yet, whether its value is still to come, how many operands there were, and whether all
further words are operands. -/
structure Reading where
  given : Given
  pending : Option (OptionUsage × Option String)
  operands : Nat
  operandsOnly : Bool
deriving Inhabited

namespace Reading

/-- The beginning. -/
def start : Reading := ⟨[], none, 0, false⟩

/-- Whether the value of an option is to come. -/
def awaitsValue (r : Reading) : Bool :=
  match r.pending with
  | some (_, none) => true
  | _ => false

/-- Takes the value of an option, or what an option without one does. -/
def take (option : OptionUsage) (value : Option String) (r : Reading) : Except UsageError Reading := do
  let before := r.given.find? option.name
  let keep (values : List String) : Reading := { r with given := r.given.insert option.name values }
  match option.action, value with
  | .ask error, _ => .error error
  | .switch, _ => if before.isSome then .error .conflict else .ok (keep [])
  | _, none => .error .missingValue
  | .set, some v =>
    if before.isSome then .error .conflict
    else
      checkValue option.kind v
      pure (keep [v])
  | .append, some v =>
    checkValue option.kind v
    pure (keep (before.getD [] ++ [v]))
  | .appendList, some v => pure (keep (before.getD [] ++ Text.splitCommas v))

/-- Takes what is pending. -/
def settle (r : Reading) : Except UsageError Reading :=
  match r.pending with
  | none => .ok r
  | some (option, value) => take option value { r with pending := none }

/-- Reads an option that is written with a name and perhaps an attached value. -/
def addOption (usage : Usage) (name : String) (attached : Option String) (r : Reading) :
    Except UsageError Reading :=
  match usage.option? name with
  | none => .error .unknownArgument
  | some option =>
    match option.action, attached with
    | .switch, some _ | .ask _, some _ => .error .unwantedValue
    | .switch, none | .ask _, none => do (← r.settle).take option none
    | _, some v => do (← r.settle).take option (some v)
    | _, none => do return { ← r.settle with pending := some (option, none) }

/-- Reads an option of one letter; those that follow it in the word do not matter. -/
def addLetter (usage : Usage) (letter : Char) (r : Reading) : Except UsageError Reading :=
  match letter with
  | 'h' => r.addOption usage "help" none
  | 'V' => r.addOption usage "version" none
  | _ => .error .unknownArgument

/-- Reads a word that is no option. -/
def addOperand (usage : Usage) (word : String) (r : Reading) : Except UsageError Reading :=
  match usage.own.operands[r.operands]? with
  | some operand => do
    return { ← r.settle with pending := some (operand, some word), operands := r.operands + 1 }
  | none =>
    if usage.commands.isEmpty || (r.operandsOnly && (usage.command? word).isSome) then
      .error .unknownArgument
    else .error .unknownCommand

/-- The name and the attached value of an option that is written in full. -/
def splitLong? (word : String) : Option (String × Option String) :=
  (Text.dropPrefix? "--" word).map fun rest =>
    match Text.cut "=" rest with
    | some (name, value) => (name, some value)
    | none => (rest, none)

/-- Reads a word that names no command. -/
def addWord (usage : Usage) (word : String) (r : Reading) : Except UsageError Reading :=
  if r.operandsOnly then r.addOperand usage word
  else if word = "--" then .ok { r with operandsOnly := true }
  else
    match splitLong? word with
    | some (name, attached) => r.addOption usage name attached
    | none =>
      match word.toList with
      | '-' :: letter :: _ => r.addLetter usage letter
      | _ =>
        match r.pending with
        | some (option, none) => .ok { r with pending := some (option, some word) }
        | _ => r.addOperand usage word

/-- What was given, once nothing is missing and no two values exclude each other. -/
def finish (usage : Usage) (environment : Given) (hasCommand : Bool) (r : Reading) :
    Except UsageError Given := do
  let r ← r.settle
  let given ← environment.foldlM (fun (r : Reading) (entry : String × List String) =>
    match usage.option? entry.1, r.given.contains entry.1 with
    | some option, false => r.take option entry.2.head?
    | _, _ => pure r) r
  let given := given.given
  if !hasCommand && usage.own.needsCommand then
    .error (if given.isEmpty then .helpInstead else .missingCommand)
  else if 1 < (usage.own.exclusive.filter given.contains).length then .error .conflict
  else if !usage.own.required.all given.contains then .error .missingArgument
  else pure given

end Reading

/-- What is said to a request for help with a command below. -/
def helpFor (usage : Usage) : List String → UsageError
  | [] => .helpAsked
  | name :: rest =>
    match usage.command? name with
    | some usage => helpFor usage rest
    | none =>
      if name = "help" && !usage.commands.isEmpty then
        if rest.isEmpty then .helpAsked else .unknownCommand
      else .unknownCommand

/-- The commands that words name, from the outermost to the innermost, each with what was given to it.
Values that the environment has for options of the outermost command stand in for missing ones. -/
def readWords (usage : Usage) (environment : Given) (r : Reading) :
    List String → Except UsageError (List (String × Given))
  | [] => do
    return [("", ← r.finish usage environment false)]
  | word :: rest =>
    let isCommand := !r.operandsOnly && !r.awaitsValue
    match isCommand, usage.command? word with
    | true, some below => do
      let inner ← readWords below [] .start rest
      let given ← r.finish usage environment true
      return (word, given) :: inner
    | _, _ =>
      if isCommand && word = "help" && !usage.commands.isEmpty then .error (helpFor usage rest)
      else do readWords usage environment (← r.addWord usage word) rest

end DynamicContent.Program
