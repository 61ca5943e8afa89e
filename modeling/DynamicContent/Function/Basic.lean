/-
# Host functions

Functions that directives and elements may call by name. They take texts and give a text, or refuse.
-/

import DynamicContent.Data.SortedMap
import DynamicContent.Text.Blank

namespace DynamicContent

/-- Why a function gave no text. -/
inductive FunctionError where
  | arity (name expected : String)
  | argument (name message : String)
deriving DecidableEq, Inhabited

/-- What is reported of a refusal. -/
def FunctionError.message : FunctionError → String
  | arity name expected => "function `" ++ name ++ "` expects " ++ expected
  | argument name message => "function `" ++ name ++ "` rejected argument: " ++ message

/-- A function from texts to a text. -/
abbrev HostFunction := List String → Except FunctionError String

/-- The name under which a function is kept. -/
def functionName (name : String) : String := Text.asciiLower (Text.trim name)

/-- The registered functions by name. -/
structure Functions where
  byName : SortedMap HostFunction

namespace Functions

/-- No functions. -/
def empty : Functions := ⟨[]⟩

instance : Inhabited Functions := ⟨empty⟩

/-- Registers a function in place of an earlier one with the name. -/
def register (name : String) (function : HostFunction) (functions : Functions) : Functions :=
  ⟨functions.byName.insert (functionName name) function⟩

/-- Whether a name is registered. -/
def contains (functions : Functions) (name : String) : Bool :=
  functions.byName.contains (functionName name)

/-- Calls a function; `none` if the name is not registered. -/
def call? (functions : Functions) (name : String) (args : List String) :
    Option (Except FunctionError String) :=
  (functions.byName.find? (functionName name)).map fun function => function args

/-- The registered names in order. -/
def names (functions : Functions) : List String := functions.byName.keys

end Functions

end DynamicContent
