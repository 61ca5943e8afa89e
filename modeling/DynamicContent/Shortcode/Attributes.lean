/-
# The attributes of a shortcode

Between the name and the end of its opening tag a shortcode holds attributes: a name with a value
behind `=`, or a value alone, which is named for its position. A value may stand in quotes of either
kind. Every text can be read: a quote that is not closed extends to the end.

The reader takes one character at a time, so that its result on a text is the result of its state
after a beginning on what remains.
-/

import DynamicContent.Attribute.Basic

namespace DynamicContent.Shortcode

/-- What a shortcode holds between its name and its end. -/
inductive Token where
  | named (name value : List Char)
  | positional (value : List Char)
deriving DecidableEq, Inhabited

/-- Where the reader is. What has been read of a word is kept in reverse. -/
inductive Reading where
  | between
  | word (read : List Char)
  | valueStart (name : List Char)
  | bareValue (name read : List Char)
  | quoted (name : Option (List Char)) (quote : Char) (read : List Char)
deriving DecidableEq, Inhabited

/-- Whether a character opens a quoted value. -/
def isQuote (c : Char) : Bool := c == '"' || c == '\''

/-- A token with a name or without one. -/
def Token.ofName (name : Option (List Char)) (value : List Char) : Token :=
  match name with
  | some name => named name value
  | none => positional value

namespace Reading

/-- The state after a character, and the token that it completes. -/
def step (r : Reading) (c : Char) : Reading × Option Token :=
  match r with
  | between =>
    if Text.isBlank c then (between, none)
    else if isQuote c then (quoted none c [], none)
    else if c = '=' then (valueStart [], none)
    else (word [c], none)
  | word read =>
    if Text.isBlank c then (between, some (.positional read.reverse))
    else if c = '=' then (valueStart read.reverse, none)
    else (word (c :: read), none)
  | valueStart name =>
    if isQuote c then (quoted (some name) c [], none)
    else if Text.isBlank c then (between, some (.named name []))
    else (bareValue name [c], none)
  | bareValue name read =>
    if Text.isBlank c then (between, some (.named name read.reverse))
    else (bareValue name (c :: read), none)
  | quoted name quote read =>
    if c = quote then (between, some (.ofName name read.reverse))
    else (quoted name quote (c :: read), none)

/-- The token that the end of the text completes. -/
def finish : Reading → Option Token
  | between => none
  | word read => some (.positional read.reverse)
  | valueStart name => some (.named name [])
  | bareValue name read => some (.named name read.reverse)
  | quoted name _ read => some (.ofName name read.reverse)

/-- The tokens of a text that are complete after the state. -/
def tokens (r : Reading) : List Char → List Token
  | [] => r.finish.toList
  | c :: cs => (r.step c).2.toList ++ tokens (r.step c).1 cs

end Reading

/-- The tokens of a text. -/
def tokens (cs : List Char) : List Token := Reading.between.tokens (Text.trimChars cs)

/-- The attributes of tokens; those without a name are numbered from the given position on. -/
def attributesFrom (position : Nat) (attrs : Attributes) : List Token → Attributes
  | [] => attrs
  | .named name value :: rest =>
    attributesFrom position
      (attrs.insertText (String.ofList name) (String.ofList value)) rest
  | .positional value :: rest =>
    attributesFrom (position + 1)
      (attrs.insertText (Number.natString position) (String.ofList value)) rest

/-- The attributes of a shortcode. -/
def attributes (cs : List Char) : Attributes := attributesFrom 0 .empty (tokens cs)

end DynamicContent.Shortcode
