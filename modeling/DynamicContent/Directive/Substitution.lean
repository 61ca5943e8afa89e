/-
# Directives replaced by their values

One *pass* over a text replaces each directive whose name is known by its value, and leaves everything
else as it is, unknown directives with all that is in them. A value may contain directives again, so
passes are repeated until one changes nothing or a bound is reached.

How a directive is evaluated is a parameter, and so is the kind of action that it is. A pass remembers
the value of each directive by its text and evaluates a text once; the values remembered are handed from
pass to pass and into the evaluation of nested directives.
-/

import DynamicContent.Data.SortedMap
import DynamicContent.Directive.Basic

namespace DynamicContent.Directive

variable {m : Type → Type} [Monad m]

/-- The values of directives by their texts. -/
abbrev Memo := SortedMap String

/-- The text of a directive. -/
def text (d : Directive) : String := String.ofList d.source

/-- The name of a directive as text. -/
def nameText (d : Directive) : String := String.ofList d.name

/-- The value of a directive, remembered or else evaluated. -/
def value (evaluate : Directive → StateT Memo m String) (d : Directive) : StateT Memo m String := do
  match (← get).find? d.text with
  | some known => pure known
  | none =>
    let fresh ← evaluate d
    modify (SortedMap.insert d.text fresh)
    pure fresh

/-- What stands for a part of a text after a pass. -/
def replacePart (knows : String → Bool) (evaluate : Directive → StateT Memo m String) :
    Part → StateT Memo m String
  | .literal run => pure (String.ofList run)
  | .directive d => if knows d.nameText then value evaluate d else pure d.text

/-- What stands for some parts of a text after a pass. -/
def replaceParts (knows : String → Bool) (evaluate : Directive → StateT Memo m String) :
    List Part → StateT Memo m String
  | [] => pure ""
  | part :: rest => do
    let first ← replacePart knows evaluate part
    let others ← replaceParts knows evaluate rest
    pure (first ++ others)

/-- One pass over a text. -/
def substitute (knows : String → Bool) (evaluate : Directive → StateT Memo m String) (s : String) :
    StateT Memo m String :=
  replaceParts knows evaluate (parts s.toList)

/-- Passes over a text until one changes nothing, at most so many. The flag says whether the last one
changed nothing. -/
def settle (pass : String → m String) : Nat → String → m (String × Bool)
  | 0, s => pure (s, false)
  | n + 1, s => do
    let next ← pass s
    if next = s then pure (s, true) else settle pass n next

/-- Whether the first directive of a text has a name that is known. -/
def startsKnown (knows : String → Bool) (s : String) : Bool :=
  match next? s.toList with
  | some (_, d, _) => knows d.nameText
  | none => false

end DynamicContent.Directive
