/-
# Directives in text

A directive is `{name:parameter}`: a name of two or more letters or underscores, and a parameter in
which braces are balanced. A brace that begins no directive is literal, and the search goes on behind
it; a directive that was found is passed over whole.
-/

import DynamicContent.Text.Blank

namespace DynamicContent

/-- A directive. -/
structure Directive where
  name : List Char
  param : List Char
deriving DecidableEq, Inhabited

namespace Directive

/-- The text of a directive. -/
def source (d : Directive) : List Char := '{' :: (d.name ++ ':' :: (d.param ++ ['}']))

/-- The characters of a name: ASCII letters and `_`. -/
def isNameChar (c : Char) : Bool := c.isAlpha || c == '_'

/-- The fewest characters of a name. -/
def minNameLength : Nat := 2

/-- What stands before the brace that closes so many open ones and the one of the directive. -/
def takeBalanced? : Nat → List Char → Option (List Char)
  | _, [] => none
  | opened, c :: cs =>
    if c = '}' then
      match opened with
      | 0 => some []
      | opened + 1 => (takeBalanced? opened cs).map (c :: ·)
    else (takeBalanced? (if c = '{' then opened + 1 else opened) cs).map (c :: ·)

/-- The directive at the front of a text. -/
def at? : List Char → Option Directive
  | '{' :: cs =>
    let name := cs.takeWhile isNameChar
    match cs.drop name.length with
    | ':' :: rest =>
      if minNameLength ≤ name.length then
        (takeBalanced? 0 rest).map fun param => ⟨name, param⟩
      else none
    | _ => none
  | _ => none

/-- The first directive of a text, with what stands before it and what follows. -/
def next? : List Char → Option (List Char × Directive × List Char)
  | [] => none
  | c :: cs =>
    match at? (c :: cs) with
    | some d => some ([], d, (c :: cs).drop d.source.length)
    | none => (next? cs).map fun (before, d, rest) => (c :: before, d, rest)

/-- A part of a text. -/
inductive Part where
  | literal (run : List Char)
  | directive (d : Directive)
deriving DecidableEq, Inhabited

/-- The text that a part was read from. -/
def Part.source : Part → List Char
  | literal run => run
  | directive d => d.source

/-- The literal run read so far, if it is not empty. -/
def flush (pending : List Char) : List Part :=
  if pending.isEmpty then [] else [.literal pending.reverse]

/-- The parts of a text, after so many characters that belong to the part before. What is pending of a
literal run is kept in reverse. -/
def partsFrom : List Char → Nat → List Char → List Part
  | pending, _, [] => flush pending
  | pending, skip + 1, _ :: cs => partsFrom pending skip cs
  | pending, 0, c :: cs =>
    match at? (c :: cs) with
    | some d => flush pending ++ .directive d :: partsFrom [] (d.source.length - 1) cs
    | none => partsFrom (c :: pending) 0 cs

/-- The parts of a text. -/
def parts (cs : List Char) : List Part := partsFrom [] 0 cs

end Directive

end DynamicContent
