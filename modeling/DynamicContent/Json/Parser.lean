/-
# Reading JSON text

A text is cut into tokens, and an automaton with a stack of open containers builds the value, so both
passes recurse on a list that gets shorter. Containers nest at most 127 deep; text that is not
exactly one value is refused.
-/

import DynamicContent.Json.NumberText

namespace DynamicContent.Json

/-- The parts of a JSON text. -/
inductive Token where
  | openArray
  | closeArray
  | openObject
  | closeObject
  | comma
  | colon
  | value (v : Json)

/-- The four blanks of JSON. -/
def isJsonBlank (c : Char) : Bool := c == ' ' || c == '\t' || c == '\n' || c == '\r'

/-- The value of a hexadecimal digit in any case. -/
def hexValue? (c : Char) : Option Nat :=
  if c.isDigit then some (c.toNat - 48)
  else if 'a' ≤ c && c ≤ 'f' then some (c.toNat - 87)
  else if 'A' ≤ c && c ≤ 'F' then some (c.toNat - 55)
  else none

/-- Four hexadecimal digits at the front. -/
def takeHex4? : List Char → Option (Nat × List Char)
  | a :: b :: c :: d :: rest => do
    let n := 16 * (16 * (16 * (← hexValue? a) + (← hexValue? b)) + (← hexValue? c)) + (← hexValue? d)
    some (n, rest)
  | _ => none

/-- The character of an escape, after its backslash. Of a pair of surrogates both must be there. -/
def takeEscape? : List Char → Option (Char × List Char)
  | '"' :: rest => some ('"', rest)
  | '\\' :: rest => some ('\\', rest)
  | '/' :: rest => some ('/', rest)
  | 'b' :: rest => some ('\x08', rest)
  | 'f' :: rest => some ('\x0c', rest)
  | 'n' :: rest => some ('\n', rest)
  | 'r' :: rest => some ('\r', rest)
  | 't' :: rest => some ('\t', rest)
  | 'u' :: rest => do
    let (n, rest) ← takeHex4? rest
    if n < 0xD800 || 0xDFFF < n then some (Char.ofNat n, rest)
    else if 0xDC00 ≤ n then none
    else
      match rest with
      | '\\' :: 'u' :: rest => do
        let (m, rest) ← takeHex4? rest
        if 0xDC00 ≤ m && m ≤ 0xDFFF then
          some (Char.ofNat (0x10000 + (n - 0xD800) * 0x400 + (m - 0xDC00)), rest)
        else none
      | _ => none
  | _ => none

/-- The rest of a quoted text after its opening quote: the characters and what follows. The first
argument bounds the number of characters. -/
def takeQuoted? : Nat → List Char → Option (List Char × List Char)
  | 0, _ => none
  | _, [] => none
  | _, '"' :: rest => some ([], rest)
  | n + 1, '\\' :: rest => do
    let (c, rest) ← takeEscape? rest
    let (text, rest) ← takeQuoted? n rest
    some (c :: text, rest)
  | n + 1, c :: rest =>
    if c.toNat < 0x20 then none
    else do
      let (text, rest) ← takeQuoted? n rest
      some (c :: text, rest)

/-- The token at the front of a text. -/
def takeToken? (cs : List Char) : Option (Token × List Char) :=
  match cs with
  | [] => none
  | '[' :: rest => some (.openArray, rest)
  | ']' :: rest => some (.closeArray, rest)
  | '{' :: rest => some (.openObject, rest)
  | '}' :: rest => some (.closeObject, rest)
  | ',' :: rest => some (.comma, rest)
  | ':' :: rest => some (.colon, rest)
  | '"' :: rest =>
    (takeQuoted? (rest.length + 1) rest).map fun (text, rest) =>
      (.value (string (String.ofList text)), rest)
  | 'n' :: 'u' :: 'l' :: 'l' :: rest => some (.value null, rest)
  | 't' :: 'r' :: 'u' :: 'e' :: rest => some (.value (bool true), rest)
  | 'f' :: 'a' :: 'l' :: 's' :: 'e' :: rest => some (.value (bool false), rest)
  | _ => (takeNumber? cs).map fun (v, rest) => (.value v, rest)

/-- The tokens of a text. The first argument bounds the number of characters and tokens. -/
def tokens? : Nat → List Char → Option (List Token)
  | _, [] => some []
  | 0, _ => none
  | n + 1, c :: cs =>
    if isJsonBlank c then tokens? n cs
    else do
      let (token, rest) ← takeToken? (c :: cs)
      let more ← tokens? n rest
      some (token :: more)

/-- A container that is open: the items or fields read so far, the last one first. -/
inductive Frame where
  | items (read : List Json)
  | fields (read : List (String × Json)) (name : String)

/-- What may come next. -/
inductive Expect where
  | value
  | valueOrClose
  | nameOrClose (read : List (String × Json))
  | name (read : List (String × Json))
  | colon (read : List (String × Json)) (name : String)
  | rest (read : Json)

/-- The depth of nesting that is refused. -/
def depthLimit : Nat := 128

/-- Reads tokens into the open containers. -/
def build? : List Token → Expect → List Frame → Option Json
  | [], .rest v, [] => some v
  | [], _, _ => none
  | token :: tokens, expect, stack =>
    match expect, token, stack with
    | .value, .value v, _ | .valueOrClose, .value v, _ => build? tokens (.rest v) stack
    | .value, .openArray, _ | .valueOrClose, .openArray, _ =>
      if stack.length + 1 < depthLimit then build? tokens .valueOrClose (.items [] :: stack) else none
    | .value, .openObject, _ | .valueOrClose, .openObject, _ =>
      if stack.length + 1 < depthLimit then build? tokens (.nameOrClose []) stack else none
    | .valueOrClose, .closeArray, .items read :: stack =>
      build? tokens (.rest (array read.reverse)) stack
    | .nameOrClose read, .closeObject, _ => build? tokens (.rest (ofFields read.reverse)) stack
    | .nameOrClose read, .value (string name), _ | .name read, .value (string name), _ =>
      build? tokens (.colon read name) stack
    | .colon read name, .colon, _ => build? tokens .value (.fields read name :: stack)
    | .rest v, .comma, .items read :: stack => build? tokens .value (.items (v :: read) :: stack)
    | .rest v, .closeArray, .items read :: stack =>
      build? tokens (.rest (array (v :: read).reverse)) stack
    | .rest v, .comma, .fields read name :: stack => build? tokens (.name ((name, v) :: read)) stack
    | .rest v, .closeObject, .fields read name :: stack =>
      build? tokens (.rest (ofFields ((name, v) :: read).reverse)) stack
    | _, _, _ => none

/-- The value that a text denotes. -/
def ofChars? (cs : List Char) : Option Json := do
  let tokens ← tokens? (cs.length + 1) cs
  build? tokens .value []

/-- The value that a text denotes. -/
def parse? (text : String) : Option Json := ofChars? text.toList

end DynamicContent.Json
