/-
# Cache keys

An entry is stored under the prefix of the site, the segment of its group, `_` and its key, each
reduced to the characters that keys may hold. A segment holds no `_`, so the entries of one group
are those whose stored key begins with the prefix, the segment and `_`. What is looked up by
structured arguments has the digest of the arguments for its key.
-/

import DynamicContent.Cache.Digest
import DynamicContent.Json.Printer
import DynamicContent.Text.Reading

namespace DynamicContent.Cache

/-- The segment of a group: its key with `-` for `_`. -/
def groupSegment (group : List Char) : List Char :=
  (Text.toKeyChars group).map fun c => if c = '_' then '-' else c

/-- What the stored keys of a site begin with. -/
def namespaceChars (start : String) : List Char := Text.toKeyChars start.toList

/-- What the stored keys of a group begin with. -/
def groupChars (start group : String) : List Char :=
  namespaceChars start ++ groupSegment group.toList ++ ['_']

/-- The key an entry is stored under. -/
def storedChars (start group key : String) : List Char :=
  groupChars start group ++ Text.toKeyChars key.toList

/-- What the stored keys of a site begin with. -/
def namespaceStart (start : String) : String := String.ofList (namespaceChars start)

/-- What the stored keys of a group begin with. -/
def groupStart (start group : String) : String := String.ofList (groupChars start group)

/-- The key an entry is stored under. -/
def storedKey (start group key : String) : String := String.ofList (storedChars start group key)

/-- The text of an argument that its digest is made of: a bare text as it is, any other value as compact
JSON. -/
def argumentText : Json → List Char
  | .string text => text.toList
  | v => v.chars

/-- The bytes of a group and an argument, a zero between them. -/
def argumentBytes (group : String) (argument : List Char) : List UInt8 :=
  group.toList.flatMap String.utf8EncodeChar ++ 0 :: argument.flatMap String.utf8EncodeChar

/-- The key of what is looked up in a group by an argument. -/
def argumentKey (argument : Json) (group : String) : String :=
  Digest.hex (argumentBytes group (argumentText argument))

/-- The key of what is looked up in a group by an argument that has no JSON form. -/
def opaqueArgumentKey (group : String) : String := Digest.hex (argumentBytes group [])

/-- The key of a template that was changed at an instant and is asked for as a kind. -/
def templateKey (id : Nat) (modified : Int) (kind : String) : String :=
  "tpl_" ++ Number.natString id ++ "_" ++ Number.intString modified ++ "_" ++
    (if kind.isEmpty then "na" else kind)

end DynamicContent.Cache
