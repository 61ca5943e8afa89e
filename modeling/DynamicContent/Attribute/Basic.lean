/-
# Attributes

The attributes of an element are an ordered list of names and values. A name is stored trimmed and
in lower case and occurs once; setting it again keeps its place. Only text takes part in the
resolution of directives, values of the other kinds pass through it unchanged.
-/

import DynamicContent.Text.Reading

namespace DynamicContent

/-- The value of an attribute. -/
inductive AttributeValue where
  | flag (value : Bool)
  | int (value : Int)
  | text (value : String)
  | list (items : List AttributeValue)
deriving Inhabited

namespace AttributeValue

mutual

/-- The value as text: true is `1`, false is empty, and the items of a list are joined by commas. -/
def toText : AttributeValue → String
  | flag true => "1"
  | flag false => ""
  | int n => String.ofList (Number.intText n)
  | text t => t
  | list items => Text.join "," (itemTexts items)

/-- The items of a list as text. -/
def itemTexts : List AttributeValue → List String
  | [] => []
  | v :: vs => toText v :: itemTexts vs

end

/-- Whether the value is false, the empty text or the empty list. -/
def isEmpty : AttributeValue → Bool
  | flag value => !value
  | int _ => false
  | text t => t.isEmpty
  | list items => items.isEmpty

end AttributeValue

/-- The name under which an attribute is stored. -/
def attributeName (name : String) : String := Text.asciiLower (Text.trim name)

/-- Attributes in the order in which they were first set. -/
structure Attributes where
  entries : List (String × AttributeValue)
deriving Inhabited

namespace Attributes

/-- No attributes. -/
def empty : Attributes := ⟨[]⟩

/-- Sets a stored name to a value: in place if it is there, else at the end. -/
def put (name : String) (value : AttributeValue) :
    List (String × AttributeValue) → List (String × AttributeValue)
  | [] => [(name, value)]
  | (k, v) :: rest => if k = name then (k, value) :: rest else (k, v) :: put name value rest

/-- Sets an attribute. -/
def insert (attrs : Attributes) (name : String) (value : AttributeValue) : Attributes :=
  ⟨put (attributeName name) value attrs.entries⟩

/-- Sets an attribute to a text. -/
def insertText (attrs : Attributes) (name value : String) : Attributes :=
  attrs.insert name (.text value)

/-- The value of an attribute; the case of the name does not matter. -/
def get? (attrs : Attributes) (name : String) : Option AttributeValue :=
  (attrs.entries.find? fun entry => Text.eqIgnoringCase entry.1 name).map (·.2)

/-- Whether an attribute is set. -/
def contains (attrs : Attributes) (name : String) : Bool := (attrs.get? name).isSome

/-- Removes an attribute. -/
def erase (attrs : Attributes) (name : String) : Attributes :=
  ⟨attrs.entries.eraseP fun entry => Text.eqIgnoringCase entry.1 name⟩

/-- The text of an attribute, empty if it is not set. -/
def text (attrs : Attributes) (name : String) : String :=
  ((attrs.get? name).map AttributeValue.toText).getD ""

/-- The text of an attribute without blanks at its ends. -/
def trimmed (attrs : Attributes) (name : String) : String := Text.trim (attrs.text name)

/-- The integer an attribute stands for; zero if it is not set or is no number. -/
def int (attrs : Attributes) (name : String) : Int :=
  match attrs.get? name with
  | none => 0
  | some (.int n) => n
  | some (.flag value) => if value then 1 else 0
  | some value => Text.leadingInt value.toText

/-- Whether an attribute switches something on. -/
def flag (attrs : Attributes) (name : String) : Bool :=
  match attrs.get? name with
  | none => false
  | some (.flag value) => value
  | some value => Text.toFlag value.toText

/-- The name of the renderer that the attribute `type` asks for. -/
def typeTag? (attrs : Attributes) : Option String :=
  let tag := Text.asciiLower (attrs.trimmed "type")
  if tag.isEmpty then none else some tag

/-- The defaults in their order with explicit values in place of theirs, then the other attributes. -/
def withDefaults (attrs defaults : Attributes) : Attributes :=
  attrs.entries.foldl (fun merged entry => merged.insert entry.1 entry.2) defaults

/-- The attributes that result from setting each of a list in turn. -/
def ofList (entries : List (String × AttributeValue)) : Attributes :=
  entries.foldl (fun attrs entry => attrs.insert entry.1 entry.2) empty

/-- The attributes that result from setting each of a list of texts in turn. -/
def ofTexts (entries : List (String × String)) : Attributes :=
  ofList (entries.map fun entry => (entry.1, .text entry.2))

/-- The number of attributes. -/
def size (attrs : Attributes) : Nat := attrs.entries.length

/-- Whether there are no attributes. -/
def isEmpty (attrs : Attributes) : Bool := attrs.entries.isEmpty

end Attributes

end DynamicContent
