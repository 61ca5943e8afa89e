/-
# Attributes as an element gets them

Before an element is rendered, the texts among the values of its attributes are processed: directives in
them are replaced, and a text that then begins with `sc:` or `fn:` is a shortcode or the call of a
function and stands for its result. Flags and integers stay as they are, and so does the shape of a
list.
-/

import DynamicContent.Attribute.Basic

namespace DynamicContent

variable {m : Type → Type} [Monad m]

mutual

/-- A value with all texts in it replaced, in their order. -/
def AttributeValue.processText (process : String → m String) : AttributeValue → m AttributeValue
  | .text t => do pure (.text (← process t))
  | .list items => do pure (.list (← AttributeValue.processTexts process items))
  | .flag value => pure (.flag value)
  | .int n => pure (.int n)

/-- Values with all texts in them replaced, in their order. -/
def AttributeValue.processTexts (process : String → m String) :
    List AttributeValue → m (List AttributeValue)
  | [] => pure []
  | v :: vs => do
    let first ← AttributeValue.processText process v
    let others ← AttributeValue.processTexts process vs
    pure (first :: others)

end

/-- Entries with all texts in their values replaced, in their order. -/
def Attributes.processEntries (process : String → m String) :
    List (String × AttributeValue) → m (List (String × AttributeValue))
  | [] => pure []
  | (name, v) :: rest => do
    let first ← v.processText process
    let others ← Attributes.processEntries process rest
    pure ((name, first) :: others)

/-- Attributes with all texts in their values replaced, in their order. -/
def Attributes.processText (process : String → m String) (attrs : Attributes) : m Attributes := do
  pure ⟨← Attributes.processEntries process attrs.entries⟩

namespace Element

/-- The name that a text begins with if it is a shortcode or a call, and the parameter. -/
def callOf? (s : String) : Option (String × String) :=
  match Text.trimStartChars s.toList with
  | a :: b :: ':' :: rest =>
    match a.toLower, b.toLower with
    | 's', 'c' => some ("sc", String.ofList rest)
    | 'f', 'n' => some ("fn", String.ofList rest)
    | _, _ => none
  | _ => none

/-- A text with directives replaced by `resolve` and a shortcode or call answered by `answer`. -/
def processText (resolve : String → m String) (answer : String → String → m String) (s : String) :
    m String := do
  let resolved ← if s.toList.contains '{' then resolve s else pure s
  match callOf? resolved with
  | some (name, param) => answer name param
  | none => pure resolved

end Element

end DynamicContent
