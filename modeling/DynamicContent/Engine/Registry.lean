/-
# Registered instances

Things that are registered by a maker under a tag. An instance is made when it is first asked for and
kept from then on; a new registration under the tag takes the place of maker and instance. Letter
case and blanks around a tag do not matter.
-/

import DynamicContent.Data.SortedMap
import DynamicContent.Text.Blank

namespace DynamicContent

/-- A maker, and the instance once it is made. -/
structure Registration (α : Type) where
  make : Unit → α
  instance? : Option α

/-- The registrations by tag, and all instances in the order in which they were made. -/
structure Registry (α : Type) where
  byTag : SortedMap (Registration α)
  made : List α

namespace Registry

variable {α : Type}

/-- No registrations. -/
def empty : Registry α := ⟨[], []⟩

instance : Inhabited (Registry α) := ⟨empty⟩

/-- A tag as it is kept. -/
def normalTag (tag : String) : String := Text.asciiLower (Text.trim tag)

/-- Registers a maker. -/
def register (tag : String) (make : Unit → α) (registry : Registry α) : Registry α :=
  { registry with byTag := registry.byTag.insert (normalTag tag) ⟨make, none⟩ }

/-- The instance under a tag, made now if it is asked for the first time. -/
def get (tag : String) (registry : Registry α) : Option α × Registry α :=
  match registry.byTag.find? (normalTag tag) with
  | none => (none, registry)
  | some ⟨_, some made⟩ => (some made, registry)
  | some ⟨make, none⟩ =>
    let fresh := make ()
    (some fresh, ⟨registry.byTag.insert (normalTag tag) ⟨make, some fresh⟩, registry.made ++ [fresh]⟩)

/-- The instance that would be given for a tag. -/
def find? (registry : Registry α) (tag : String) : Option α := (registry.get tag).1

/-- Whether a tag is registered. -/
def contains (registry : Registry α) (tag : String) : Bool :=
  registry.byTag.contains (normalTag tag)

/-- The registered tags in order. -/
def tags (registry : Registry α) : List String := registry.byTag.keys

end Registry

end DynamicContent
