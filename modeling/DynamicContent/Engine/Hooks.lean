/-
# Observers and filters

Around each element there are points at which observers are told of it, and two kinds of filters: on
its attributes before anything else, and on its markup after everything else. Each is registered for
all types of elements or for one, and those for all types come first. Filters are applied in the order
of their registration within that.

An element announces what happens to it, in the order in which it happens. An announcement is an event
with the observers that are told of it, in the order in which they are. Observers cannot influence a
rendering, so to tell them is to write it down.
-/

import DynamicContent.Attribute.Basic

namespace DynamicContent

/-- Where an element is observed. An element whose type nobody renders is `missing`. -/
inductive HookPoint where
  | beforeNormalize
  | afterNormalize
  | beforeOutput
  | afterOutput
  | missing
deriving DecidableEq, Inhabited

/-- What is to be seen at a point. -/
structure HookEvent where
  point : HookPoint
  typeTag : String
  attrs : Attributes
  content : String
deriving Inhabited

/-- A registration for one type of elements, or for all types. -/
structure Scoped (α : Type) where
  typeTag : Option String
  item : α
deriving Inhabited

namespace Scoped

variable {α : Type}

/-- Whether a registration is for all types. -/
def isGlobal (entry : Scoped α) : Bool := entry.typeTag.isNone

/-- Whether a registration is for one type alone. -/
def isFor (tag : String) (entry : Scoped α) : Bool :=
  entry.typeTag.map (fun t => Text.asciiLower (Text.trim t)) == some tag

/-- The registrations for all types. -/
def forAll (entries : List (Scoped α)) : List α := (entries.filter isGlobal).map (·.item)

/-- The registrations for one type alone. -/
def forType (tag : String) (entries : List (Scoped α)) : List α :=
  (entries.filter (isFor tag)).map (·.item)

/-- The registrations that concern a type: those for all types, and then its own. -/
def concerning (tag : String) (entries : List (Scoped α)) : List (Scoped α) :=
  entries.filter isGlobal ++ entries.filter (isFor tag)

end Scoped

/-- An event with the observers that were told of it, in order. -/
structure Announcement where
  event : HookEvent
  told : List (Scoped HookPoint)
deriving Inhabited

/-- Changes the attributes of an element, given its content. -/
abbrev AttributeFilter := Attributes → String → Attributes

/-- Changes the markup of an element, given its attributes and content. -/
abbrev OutputFilter := String → Attributes → String → String

/-- The observers and filters of an engine. -/
structure Hooks where
  observers : List (Scoped HookPoint)
  attributeFilters : List (Scoped AttributeFilter)
  outputFilters : List (Scoped OutputFilter)
deriving Inhabited

namespace Hooks

/-- Nobody observes and nothing is filtered. -/
def empty : Hooks := ⟨[], [], []⟩

/-- The observers that are told of an event, in order. -/
def told (hooks : Hooks) (event : HookEvent) : List (Scoped HookPoint) :=
  (Scoped.concerning event.typeTag hooks.observers).filter (·.item = event.point)

/-- The announcement of an event. -/
def announcement (hooks : Hooks) (event : HookEvent) : Announcement := ⟨event, hooks.told event⟩

/-- The attributes after the filters. The filters for all types may change the type, and the filters
for one type are those of the type that results. -/
def filterAttributes (hooks : Hooks) (attrs : Attributes) (content : String) : Attributes :=
  let filtered := (Scoped.forAll hooks.attributeFilters).foldl (fun attrs f => f attrs content) attrs
  (Scoped.forType (filtered.typeTag?.getD "") hooks.attributeFilters).foldl
    (fun attrs f => f attrs content) filtered

/-- The markup after the filters. -/
def filterOutput (hooks : Hooks) (tag : String) (attrs : Attributes) (content html : String) : String :=
  ((Scoped.concerning tag hooks.outputFilters).map (·.item)).foldl (fun html f => f html attrs content)
    html

end Hooks

end DynamicContent
