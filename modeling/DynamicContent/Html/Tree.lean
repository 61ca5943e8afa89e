/-
# Documents under construction

Markup is not well nested, so the tree of a fragment is built with nodes that can be moved: each node
has a number, and knows its parent and its children by their numbers. `Tree` is the finished form.
-/

import DynamicContent.Html.Token

namespace DynamicContent.Html

/-- A finished tree. -/
inductive Tree where
  | element (ns : Namespace) (name : String) (attributes : List (String × String))
      (children : List Tree)
  | text (content : List Char)
deriving Inhabited

/-- What a node is. The content of a template hangs below a node of its own. -/
inductive NodeKind where
  | element (ns : Namespace) (name : String) (attributes : List (String × String))
  | text (content : List Char)
  | template
deriving Inhabited

/-- A node of a document under construction. -/
structure Node where
  kind : NodeKind
  parent : Option Nat
  children : List Nat
deriving Inhabited

/-- The nodes by number. -/
abbrev Nodes := Array Node

/-- Where a node is inserted: below a parent, at the end or before one of its children. -/
structure Place where
  parent : Nat
  before : Option Nat

namespace Nodes

/-- A node by its number. -/
def node (nodes : Nodes) (id : Nat) : Node := nodes.getD id default

/-- The name of an element; empty for other nodes. -/
def name (nodes : Nodes) (id : Nat) : String :=
  match (nodes.node id).kind with
  | .element _ name _ => name
  | _ => ""

/-- The namespace of an element. -/
def ns (nodes : Nodes) (id : Nat) : Namespace :=
  match (nodes.node id).kind with
  | .element ns _ _ => ns
  | _ => .html

/-- The attributes of an element. -/
def attributes (nodes : Nodes) (id : Nat) : List (String × String) :=
  match (nodes.node id).kind with
  | .element _ _ attributes => attributes
  | _ => []

/-- Whether a node is an element of HTML with one of the names. -/
def isHtml (nodes : Nodes) (id : Nat) (names : List String) : Bool :=
  nodes.ns id == .html && names.contains (nodes.name id)

/-- Adds a node that is nowhere in the tree. -/
def add (nodes : Nodes) (kind : NodeKind) : Nodes × Nat := (nodes.push ⟨kind, none, []⟩, nodes.size)

/-- Takes a node out of the tree. -/
def detach (nodes : Nodes) (id : Nat) : Nodes :=
  match (nodes.node id).parent with
  | none => nodes
  | some parent =>
    (nodes.modify parent fun n => { n with children := n.children.filter (· != id) }).modify id
      fun n => { n with parent := none }

/-- Puts a node into a place, taking it out of where it was. -/
def insert (nodes : Nodes) (id : Nat) (place : Place) : Nodes :=
  let nodes := (nodes.detach id).modify id fun n => { n with parent := some place.parent }
  nodes.modify place.parent fun n =>
    match place.before with
    | none => { n with children := n.children ++ [id] }
    | some other =>
      { n with
        children := n.children.takeWhile (· != other) ++ id :: n.children.dropWhile (· != other) }

/-- Puts text into a place: at the end of a text that stands right before it, else as a new node. -/
def insertText (nodes : Nodes) (content : List Char) (place : Place) : Nodes :=
  let siblings := (nodes.node place.parent).children
  let previous := match place.before with
    | none => siblings.getLast?
    | some other => (siblings.takeWhile (· != other)).getLast?
  match previous.map fun id => (id, (nodes.node id).kind) with
  | some (id, .text before) =>
    nodes.modify id fun n => { n with kind := .text (before ++ content) }
  | _ =>
    let (nodes, id) := nodes.add (.text content)
    nodes.insert id place

/-- Moves the children of a node below another. -/
def moveChildren (nodes : Nodes) (source target : Nat) : Nodes :=
  (nodes.node source).children.foldl (fun nodes id => nodes.insert id ⟨target, none⟩) nodes

/-- The finished tree of a node; `none` for a node that is not part of the document. The first
argument bounds the depth. -/
def tree? (nodes : Nodes) : Nat → Nat → Option Tree
  | 0, _ => none
  | n + 1, id =>
    match (nodes.node id).kind with
    | .element ns name attributes =>
      some (.element ns name attributes ((nodes.node id).children.filterMap (nodes.tree? n)))
    | .text content => some (.text content)
    | .template => none

end Nodes

end DynamicContent.Html
