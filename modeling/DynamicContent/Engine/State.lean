/-
# The state of one rendering

While a page is rendered three things are kept: how deep directives and elements are nested, which
templates are being rendered, and which assets the page needs. A level of nesting is granted until
the bound is reached, and a template until it is being rendered already; each grant is given back
in the reverse order. Assets only accumulate.
-/

import DynamicContent.Data.SortedMap

namespace DynamicContent

/-- The state of one rendering. The innermost template comes first. -/
structure RenderState where
  depth : Nat
  maxDepth : Nat
  templates : List Nat
  assets : SortedMap Unit
deriving Inhabited

namespace RenderState

/-- The state at the beginning. -/
def start (maxDepth : Nat) : RenderState := ⟨0, maxDepth, [], []⟩

/-- One level deeper, unless the bound is reached. -/
def enter? (s : RenderState) : Option RenderState :=
  if s.depth < s.maxDepth then some { s with depth := s.depth + 1 } else none

/-- One level less deep. -/
def leave (s : RenderState) : RenderState := { s with depth := s.depth - 1 }

/-- Begins to render a template, unless it is being rendered already. -/
def enterTemplate? (id : Nat) (s : RenderState) : Option RenderState :=
  if s.templates.contains id then none else some { s with templates := id :: s.templates }

/-- Ends the rendering of the innermost template. -/
def leaveTemplate (s : RenderState) : RenderState := { s with templates := s.templates.drop 1 }

/-- Notes that the page needs an asset. -/
def addAsset (handle : String) (s : RenderState) : RenderState :=
  { s with assets := s.assets.insert handle () }

/-- The assets that the page needs, in order. -/
def assetList (s : RenderState) : List String := s.assets.keys

end RenderState

/-- A grant that has not been given back. -/
inductive Grant where
  | level
  | template (id : Nat)
deriving DecidableEq, Inhabited

/-- What the holder of a state may do. -/
inductive GrantStep where
  | enter
  | enterTemplate (id : Nat)
  | giveBack
deriving DecidableEq, Inhabited

/-- A state with the grants that it has made, the newest first. -/
structure GrantedState where
  state : RenderState
  live : List Grant
deriving Inhabited

namespace GrantedState

/-- The beginning, without grants. -/
def start (maxDepth : Nat) : GrantedState := ⟨.start maxDepth, []⟩

/-- Asks for a grant, or gives the newest one back; the flag says whether that was possible. -/
def step (s : GrantedState) : GrantStep → GrantedState × Bool
  | .enter =>
    match s.state.enter? with
    | some state => (⟨state, .level :: s.live⟩, true)
    | none => (s, false)
  | .enterTemplate id =>
    match s.state.enterTemplate? id with
    | some state => (⟨state, .template id :: s.live⟩, true)
    | none => (s, false)
  | .giveBack =>
    match s.live with
    | [] => (s, false)
    | .level :: live => (⟨s.state.leave, live⟩, true)
    | .template _ :: live => (⟨s.state.leaveTemplate, live⟩, true)

/-- Gives all grants back, the newest first. -/
def giveBackAll (s : GrantedState) : RenderState :=
  s.live.foldl (fun state grant => match grant with
    | .level => state.leave
    | .template _ => state.leaveTemplate) s.state

end GrantedState

end DynamicContent
