/-
# Requests

What is known of the request that a page is rendered for: its values, the current post and term, and
who is looking.
-/

import DynamicContent.Data.SortedMap

namespace DynamicContent

/-- Who is looking at the page. -/
structure Viewer where
  userId : Option Nat
  canManage : Bool
deriving Inhabited

/-- The request that a page is rendered for. There is no session unless one was started. -/
structure Request where
  query : SortedMap String
  body : SortedMap String
  cookies : SortedMap String
  session : Option (SortedMap String)
  server : SortedMap String
  uri : String
  currentPost : Option Nat
  queriedTerm : Option Nat
  viewer : Viewer
  adminScreen : Bool
deriving Inhabited

namespace Request

/-- A request without any value, by nobody in particular. -/
def anonymous : Request :=
  ⟨[], [], [], none, [], "", none, none, ⟨none, false⟩, false⟩

/-- A value of the body or, failing that, of the query. -/
def value? (request : Request) (key : String) : Option String :=
  (request.body.find? key).orElse fun _ => request.query.find? key

/-- A value of the session. -/
def sessionValue? (request : Request) (key : String) : Option String :=
  request.session.bind fun session => session.find? key

/-- Whether the viewer is known. -/
def isLoggedIn (request : Request) : Bool := request.viewer.userId.isSome

/-- Whether the viewer may manage the site. -/
def isPrivileged (request : Request) : Bool := request.viewer.canManage

/-- The same request with another current post. -/
def withCurrentPost (request : Request) (id : Nat) : Request :=
  { request with currentPost := some id }

end Request

end DynamicContent
