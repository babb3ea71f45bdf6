import WorkspaceHome.Site

/-!
# Requests and responses

A request has a method, a target, headers and a body, and comes from a viewer who is signed in
already or not, by a session or by the credentials in its headers. The names of headers are compared
without regard to case, and a hyphen counts as an underscore.
-/

namespace WorkspaceHome.Http

/-- A request. Its headers are those that the service reads itself, and any others; the ones that
stand for a session, for the name of the host and for the site that a form comes from have been read
before, and what they came to is the viewer. -/
structure Request where
  method : String := "GET"
  target : String := "/"
  headers : List (String × String) := []
  contentType : String := "application/json"
  body : List UInt8 := []
  viewer : Viewer := .anonymous
  /-- The message with which the database refuses to be opened, if it does. -/
  databaseFault : Option String := none

/-- The name of a header as it is compared. -/
def canonicalName (name : String) : String :=
  name.map fun c => if c == '-' then '_' else c.toUpper

/-- The value of a header; if it is given more than once, the last one counts. -/
def Request.header? (r : Request) (name : String) : Option String :=
  (r.headers.reverse.find? fun (n, _) => canonicalName n == canonicalName name).map Prod.snd

/-- A response. A request that fails without being refused has no body, but the failure is told. -/
structure Response where
  status : Nat
  body : Option Json := none
  requestId : Option String := none
  /-- The methods that are allowed, when the one used is not. -/
  allow : Option String := none
  /-- The address to go to instead. -/
  location : Option String := none
  failure : Option Failure := none

end WorkspaceHome.Http
