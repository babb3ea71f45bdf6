import WorkspaceHome.Http.HeaderValue
import WorkspaceHome.Http.Message

/-!
# The context of a request

While a request is served its id is bound to every entry of the log, and nothing else is, whatever
was bound before. Afterwards nothing is bound, whether the request was served or failed. A request
brings its id in a header; one that brings none, or an empty one, is given an id that nobody can
know before, and that is told here by a mark.
-/

namespace WorkspaceHome.Http

open Service

/-- The header that carries the id of a request. -/
def requestIdHeader : String := "X-Request-ID"

/-- The mark of an id that was made up. -/
def generatedId : String := "<generated>"

/-- The id of a request, if one is made up for it in case that it brings none. -/
def Request.idOr (r : Request) (made : String) : String :=
  match r.header? requestIdHeader with
  | some id => if id = "" then made else id
  | none => made

/-- The id of a request as it is told. -/
def Request.id (r : Request) : String := r.idOr generatedId

/-- Who a request was found to come from. -/
inductive Sender where
  /-- Nobody has looked. -/
  | unknown
  | nobody
  | anonymous
  | user (id : Int)
  deriving DecidableEq, Repr

namespace Sender

/-- A viewer as a sender. -/
def ofViewer : Viewer → Sender
  | .nobody => .nobody
  | .anonymous => .anonymous
  | .user u => .user u.id

/-- The id of a sender who is signed in. -/
def id? : Sender → Option Int
  | .user id => some id
  | _ => none

end Sender

/-- What a view gives: a response, and who the request was found to come from. -/
structure Served where
  response : Response
  sender : Sender := .unknown

/-- Serves a request by a view under an id: binds the id, notes how the request was served, and
sends the id back. -/
def observedUnder (id : String) (r : Request) (path : String) (view : Service Served) :
    Service Response := do
  modify fun s => { s with context := [("request_id", .text id)] }
  try
    let served ← view
    let method := r.method.map Char.toUpper
    log (.requestServed method path served.response.status served.sender.id?)
    -- An id that cannot be sent back fails the request after the entry has been made.
    let sent ← settle (HeaderValue.sent id)
    modify fun s => { s with context := [] }
    return { served.response with requestId := some sent }
  catch e =>
    modify fun s => { s with context := [] }
    throw e

/-- Serves a request by a view under its id. -/
def observed (r : Request) (path : String) (view : Service Served) : Service Response :=
  observedUnder r.id r path view

end WorkspaceHome.Http
