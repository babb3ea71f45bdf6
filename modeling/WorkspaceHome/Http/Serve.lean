import WorkspaceHome.Health
import WorkspaceHome.Homepage.Build
import WorkspaceHome.Http.Body
import WorkspaceHome.Http.Context
import WorkspaceHome.Http.Credentials
import WorkspaceHome.Http.Payload
import WorkspaceHome.Http.Route
import WorkspaceHome.Http.Target

/-!
# Serving requests

A request to an endpoint is looked at in a fixed order: whether the caller takes the form of the
answer, whether the credentials are right that it brings, whether the method is allowed, and then by
the view of the endpoint, which first asks for a user. A path that lacks only its last slash is sent
on to the path with it.

What stands in front of all this is taken as passed: that the name of the host is one that is
served, that the connection is as safe as is asked for, that a session is right and its user told,
and that a form comes from the site itself. `OPTIONS` is refused here like any method that is not
served; elsewhere it is told what an endpoint is for.
-/

namespace WorkspaceHome.Http

open Service

/-- The result of a view: an answer, an empty answer of a status, or a trouble. -/
abbrev ViewResult := Except Trouble (Nat × Option Json)

/-- Does an operation inside a view; its failure is a trouble. -/
def attempt {α : Type} (operation : Service α) : Service (Except Trouble α) := do
  try return .ok (← operation)
  catch e => return .error (.failure e)

/-! ### Views -/

/-- The homepage of the viewer. -/
def homepageView (viewer : Viewer) : Service ViewResult :=
  attempt do
    let homepage ← Homepage.build viewer none
    return (200, some homepage.payload)

/-- Notes that the viewer has opened an application. -/
def recentApplicationView (viewer : Viewer) (key : String) : Service ViewResult :=
  attempt do
    let _ ← settle viewer.signedIn
    let application ← Applications.find (.text key) viewer
    let _ ← Remembrance.recordRecent viewer application
    return (204, none)

/-- Creates a workspace for the viewer. -/
def createWorkspaceView (r : Request) : Service ViewResult := do
  match r.viewer.signedIn, r.data.bind nameOf with
  | .error e, _ => return .error (.failure e)
  | .ok _, .error trouble => return .error trouble
  | .ok _, .ok name =>
    attempt do
      let workspace ← Workspaces.create (.text name) r.viewer
      return (201, some workspace.toJson)

/-- The details of a workspace of the viewer. -/
def workspaceView (viewer : Viewer) (key : String) : Service ViewResult :=
  attempt do
    let _ ← settle viewer.signedIn
    let workspace ← Workspaces.find (.text key) viewer
    let roles ← ask (·.rolesByWorkspace [(workspace.id : Int)])
    return (200, some (workspace.detailPayload (roles.get workspace.id)))

/-- Serves an endpoint to a viewer. -/
def view (r : Request) : Endpoint → Service ViewResult
  | .health => do
    let report ← Health.check r.databaseFault
    return .ok (if report.isHealthy then 200 else 503, some report.toJson)
  | .homepage => homepageView r.viewer
  | .recentApplication key => recentApplicationView r.viewer key
  | .workspaces => createWorkspaceView r
  | .workspace key => workspaceView r.viewer key

/-! ### Around the views -/

/-- The problem of a request whose caller takes no answer that can be given. -/
def negotiate (r : Request) (t : Target) : Option Problem :=
  let format := (t.field? "format").getD ""
  if format != "" && format != "json" then some (.of .notFound none)
  else if acceptsJson (r.header? "Accept") then none
  else some (.of .notAcceptable none)

/-- What keeps a request from the view of an endpoint: credentials that have signed nobody in, or a
method that is not served. -/
def obstacle? (r : Request) (method : String) (e : Endpoint) : Option Trouble :=
  r.refusal? <|>
    if e.serves method then none else some (.problem (.methodNotAllowed method))

/-- The response to a failure that has no answer. -/
def failed (e : Failure) : Response := { status := 500, failure := some e }

/-- A response with a body, which has to be free of torn texts and is not sent to `HEAD`. -/
def respond (method : String) (status : Nat) (body : Option Json) : Response :=
  match body with
  | none => { status }
  | some v =>
    if v.everywhere Json.isEncodable then { status, body := if method == "HEAD" then none else v }
    else failed .unsendable

/-- The response to a trouble. -/
def respondTo (e : Endpoint) (method : String) (trouble : Trouble) : Service Response := do
  match ← trouble.answer (some e.label) with
  | some answer =>
    let response := respond method answer.status (some answer.body)
    return if answer.status = 405 then { response with allow := some e.allowed } else response
  | none =>
    match trouble with
    | .failure failure => return failed failure
    | .problem _ => return { status := 500 }

/-- Serves an endpoint of the interface. The user is known once the form of the answer is. -/
def serveEndpoint (r : Request) (t : Target) (method : String) (e : Endpoint) :
    Service Served := do
  match negotiate r t with
  | some p => return { response := ← respondTo e method (.problem p) }
  | none =>
    -- Only here is the caller looked at, so a problem with the form of the answer names no user.
    let sender := Sender.ofViewer r.viewer
    let result ←
      match obstacle? r method e with
      | some trouble => pure (.error trouble)
      | none => view r e
    match result with
    | .ok (status, body) => return { response := respond method status body, sender }
    | .error trouble => return { response := ← respondTo e method trouble, sender }

/-- Serves a target; the health of the service is told without looking at the caller. -/
def serveTarget (r : Request) (t : Target) : Service Served := do
  let method := r.method.map Char.toUpper
  match Endpoint.at? t.path with
  | none => return { response := { status := 404 } }
  | some .health =>
    match ← view r .health with
    | .ok (status, body) => return { response := respond method status body }
    | .error _ => return { response := { status := 500 } }
  | some e => serveEndpoint r t method e

/-- Serves a request. -/
def serve (r : Request) : Service Response := do
  let t := Target.read r.target
  let response ←
    try observed r (t.write false) (serveTarget r t)
    catch e => return failed e
  if response.status = 404 && Endpoint.lacksSlash t.path then
    return { status := 301, location := some (t.write true) }
  else return response

end WorkspaceHome.Http
