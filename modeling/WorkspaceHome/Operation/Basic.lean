import WorkspaceHome.Http.Serve
import WorkspaceHome.Operation.Calls
import WorkspaceHome.Operation.Rows
import WorkspaceHome.Operation.Surroundings

/-!
# Operations on a site

Everything that can be done to a site is an `Operation`. It is performed on a site and leaves a
`Report`: its result or its failure, what was logged, and what the feed was asked for.
-/

namespace WorkspaceHome

open Service

/-- What can be done to a site. -/
inductive Operation where
  | rows (operation : RowOperation)
  | call (operation : ServiceCall)
  | surroundings (operation : Surroundings)
  | request (message : Http.Request) (user : Caller)

/-- A response as a value; what it lacks is left out. -/
def Http.Response.toJson (r : Http.Response) : Json :=
  let text (key : String) (value : Option String) : List (String × Json) :=
    (value.map fun s => (key, .text s)).toList
  .object
    ([("status", .ofNat r.status), ("request_id", .ofOption .text r.requestId)] ++
      (r.body.map fun b => ("body", b)).toList ++ text "allow" r.allow ++
      text "location" r.location ++ text "exception" (r.failure.map Failure.label))

/-- What an operation leaves. -/
structure Report where
  outcome : Except Failure Json
  log : List LogEntry
  requests : List String

namespace Operation

/-- The operation as a service action. -/
def act : Operation → Service Json
  | rows operation => operation.perform
  | call operation => operation.perform
  | surroundings operation => operation.perform
  | request message user => do
    let viewer ← user.viewer
    let response ← Http.serve { message with viewer }
    return response.toJson

/-- Performs an operation on a site. -/
def perform (operation : Operation) (site : Site) : Report × Site :=
  let (outcome, site) := operation.act.run { site with log := [], requests := [] }
  (⟨outcome, site.log, site.requests⟩, site)

/-- Performs operations one after another; a failure does not stop them. -/
def performAll : List Operation → Site → List Report × Site
  | [], site => ([], site)
  | operation :: rest, site =>
    let (report, site) := operation.perform site
    let (reports, site) := performAll rest site
    (report :: reports, site)

end Operation

end WorkspaceHome
