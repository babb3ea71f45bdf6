import WorkspaceHome.Http.Context
import WorkspaceHome.Http.Target

/-!
# Trying out the context of a request

A trial serves one request by a view that notes that it was entered, looks at what is bound, and
then answers with a status or fails.
-/

namespace WorkspaceHome.Http

open Service

/-- A request to be tried out. -/
structure Trial where
  request : Request
  status : Nat := 200
  fails : Bool := false
  sender : Sender := .unknown

/-- The failure of the view of a trial. -/
def Trial.failure : Failure := .faulty ⟨"RuntimeError", ""⟩

/-- The view of a trial. -/
def Trial.view (t : Trial) : Service Served := do
  log .viewEntered
  if t.fails then throw Trial.failure
  else return { response := { status := t.status }, sender := t.sender }

/-- What a trial leaves: its response or its failure, what was bound when the view was entered and
what is bound in the end, and what was logged. -/
structure TrialReport where
  outcome : Except Failure Response
  boundInView : Context
  boundAfter : Context
  log : List LogEntry

/-- Runs a trial on a site. -/
def Trial.run (t : Trial) (site : Site) : TrialReport :=
  let path := (Target.read t.request.target).write false
  let (outcome, site) := (observed t.request path t.view).run { site with log := [] }
  let entered := site.log.find? fun e => e.event matches .viewEntered
  ⟨outcome, (entered.map (·.context)).getD [], site.context, site.log⟩

end WorkspaceHome.Http
