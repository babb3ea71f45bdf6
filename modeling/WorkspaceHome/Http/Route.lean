import WorkspaceHome.Url.Ip

/-!
# Routes

The paths that the service answers. Every path ends in a slash; one without it is asked for again
with it.
-/

namespace WorkspaceHome.Http

/-- What a path asks for. -/
inductive Endpoint where
  | health
  | homepage
  | recentApplication (key : String)
  | workspaces
  | workspace (key : String)
  deriving DecidableEq, Repr

namespace Endpoint

/-- The endpoint whose steps, between slashes, are given. -/
def ofSteps : List String → Option Endpoint
  | ["", "health", ""] => some .health
  | ["", "api", "v1", "applications", "home", ""] => some .homepage
  | ["", "api", "v1", "applications", key, "recent", ""] =>
    if key = "" then none else some (.recentApplication key)
  | ["", "api", "v1", "workspaces", ""] => some .workspaces
  | ["", "api", "v1", "workspaces", key, ""] => if key = "" then none else some (.workspace key)
  | _ => none

/-- The endpoint of a path. -/
def at? (path : String) : Option Endpoint :=
  ofSteps ((Url.splitAt '/' path.toList).map String.ofList)

/-- Paths that are answered elsewhere: the pages of administrators and those that describe the
service. -/
def elsewhere : List String := ["/admin/", "/api/schema/", "/api/docs/"]

/-- Whether a path is answered, here or elsewhere. -/
def isKnown (path : String) : Bool := (at? path).isSome || elsewhere.contains path

/-- Whether a path lacks only its last slash. -/
def lacksSlash (path : String) : Bool :=
  !path.endsWith "/" && !isKnown path && isKnown (path ++ "/")

/-- The one method that an endpoint serves; the health of the service is told to all. -/
def method? : Endpoint → Option String
  | .health => none
  | .homepage | .workspace _ => some "GET"
  | .recentApplication _ | .workspaces => some "POST"

/-- Whether an endpoint serves a method. Where `GET` is served, `HEAD` is. -/
def serves (e : Endpoint) (method : String) : Bool :=
  match e.method? with
  | none => true
  | some m => method == m || (m == "GET" && method == "HEAD")

/-- The methods that an endpoint allows, as they are told. -/
def allowed (e : Endpoint) : String :=
  match e.method? with
  | some "GET" => "GET, HEAD, OPTIONS"
  | some m => m ++ ", OPTIONS"
  | none => ""

/-- The name of an endpoint in the log. -/
def label : Endpoint → String
  | .health => "health_check"
  | .homepage => "UserHomepageView"
  | .recentApplication _ => "ApplicationRecentView"
  | .workspaces => "WorkspaceCreateView"
  | .workspace _ => "WorkspaceDetailView"

end Endpoint

end WorkspaceHome.Http
