import WorkspaceHome.GitMetadata
import WorkspaceHome.Workspaces

/-!
# Applications

The homepage lists the applications of a workspace without the copies that stand for other branches
than the default one. A member of its workspace finds an application by its id.
-/

namespace WorkspaceHome.Applications

open Service

/-- The applications of workspaces that the homepage lists, in the order of their ids. -/
def visibleIn (workspaces : List Int) : Service (List Application) := do
  let all ← ask (·.applicationsIn workspaces)
  let visible ← all.filterM fun a => settle (GitMetadata.isVisible a.gitMetadata)
  log (.applicationsListed visible.length (all.length - visible.length))
  return visible

/-- The application of an id, for a viewer who is a member of its workspace. -/
def find (key : Json) (viewer : Viewer) : Service Application := do
  let text := key.display
  let id ← settle (keyNumber text)
  let found ← ask fun s => s.applications.rows.find? fun a => id == some (a.id : Int)
  match found with
  | none => throw (.refuse .notFound ("Application '" ++ text ++ "' not found."))
  | some application =>
    if ← Workspaces.admits application.workspace viewer then return application
    else throw (.refuse .permissionDenied "You do not have access to this application.")

end WorkspaceHome.Applications
