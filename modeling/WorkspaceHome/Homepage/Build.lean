import WorkspaceHome.Applications
import WorkspaceHome.Homepage.PageSlug
import WorkspaceHome.ReleaseNotes.Client
import WorkspaceHome.Remembrance

/-!
# Building the homepage

Every workspace of the user is shown once: those of the recency list first, in its order, then the
others in the order in which the user joined. Inside a workspace the applications of the recency
list come first, by their last places in it. Release notes never fail a homepage: if they cannot be
had there are none.
-/

namespace WorkspaceHome.Homepage

open Service

/-! ### Workspaces and applications -/

/-- The workspaces with given ids, in the order of a list of ids; an id that names none of them is
passed over. -/
def inOrder (order : List Json) (workspaces : List Workspace) : List Workspace :=
  order.filterMap fun id => workspaces.find? fun w => (Json.int w.id).same id

/-- The applications of workspaces, ordered by a recency list. -/
def listApplications (workspaces : List Int) (recent : Json) :
    Service (List ListedApplication) := do
  let visible ← Applications.visibleIn workspaces
  let listed ← settle (visible.mapM ListedApplication.ofApplication)
  settle (Recency.sortStored (fun a => .ok a.id) recent listed)

/-- The workspaces with given ids as they are shown to a user of whom `data` is remembered. -/
def groupsFor (ids : List Nat) (recentWorkspaces recentApplications : Json) :
    Service (List WorkspaceGroup) := do
  let all := ids.map fun (id : Nat) => Json.int id
  let order ← settle (Recency.prioritiseStored recentWorkspaces (.list all))
  let numbers := ids.map fun (id : Nat) => (id : Int)
  let store := (← get).store
  let roles := store.rolesByWorkspace numbers
  let applications ← listApplications numbers recentApplications
  let byWorkspace := Groups.collect (·.workspace) (fun a => a) applications
  return (inOrder order (store.workspacesWithIds numbers)).map fun w =>
    { workspace := w, applications := byWorkspace.get w.id, roles := roles.get w.id }

/-- Puts in the slugs of the default pages, and notes those that are missing. The pages of all
applications are asked for at once. -/
def withSlugs (groups : List WorkspaceGroup) : Service (List WorkspaceGroup) := do
  let rows := (groups.flatMap (·.applications)).map fun a => (a.row : Int)
  let pages ← ask (·.pagesByApplication rows)
  groups.mapM fun g => do
    let applications ← g.applications.mapM fun a => do
      let (a, events) := a.withSlugsAmong (pages.get a.row)
      events.forM log
      return a
    return { g with applications }

/-! ### Release notes -/

/-- The release notes at an address, or none if they cannot be had. -/
def releasesAt (url : String) : Service (List ReleaseNotes.Node) := do
  try ReleaseNotes.nodesAt url
  catch e =>
    match e with
    | .refused ⟨.releaseNotesUnavailable, detail, _⟩ => log (.releaseNotesSkipped detail)
    | _ => log .releaseNotesFailed
    return []

/-! ### The whole -/

/-- The homepage of a viewer, who has to be signed in. The release notes are taken from an address,
or from the one in the settings if none is given. -/
def build (viewer : Viewer) (url : Option String) : Service Homepage := do
  let user ← settle viewer.signedIn
  let data ← ask (·.dataOf? user.id)
  let ids ← ask (·.workspaceIdsOf user.id)
  let recent (field : UserData → Json) : Json := (data.map field).getD (.list [])
  let groups ←
    if ids.isEmpty then pure []
    else groupsFor ids (recent (·.recentWorkspaces)) (recent (·.recentApplications))
  let groups ← withSlugs groups
  let releases ← releasesAt (url.getD (← get).settings.releaseNotesUrl)
  -- The badge counts from what was viewed before this visit, which is remembered only afterwards.
  let viewed := (data.bind (·.viewedVersion)).map Json.text
  let homepage : Homepage :=
    { user, groups, releases, news := ReleaseNotes.newsSince (viewed.getD .null) releases }
  let _ ← Remembrance.ensureViewed viewer
  log (.homepageBuilt user.id groups.length homepage.applications.length)
  return homepage

end WorkspaceHome.Homepage
