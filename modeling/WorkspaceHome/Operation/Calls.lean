import WorkspaceHome.Homepage.Build
import WorkspaceHome.Operation.Caller
import WorkspaceHome.Presentation

/-!
# Calls to the service

What the parts of the service can be asked for: what is remembered of a user, workspaces and
applications by their keys or by lists of ids, the release notes, and the homepage.
-/

namespace WorkspaceHome

open Service

/-- What the service can be asked for. -/
inductive ServiceCall where
  | userData (user : Caller)
  | recordRecent (user : Caller) (application : Json)
  | ensureViewed (user : Caller)
  | createWorkspace (name : Json) (user : Caller)
  | findWorkspace (key : Json) (user : Caller)
  | findApplication (key : Json) (user : Caller)
  | workspaceIds (user : Caller)
  | workspaces (ids : Json)
  | roles (ids : Json)
  | visibleApplications (ids : Json)
  | pages (ids : Json)
  | homepage (user : Caller) (url : Option String)
  | releaseNotes (url : Option String)

namespace ServiceCall

/-- A pair as a value. -/
def pair (a b : Json) : Json := .list [a, b]

/-- A page as one of several of its application. -/
def pageEntry (p : Page) : Json :=
  .list [.ofNat p.id, .text p.unpublishedSlug, .ofOption .text p.publishedSlug]

/-- Answers a call. -/
def perform : ServiceCall → Service Json
  | userData user => do
    let viewer ← user.viewer
    return UserData.present viewer.user? (← Remembrance.of viewer)
  | recordRecent user application => do
    let viewer ← user.viewer
    let id ← settle application.rowId
    let application ← settle (existing (← ask (·.applications.find? id)))
    return UserData.present viewer.user? (some (← Remembrance.recordRecent viewer application))
  | ensureViewed user => do
    let viewer ← user.viewer
    return UserData.present viewer.user? (some (← Remembrance.ensureViewed viewer))
  | createWorkspace name user => do
    let workspace ← Workspaces.create name (← user.viewer)
    return workspace.toJson
  | findWorkspace key user => do
    let workspace ← Workspaces.find key (← user.viewer)
    return workspace.toJson
  | findApplication key user => do
    let application ← Applications.find key (← user.viewer)
    return application.toJson
  | workspaceIds user => do
    match ← settle (← user.viewer).sought with
    | none => return .list []
    | some user => return .list ((← ask (·.workspaceIdsOf user.id)).map Json.ofNat)
  | workspaces ids => do
    let found ← ask (·.workspacesWithIds (← settle ids.idNumbers))
    return .list (found.map fun w => pair (.ofNat w.id) (.text w.name))
  | roles ids => do
    let found ← ask (·.rolesByWorkspace (← settle ids.idNumbers))
    return .list (found.map fun (w, members) => pair (.ofNat w) (UserRole.listToJson members))
  | visibleApplications ids => do
    let found ← Applications.visibleIn (← settle ids.idNumbers)
    return .list (found.map fun a => pair (.ofNat a.id) (.text a.name))
  | pages ids => do
    let found ← ask (·.pagesByApplication (← settle ids.idNumbers))
    return .list (found.map fun (a, ps) => pair (.ofNat a) (.list (ps.map pageEntry)))
  | homepage user url => do
    let homepage ← Homepage.build (← user.viewer) url
    return homepage.toJson
  | releaseNotes url => do
    let nodes ← ReleaseNotes.nodesAt (url.getD (← get).settings.releaseNotesUrl)
    return .list (nodes.map ReleaseNotes.Node.toJson)

end ServiceCall

end WorkspaceHome
