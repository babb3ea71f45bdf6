import WorkspaceHome.GitMetadata
import WorkspaceHome.Recency
import WorkspaceHome.Site
import WorkspaceHome.Store.Query
import WorkspaceHome.Store.Write

/-!
# What is remembered of a user

Opening an application moves it and its workspace to the front of the user's two recency lists. The
first visit fixes the version whose release notes count as seen; later visits leave it.

Reading never makes a row; a user without one has empty lists and has seen no version.
-/

namespace WorkspaceHome.Remembrance

open Service

/-- What is stored of a viewer, if anything is. -/
def of (viewer : Viewer) : Service (Option UserData) := do
  match ← settle viewer.sought with
  | none => return none
  | some u => ask (·.dataOf? u.id)

/-- The user behind a viewer whose row is to be written. -/
def keeper (viewer : Viewer) : Except Failure User := do
  match ← viewer.sought with
  | some u => .ok u
  | none => .error .constraint

/-- Saves fields of what is remembered of a user, and gives all of it. -/
def save (user : User) (fields : UserDataFields) : Service UserData :=
  write fun s now => do
    let saved ← s.saveUserData user.id fields now
    match saved.dataOf? user.id with
    | some d => return (d, saved)
    | none => throw .noSuchRow

/-- What is remembered of a user; a row is made if there is none. -/
def obtain (user : User) : Service UserData := do
  match ← ask (·.dataOf? user.id) with
  | some d => return d
  | none =>
    let d ← save user {}
    log (.userDataCreated user.id)
    return d

/-- Moves an application and its workspace to the front of the recency lists. A row of a branch
counts as the application on the default branch. -/
def recordRecent (viewer : Viewer) (application : Application) : Service UserData := do
  let limit := (← get).settings.recentLimit
  let id ← settle (GitMetadata.clientId (.int application.id) application.gitMetadata)
  let user ← settle (keeper viewer)
  let data ← atomically do
    let d ← obtain user
    let applications ← settle (Recency.touchStored d.recentApplications id limit)
    let workspaces ←
      settle (Recency.touchStored d.recentWorkspaces (.int application.workspace) limit)
    save user
      { recentApplications := some (.list applications)
        recentWorkspaces := some (.list workspaces) }
  log (.recentApplicationRecorded user.id id application.workspace)
  return data

/-- Fixes the version whose release notes count as seen, unless one is fixed already. -/
def ensureViewed (viewer : Viewer) : Service UserData := do
  let version := (← get).settings.appVersion
  let user ← settle (keeper viewer)
  let (data, isNew) ← atomically do
    let d ← obtain user
    if d.viewedVersion.isSome then return (d, false)
    else return (← save user { viewedVersion := some (some version) }, true)
  if isNew then log (.viewedVersionInitialised user.id version)
  return data

end WorkspaceHome.Remembrance
