import WorkspaceHome.AdminForm
import WorkspaceHome.GitMetadata
import WorkspaceHome.Operation.Caller
import WorkspaceHome.Presentation
import WorkspaceHome.Remembrance

/-!
# Operations on rows

What an administrator can do to the rows of the store: add, save and delete them, and look at the
lines and the forms by which they are shown.
-/

namespace WorkspaceHome

open Service

/-! ### Tables by name -/

/-- The tables of the store. -/
inductive TableName where
  | workspace
  | membership
  | application
  | page
  | userData
  | user
  deriving DecidableEq, Repr

namespace TableName

/-- All tables. -/
def all : List TableName := [.workspace, .membership, .application, .page, .userData, .user]

/-- The word for a table. -/
def label : TableName → String
  | .workspace => "workspace"
  | .membership => "membership"
  | .application => "application"
  | .page => "page"
  | .userData => "user_data"
  | .user => "user"

/-- The table of a word. -/
def named? (word : String) : Option TableName := all.find? fun t => t.label == word

/-- The number of rows of a table. -/
def size (s : Store) : TableName → Nat
  | .workspace => s.workspaces.size
  | .membership => s.memberships.size
  | .application => s.applications.size
  | .page => s.pages.size
  | .userData => s.userData.size
  | .user => s.users.size

/-- Whether a table has a row of an id. -/
def holds (s : Store) (id : Nat) : TableName → Bool
  | .workspace => (s.workspaces.find? id).isSome
  | .membership => (s.memberships.find? id).isSome
  | .application => (s.applications.find? id).isSome
  | .page => (s.pages.find? id).isSome
  | .userData => (s.userData.find? id).isSome
  | .user => (s.users.find? id).isSome

/-- The store without a row and without all that belongs to it. -/
def erase (s : Store) (id : Nat) : TableName → Store
  | .workspace => s.eraseWorkspace id
  | .membership => { s with memberships := s.memberships.erase id }
  | .application => s.eraseApplication id
  | .page => { s with pages := s.pages.erase id }
  | .userData => { s with userData := s.userData.erase id }
  | .user => s.eraseUser id

/-- The line by which a row is shown. -/
def line (s : Store) (id : Nat) : TableName → Except Failure String
  | .workspace => do
    let w ← existing (s.workspaces.find? id)
    return "#" ++ toString w.id ++ " " ++ w.name
  | .membership => do
    let m ← existing (s.memberships.find? id)
    let w ← existing (s.workspaces.find? m.workspace)
    let u ← existing (s.users.find? m.user)
    return w.slug ++ "/" ++ u.username ++ " [" ++ m.role ++ "]"
  | .application => do
    let a ← existing (s.applications.find? id)
    return toString a.workspace ++ "/" ++ a.name ++ (← GitMetadata.branchSuffix a.gitMetadata)
  | .page => do
    let p ← existing (s.pages.find? id)
    return toString p.application ++ "/" ++ p.unpublishedSlug
  | .userData => do
    let d ← existing (s.userData.find? id)
    return "UserData(" ++ toString d.user ++ ")"
  | .user => do
    let u ← existing (s.users.find? id)
    return u.username

end TableName

/-! ### Operations -/

/-- What an administrator can do to the rows of the store. -/
inductive RowOperation where
  | addUser (username email firstName lastName : String)
  | addWorkspace (name slug : Option String)
  | saveWorkspace (id : Json) (fields : WorkspaceFields)
  | addMember (workspace : Json) (user : Caller) (role : Option String)
  | removeMember (workspace : Json) (user : Caller)
  | addApplication (workspace : Json) (fields : ApplicationFields)
  | saveApplication (id : Json) (workspace : Option Json) (fields : ApplicationFields)
  | addPage (application : Json) (fields : PageFields)
  | savePage (id : Json) (fields : PageFields)
  | saveUserData (user : Caller) (fields : UserDataFields)
  | delete (table : TableName) (id : Json)
  | showLine (table : TableName) (id : Json)
  | showForm (form : AdminForm) (table : TableName) (id : Option Json)

namespace RowOperation

/-- The id of a row that has to be in a table. -/
def storedId (table : TableName) (id : Json) : Service Nat := do
  let n ← settle id.rowId
  if ← ask (table.holds · n) then return n else throw .noSuchRow

/-- Saves to the store. -/
def save (operation : Store → Timestamp → Except Failure Store) : Service Unit :=
  write fun s now => do return ((), ← operation s now)

/-- A row that has to be there, as a value. -/
def shown {α : Type} (toJson : α → Json) (find : Store → Option α) : Service Json := do
  return toJson (← settle (existing (← ask find)))

/-- Performs an operation; its result is the row it was about, or what is left, or what is shown. -/
def perform : RowOperation → Service Json
  | addUser username email firstName lastName => do
    let user ← write fun s _ => s.addUser username email firstName lastName
    return .ofNat user.id
  | addWorkspace name slug => do
    let workspace ← write fun s now => s.addWorkspace name slug now
    return workspace.toJson
  | saveWorkspace id fields => do
    let id ← settle id.rowId
    save fun s now => s.saveWorkspace id fields now
    shown Workspace.toJson (·.workspaces.find? id)
  | addMember workspace user role => do
    let workspace ← storedId .workspace workspace
    let user ← settle (← user.viewer).owner
    let membership ← write fun s _ => s.addMember workspace user.id role
    return membership.toJson
  | removeMember workspace user => do
    let workspace ← settle workspace.rowId
    match ← settle (← user.viewer).sought with
    | none => return .int 0
    | some user =>
      let gone ← write fun s _ => .ok (s.removeMember workspace user.id)
      return .ofNat gone
  | addApplication workspace fields => do
    let workspace ← storedId .workspace workspace
    let application ← write fun s _ => s.addApplication workspace { fields with workspace := none }
    return application.toJson
  | saveApplication id workspace fields => do
    let id ← storedId .application id
    let workspace ← workspace.mapM (storedId .workspace)
    save fun s _ => s.saveApplication id { fields with workspace }
    shown Application.toJson (·.applications.find? id)
  | addPage application fields => do
    let application ← storedId .application application
    let page ← write fun s _ => s.addPage application fields
    return page.toJson
  | savePage id fields => do
    let id ← settle id.rowId
    save fun s _ => s.savePage id fields
    shown Page.toJson (·.pages.find? id)
  | saveUserData user fields => do
    let user ← settle (← user.viewer).owner
    let data ← Remembrance.save user fields
    return UserData.present (some user) (some data)
  | delete table id => do
    let id ← storedId table id
    update (table.erase · id)
    let store := (← get).store
    return .object (TableName.all.map fun t => (t.label, .ofNat (t.size store)))
  | showLine table id => do
    let id ← settle id.rowId
    return .text (← settle (table.line (← get).store id))
  | showForm form table id => do
    let id ← id.mapM (storedId table)
    return .list ((form.fields id.isSome).map Json.text)

end RowOperation

end WorkspaceHome
