import WorkspaceHome.Failure
import WorkspaceHome.Store.Basic
import WorkspaceHome.Text.Slug

/-!
# Writing to the store

Each operation either gives the changed store or fails and changes nothing. The store forbids two
users of one name, two workspaces of one name or slug, and two memberships of one user in one
workspace; it needs a value in every field but the Git metadata and the four that concern what has
not happened yet. A slug that is missing is made from the name, whenever a row is saved; one that is
there stays. Deleting a row deletes the rows that belong to it.
-/

namespace WorkspaceHome

/-! ### Slugs -/

/-- The slug of a saved row: the given one, or the one of its name if none is given. -/
def savedSlug (slug : Option String) (name : String) : String :=
  match slug with
  | some s => if s = "" then Text.slug name else s
  | none => Text.slug name

/-- The slug of a published page: without one, that of its name, if it has one that is not
empty. -/
def savedPublishedSlug (slug name : Option String) : Option String :=
  if slug.getD "" = "" ∧ name.getD "" ≠ "" then some (Text.slug (name.getD "")) else slug

/-- A value that the store can keep in a field of any values. -/
def isStorable (v : Json) : Bool := v.everywhere Json.isFinite

/-- A value for a field that needs one. -/
def needed {α : Type} (value : Option α) : Except Failure α :=
  match value with
  | some a => .ok a
  | none => .error .constraint

/-- A row that has to be there. -/
def existing {α : Type} (row : Option α) : Except Failure α :=
  match row with
  | some r => .ok r
  | none => .error .noSuchRow

/-- Fails unless the store allows it. -/
def allow (allowed : Bool) : Except Failure Unit :=
  if allowed then .ok () else .error .constraint

/-! ### Fields to be saved

A field that is not given keeps its value, or takes its default in a new row. A text field can be
given as `none`, which stands for no value. -/

/-- Fields of a workspace. -/
structure WorkspaceFields where
  name : Option (Option String) := none
  slug : Option (Option String) := none

/-- Fields of an application. -/
structure ApplicationFields where
  workspace : Option Nat := none
  name : Option (Option String) := none
  slug : Option (Option String) := none
  gitMetadata : Option Json := none
  pages : Option Json := none
  publishedPages : Option Json := none
  isPublic : Option (Option Bool) := none

/-- Fields of a page. -/
structure PageFields where
  unpublishedName : Option (Option String) := none
  unpublishedSlug : Option (Option String) := none
  publishedName : Option (Option String) := none
  publishedSlug : Option (Option String) := none

/-- Fields of what is remembered of a user. -/
structure UserDataFields where
  recentWorkspaces : Option Json := none
  recentApplications : Option Json := none
  viewedVersion : Option (Option String) := none

namespace Store

/-! ### Users -/

/-- Adds a user. -/
def addUser (s : Store) (username email firstName lastName : String) :
    Except Failure (User × Store) := do
  allow (!s.users.rows.any fun u => u.username == username)
  let u : User := ⟨s.users.next, username, email, firstName, lastName⟩
  return (u, { s with users := s.users.insert u rfl })

/-! ### Workspaces -/

/-- Whether no workspace but one with a given id has a name or a slug. -/
def isFree (s : Store) (id : Nat) (name slug : String) : Bool :=
  !s.workspaces.rows.any fun w => w.id != id && (w.name == name || w.slug == slug)

/-- Adds a workspace. -/
def addWorkspace (s : Store) (name slug : Option String) (now : Timestamp) :
    Except Failure (Workspace × Store) := do
  let name ← needed name
  let w : Workspace := ⟨s.workspaces.next, name, savedSlug slug name, now, now⟩
  allow (s.isFree w.id w.name w.slug)
  return (w, { s with workspaces := s.workspaces.insert w rfl })

/-- Saves fields of a workspace. -/
def saveWorkspace (s : Store) (id : Nat) (fields : WorkspaceFields) (now : Timestamp) :
    Except Failure Store := do
  let w ← existing (s.workspaces.find? id)
  let name ← needed (fields.name.getD (some w.name))
  let slug := savedSlug (fields.slug.getD (some w.slug)) name
  allow (s.isFree id name slug)
  let change (w : Workspace) : Workspace := { w with name, slug, updatedAt := now }
  return { s with workspaces := s.workspaces.modify id change fun _ => rfl }

/-! ### Memberships -/

/-- Makes a user a member of a workspace. -/
def addMember (s : Store) (workspace user : Nat) (role : Option String) :
    Except Failure (Membership × Store) := do
  let role ← needed role
  allow (!s.memberships.rows.any fun m => m.workspace == workspace && m.user == user)
  let m : Membership := ⟨s.memberships.next, workspace, user, role⟩
  return (m, { s with memberships := s.memberships.insert m rfl })

/-- Ends the membership of a user in a workspace, and counts the rows that are gone. -/
def removeMember (s : Store) (workspace user : Nat) : Nat × Store :=
  let isMeant (m : Membership) : Bool := m.workspace == workspace && m.user == user
  ((s.memberships.rows.filter isMeant).length,
    { s with memberships := s.memberships.filter fun m => !isMeant m })

/-! ### Applications -/

end Store

/-- An application after fields have been assigned and its slug has been saved. -/
def ApplicationFields.applyTo (fields : ApplicationFields) (a : Application) :
    Except Failure Application := do
  let name ← needed (fields.name.getD (some a.name))
  let slug := savedSlug (fields.slug.getD (some a.slug)) name
  let gitMetadata := fields.gitMetadata.getD a.gitMetadata
  let pages := fields.pages.getD a.pages
  let publishedPages := fields.publishedPages.getD a.publishedPages
  let isPublic ← needed (fields.isPublic.getD (some a.isPublic))
  allow (!(pages matches .null) && !(publishedPages matches .null))
  allow (isStorable gitMetadata && isStorable pages && isStorable publishedPages)
  let workspace := fields.workspace.getD a.workspace
  return { a with workspace, name, slug, gitMetadata, pages, publishedPages, isPublic }

/-- A page after fields have been assigned and its slugs have been saved. -/
def PageFields.applyTo (fields : PageFields) (p : Page) : Except Failure Page := do
  let unpublishedName ← needed (fields.unpublishedName.getD (some p.unpublishedName))
  let unpublishedSlug := savedSlug (fields.unpublishedSlug.getD (some p.unpublishedSlug))
    unpublishedName
  let publishedName := fields.publishedName.getD p.publishedName
  let publishedSlug := savedPublishedSlug (fields.publishedSlug.getD p.publishedSlug) publishedName
  return { p with unpublishedName, unpublishedSlug, publishedName, publishedSlug }

/-- What is remembered of a user after fields have been assigned. -/
def UserDataFields.applyTo (fields : UserDataFields) (d : UserData) : Except Failure UserData := do
  let recentWorkspaces := fields.recentWorkspaces.getD d.recentWorkspaces
  let recentApplications := fields.recentApplications.getD d.recentApplications
  allow (!(recentWorkspaces matches .null) && !(recentApplications matches .null))
  allow (isStorable recentWorkspaces && isStorable recentApplications)
  let viewedVersion := fields.viewedVersion.getD d.viewedVersion
  return { d with recentWorkspaces, recentApplications, viewedVersion }

namespace Store

/-- Adds an application to a workspace. -/
def addApplication (s : Store) (workspace : Nat) (fields : ApplicationFields) :
    Except Failure (Application × Store) := do
  let a ← fields.applyTo { id := 0, workspace, name := "", slug := "" }
  let a := { a with id := s.applications.next }
  return (a, { s with applications := s.applications.insert a rfl })

/-- Saves fields of an application. -/
def saveApplication (s : Store) (id : Nat) (fields : ApplicationFields) :
    Except Failure Store := do
  let a ← fields.applyTo (← existing (s.applications.find? id))
  let change (old : Application) : Application := { a with id := old.id }
  return { s with applications := s.applications.modify id change fun _ => rfl }

/-! ### Pages -/

/-- Adds a page to an application. -/
def addPage (s : Store) (application : Nat) (fields : PageFields) :
    Except Failure (Page × Store) := do
  let p ← fields.applyTo { id := 0, application, unpublishedName := "", unpublishedSlug := "" }
  let p := { p with id := s.pages.next }
  return (p, { s with pages := s.pages.insert p rfl })

/-- Saves fields of a page. -/
def savePage (s : Store) (id : Nat) (fields : PageFields) : Except Failure Store := do
  let p ← fields.applyTo (← existing (s.pages.find? id))
  let change (old : Page) : Page := { p with id := old.id }
  return { s with pages := s.pages.modify id change fun _ => rfl }

/-! ### What is remembered of users -/

/-- What is remembered of a user of whom nothing is remembered yet. -/
def freshData (id user : Nat) (now : Timestamp) : UserData :=
  { id, user, createdAt := now, updatedAt := now }

/-- Saves fields of what is remembered of a user, in a new row if there is none. -/
def saveUserData (s : Store) (user : Nat) (fields : UserDataFields) (now : Timestamp) :
    Except Failure Store := do
  match s.userData.rows.find? fun d => d.user == user with
  | none =>
    let d ← fields.applyTo (freshData 0 user now)
    let d := { d with id := s.userData.next }
    return { s with userData := s.userData.insert d rfl }
  | some d =>
    let new ← fields.applyTo d
    let change (old : UserData) : UserData := { new with id := old.id, updatedAt := now }
    return { s with userData := s.userData.modify d.id change fun _ => rfl }

/-! ### Deleting -/

/-- Deletes an application with its pages. -/
def eraseApplication (s : Store) (id : Nat) : Store :=
  { s with
    applications := s.applications.erase id
    pages := s.pages.filter fun p => p.application != id }

/-- Deletes a workspace with its memberships, its applications and their pages. -/
def eraseWorkspace (s : Store) (id : Nat) : Store :=
  let gone (application : Nat) : Bool :=
    s.applications.rows.any fun a => a.id == application && a.workspace == id
  { s with
    workspaces := s.workspaces.erase id
    memberships := s.memberships.filter fun m => m.workspace != id
    applications := s.applications.filter fun a => a.workspace != id
    pages := s.pages.filter fun p => !gone p.application }

/-- Deletes a user with the memberships and with what is remembered of the user. -/
def eraseUser (s : Store) (id : Nat) : Store :=
  { s with
    users := s.users.erase id
    memberships := s.memberships.filter fun m => m.user != id
    userData := s.userData.filter fun d => d.user != id }

end Store

end WorkspaceHome
