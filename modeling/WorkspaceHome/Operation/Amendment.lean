import WorkspaceHome.Operation.Basic

/-!
# Amendments of rows

Rows of users, memberships, pages and of what is remembered can also be edited in the store itself:
a user is renamed, a membership is given to another user or for another workspace, a page is moved
to another application, and what is remembered of one user is handed over to another. The store
checks these edits like any others. A `Deed` is an operation on a site or such an amendment.
-/

namespace WorkspaceHome

open Service

/-- Fields of a user. -/
structure UserFields where
  username : Option String := none
  email : Option String := none
  firstName : Option String := none
  lastName : Option String := none

/-- Fields of a membership. -/
structure MembershipFields where
  workspace : Option Nat := none
  user : Option Nat := none
  role : Option (Option String) := none

namespace Store

/-- Saves fields of a user. -/
def saveUser (s : Store) (id : Nat) (fields : UserFields) : Except Failure Store := do
  let u ← existing (s.users.find? id)
  let username := fields.username.getD u.username
  allow (!s.users.rows.any fun v => v.id != id && v.username == username)
  let email := fields.email.getD u.email
  let firstName := fields.firstName.getD u.firstName
  let lastName := fields.lastName.getD u.lastName
  let change (u : User) : User := { u with username, email, firstName, lastName }
  return { s with users := s.users.modify id change fun _ => rfl }

/-- Saves fields of a membership. -/
def saveMember (s : Store) (id : Nat) (fields : MembershipFields) : Except Failure Store := do
  let m ← existing (s.memberships.find? id)
  let role ← needed (fields.role.getD (some m.role))
  let workspace := fields.workspace.getD m.workspace
  let user := fields.user.getD m.user
  allow (!s.memberships.rows.any fun n => n.id != id && n.workspace == workspace && n.user == user)
  let change (m : Membership) : Membership := { m with workspace, user, role }
  return { s with memberships := s.memberships.modify id change fun _ => rfl }

/-- Moves a page to an application. -/
def movePage (s : Store) (id application : Nat) : Except Failure Store := do
  let _ ← existing (s.pages.find? id)
  let change (p : Page) : Page := { p with application }
  return { s with pages := s.pages.modify id change fun _ => rfl }

/-- Hands over what is remembered of a user to another one. -/
def handOver (s : Store) (id user : Nat) (now : Timestamp) : Except Failure Store := do
  let _ ← existing (s.userData.find? id)
  allow (!s.userData.rows.any fun d => d.id != id && d.user == user)
  let change (d : UserData) : UserData := { d with user, updatedAt := now }
  return { s with userData := s.userData.modify id change fun _ => rfl }

end Store

/-- What can be edited in the store itself. -/
inductive Amendment where
  | saveUser (id : Json) (fields : UserFields)
  | saveMember (id : Json) (workspace : Option Json) (user : Option Caller)
      (role : Option (Option String))
  | movePage (id application : Json)
  | handOver (id : Json) (user : Caller)

namespace Amendment

open RowOperation

/-- The user that a caller has to be. -/
def owner (caller : Caller) : Service Nat := do
  let user ← settle (← caller.viewer).owner
  return user.id

/-- Edits a row; all rows that the amendment names have to be there. -/
def perform : Amendment → Service Json
  | saveUser id fields => do
    let id ← storedId .user id
    save fun s _ => s.saveUser id fields
    return .ofNat id
  | saveMember id workspace user role => do
    let id ← storedId .membership id
    let workspace ← workspace.mapM (storedId .workspace)
    let user ← user.mapM owner
    save fun s _ => s.saveMember id { workspace, user, role }
    shown Membership.toJson (·.memberships.find? id)
  | movePage id application => do
    let id ← storedId .page id
    let application ← storedId .application application
    save fun s _ => s.movePage id application
    shown Page.toJson (·.pages.find? id)
  | handOver id user => do
    let id ← storedId .userData id
    let user ← owner user
    save fun s now => s.handOver id user now
    return .ofNat id

end Amendment

/-- What can be done to a site and to its store. -/
inductive Deed where
  | operation (operation : Operation)
  | amendment (amendment : Amendment)

namespace Deed

/-- The deed as a service action. -/
def act : Deed → Service Json
  | .operation op => op.act
  | .amendment edit => edit.perform

/-- Does a deed on a site. -/
def perform (deed : Deed) (site : Site) : Report × Site :=
  let (outcome, site) := deed.act.run { site with log := [], requests := [] }
  (⟨outcome, site.log, site.requests⟩, site)

/-- The site that deeds leave, one after another; a failure does not stop them. -/
def performAll : List Deed → Site → Site
  | [], site => site
  | deed :: rest, site => performAll rest (deed.perform site).2

end Deed

end WorkspaceHome
