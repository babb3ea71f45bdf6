import WorkspaceHome.Json.Basic
import WorkspaceHome.Store.Table
import WorkspaceHome.Text.Digit
import WorkspaceHome.Timestamp

/-!
# The store

Six tables hold what the service knows: users, workspaces, who is a member of which workspace and in
what role, applications, pages of applications, and what the service remembers of a user.
-/

namespace WorkspaceHome

/-- A person with an account. -/
structure User where
  id : Nat
  username : String
  email : String := ""
  firstName : String := ""
  lastName : String := ""
  deriving DecidableEq, Repr, Inhabited

/-- The first and the last name, without blanks at the ends. -/
def User.fullName (u : User) : String :=
  String.ofList (Text.strip (u.firstName ++ " " ++ u.lastName).toList)

/-- A group of applications that its members share. -/
structure Workspace where
  id : Nat
  name : String
  slug : String
  createdAt : Timestamp
  updatedAt : Timestamp
  deriving DecidableEq, Repr, Inhabited

/-- The role of a user in a workspace. -/
structure Membership where
  id : Nat
  workspace : Nat
  user : Nat
  role : String
  deriving DecidableEq, Repr, Inhabited

/-- An application of a workspace. If it is connected to Git, it is one of its branches. The two
lists of page references are for editing and for viewing. -/
structure Application where
  id : Nat
  workspace : Nat
  name : String
  slug : String
  gitMetadata : Json := .null
  pages : Json := .list []
  publishedPages : Json := .list []
  isPublic : Bool := false
  deriving Repr, Inhabited

/-- A page of an application, as it is edited, and as it was published if it has been. -/
structure Page where
  id : Nat
  application : Nat
  unpublishedName : String
  unpublishedSlug : String
  publishedName : Option String := none
  publishedSlug : Option String := none
  deriving DecidableEq, Repr, Inhabited

/-- What the service remembers of a user: two recency lists, and the version whose release notes the
user has seen. -/
structure UserData where
  id : Nat
  user : Nat
  recentWorkspaces : Json := .list []
  recentApplications : Json := .list []
  viewedVersion : Option String := none
  createdAt : Timestamp
  updatedAt : Timestamp
  deriving Repr, Inhabited

instance : Row User := ⟨User.id⟩
instance : Row Workspace := ⟨Workspace.id⟩
instance : Row Membership := ⟨Membership.id⟩
instance : Row Application := ⟨Application.id⟩
instance : Row Page := ⟨Page.id⟩
instance : Row UserData := ⟨UserData.id⟩

/-- All that the service knows. -/
structure Store where
  users : Table User := .empty
  workspaces : Table Workspace := .empty
  memberships : Table Membership := .empty
  applications : Table Application := .empty
  pages : Table Page := .empty
  userData : Table UserData := .empty
  deriving Inhabited

end WorkspaceHome
