import WorkspaceHome.Homepage.Basic

/-!
# Rows and results as values

The form in which rows and results leave the service. What is missing is `null`.
-/

namespace WorkspaceHome

/-- A value that may be missing. -/
def Json.ofOption {α : Type} (present : α → Json) (value : Option α) : Json :=
  match value with
  | some a => present a
  | none => .null

/-- A moment as a value. -/
def Timestamp.toJson (t : Timestamp) : Json := .text t.write

/-- A count or an id as a value. -/
def Json.ofNat (n : Nat) : Json := .int n

/-- A workspace as a value. -/
def Workspace.toJson (w : Workspace) : Json :=
  .object [("id", .ofNat w.id), ("name", .text w.name), ("slug", .text w.slug),
    ("created_at", w.createdAt.toJson), ("updated_at", w.updatedAt.toJson)]

/-- A membership as a value. -/
def Membership.toJson (m : Membership) : Json :=
  .object [("id", .ofNat m.id), ("role", .text m.role)]

/-- An application as a value. -/
def Application.toJson (a : Application) : Json :=
  .object [("id", .ofNat a.id), ("workspace_id", .ofNat a.workspace), ("name", .text a.name),
    ("slug", .text a.slug), ("git_metadata", a.gitMetadata), ("pages", a.pages),
    ("published_pages", a.publishedPages), ("is_public", .bool a.isPublic)]

/-- A page as a value. -/
def Page.toJson (p : Page) : Json :=
  .object [("id", .ofNat p.id), ("application_id", .ofNat p.application),
    ("unpublished_name", .text p.unpublishedName), ("unpublished_slug", .text p.unpublishedSlug),
    ("published_name", .ofOption .text p.publishedName),
    ("published_slug", .ofOption .text p.publishedSlug)]

/-- What is remembered of a user as a value; without a row, it is what a new row would hold. -/
def UserData.present (user : Option User) (data : Option UserData) : Json :=
  let field (present : UserData → Json) (default : Json) : Json := (data.map present).getD default
  .object [("saved", .bool data.isSome), ("user", .ofOption (.text ·.username) user),
    ("recently_used_workspace_ids", field (·.recentWorkspaces) (.list [])),
    ("recently_used_app_ids", field (·.recentApplications) (.list [])),
    ("release_notes_viewed_version", field (.ofOption .text ·.viewedVersion) .null),
    ("created_at", field (·.createdAt.toJson) .null),
    ("updated_at", field (·.updatedAt.toJson) .null)]

/-- A member of a workspace as a value. -/
def UserRole.toJson (r : UserRole) : Json :=
  .object [("username", .text r.username), ("name", .text r.name), ("role", .text r.role)]

/-- The members of a workspace as a value. -/
def UserRole.listToJson (roles : List UserRole) : Json := .list (roles.map toJson)

/-- A release as a value. -/
def ReleaseNotes.Node.toJson (n : Node) : Json := n.toCached

/-- A page reference as a value. -/
def PageRef.toJson (r : PageRef) : Json :=
  .object [("id", r.id), ("is_default", .bool r.isDefault), ("slug", .text r.slug)]

/-- A listed application as a value. -/
def ListedApplication.toJson (a : ListedApplication) : Json :=
  .object [("id", a.id), ("row_id", .ofNat a.row), ("workspace_id", .ofNat a.workspace),
    ("name", .text a.name), ("slug", .text a.slug), ("is_public", .bool a.isPublic),
    ("git_metadata", a.gitMetadata), ("pages", .list (a.pages.map PageRef.toJson)),
    ("published_pages", .list (a.publishedPages.map PageRef.toJson))]

/-- A workspace on the homepage as a value. -/
def WorkspaceGroup.toJson (g : WorkspaceGroup) : Json :=
  .object [("workspace", .object [("id", .ofNat g.workspace.id), ("name", .text g.workspace.name),
      ("slug", .text g.workspace.slug)]),
    ("applications", .list (g.applications.map ListedApplication.toJson)),
    ("user_roles", UserRole.listToJson g.roles)]

/-- A homepage as a value. -/
def Homepage.toJson (h : Homepage) : Json :=
  .object [("user", .text h.user.username),
    ("workspace_applications", .list (h.groups.map WorkspaceGroup.toJson)),
    ("release_items", .list (h.releases.map ReleaseNotes.Node.toJson)),
    ("new_releases_count", .text h.news.badge)]

end WorkspaceHome
