import WorkspaceHome.Json.Writer
import WorkspaceHome.Presentation

/-!
# Bodies of responses

The form in which the homepage and the details of a workspace are sent. Ids and the fields of a
release are sent as texts, unless they are missing.
-/

namespace WorkspaceHome

/-- A value as a text; `null` stays what it is. -/
def Json.sentAsText (v : Json) : Json :=
  match v with
  | .null => .null
  | v => v.displayText

/-- A release as it is sent. -/
def ReleaseNotes.Node.payload (n : Node) : Json :=
  .object [("tag_name", n.tagName.sentAsText), ("name", n.name.sentAsText),
    ("url", n.url.sentAsText), ("published_at", n.publishedAt.sentAsText)]

/-- A user as it is sent. -/
def User.payload (u : User) : Json :=
  .object [("id", .ofNat u.id), ("username", .text u.username), ("email", .text u.email),
    ("name", .text u.fullName)]

/-- A page reference as it is sent. -/
def PageRef.payload (r : PageRef) : Json :=
  .object [("id", r.id.sentAsText), ("is_default", .bool r.isDefault), ("slug", .text r.slug)]

/-- A listed application as it is sent. -/
def ListedApplication.payload (a : ListedApplication) : Json :=
  .object [("id", a.id.sentAsText), ("workspace_id", .ofNat a.workspace), ("name", .text a.name),
    ("slug", .text a.slug), ("is_public", .bool a.isPublic), ("git_metadata", a.gitMetadata),
    ("pages", .list (a.pages.map PageRef.payload)),
    ("published_pages", .list (a.publishedPages.map PageRef.payload))]

/-- A workspace on the homepage as it is sent. -/
def WorkspaceGroup.payload (g : WorkspaceGroup) : Json :=
  .object [("workspace", g.workspace.toJson),
    ("applications", .list (g.applications.map ListedApplication.payload)),
    ("user_roles", UserRole.listToJson g.roles)]

/-- A homepage as it is sent. -/
def Homepage.payload (h : Homepage) : Json :=
  .object [("user", h.user.payload),
    ("workspace_applications", .list (h.groups.map WorkspaceGroup.payload)),
    ("release_items", .list (h.releases.map ReleaseNotes.Node.payload)),
    ("new_releases_count", .text h.news.badge)]

/-- The details of a workspace as they are sent. -/
def Workspace.detailPayload (w : Workspace) (roles : List UserRole) : Json :=
  .object [("workspace", w.toJson), ("user_roles", UserRole.listToJson roles)]

end WorkspaceHome
