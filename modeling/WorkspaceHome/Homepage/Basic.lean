import WorkspaceHome.GitMetadata
import WorkspaceHome.ReleaseNotes.Node
import WorkspaceHome.Store.Query

/-!
# The homepage of a user

A homepage shows the workspaces of a user, each with the applications that can be opened and with
its members, and the release notes with a badge that counts the new ones.
-/

namespace WorkspaceHome

/-- The two editions of a page. -/
inductive Edition where
  | unpublished
  | published
  deriving DecidableEq, Repr

namespace Edition

/-- The slug of a page in an edition. -/
def slug : Edition → Page → Option String
  | .unpublished, p => some p.unpublishedSlug
  | .published, p => p.publishedSlug

/-- The name of the field that holds the slug of an edition. -/
def field : Edition → String
  | .unpublished => "unpublished_slug"
  | .published => "published_slug"

end Edition

/-- A reference to a page of an application, with the slug of the page if it is the default one. -/
structure PageRef where
  id : Json
  isDefault : Bool := false
  slug : String := ""
  deriving Repr, Inhabited

namespace PageRef

/-- The reference that a stored value stands for. -/
def ofStored (v : Json) : Except Failure PageRef := do
  let id ← v.member "id"
  let isDefault ← v.member "isDefault"
  return { id, isDefault := isDefault.truthy }

/-- The references of a stored list, which may be absent. -/
def listOfStored (v : Json) : Except Failure (List PageRef) :=
  if v.truthy then do (← v.items).mapM ofStored else .ok []

end PageRef

/-- An application as the homepage lists it. Clients know it by `id`; `row` is the row that is
listed, to which the pages belong. -/
structure ListedApplication where
  id : Json
  row : Nat
  workspace : Nat
  name : String
  slug : String
  isPublic : Bool
  gitMetadata : Json
  pages : List PageRef
  publishedPages : List PageRef
  deriving Repr, Inhabited

namespace ListedApplication

/-- A row as it is listed. -/
def ofApplication (a : Application) : Except Failure ListedApplication := do
  let id ← GitMetadata.clientId (.int a.id) a.gitMetadata
  let pages ← PageRef.listOfStored a.pages
  let publishedPages ← PageRef.listOfStored a.publishedPages
  return { id, row := a.id, workspace := a.workspace, name := a.name, slug := a.slug,
           isPublic := a.isPublic, gitMetadata := a.gitMetadata, pages, publishedPages }

/-- The references of an edition. -/
def refs (a : ListedApplication) : Edition → List PageRef
  | .unpublished => a.pages
  | .published => a.publishedPages

end ListedApplication

/-- A workspace on the homepage. -/
structure WorkspaceGroup where
  workspace : Workspace
  applications : List ListedApplication
  roles : List UserRole
  deriving Repr, Inhabited

/-- The homepage of a user. -/
structure Homepage where
  user : User
  groups : List WorkspaceGroup
  releases : List ReleaseNotes.Node
  news : ReleaseNotes.News
  deriving Repr, Inhabited

/-- All applications on a homepage. -/
def Homepage.applications (h : Homepage) : List ListedApplication :=
  h.groups.flatMap (·.applications)

end WorkspaceHome
