/-!
# Forms for administrators

A form shows the fields that can be edited, then those that can only be read. The form of a
workspace that exists shows its id first.
-/

namespace WorkspaceHome

/-- What administrators have forms for. -/
inductive AdminForm where
  | workspace
  | membership
  | application
  | userData
  deriving DecidableEq, Repr

namespace AdminForm

/-- The fields that can be edited. -/
def editable : AdminForm → List String
  | .workspace => ["name"]
  | .membership => ["workspace", "user", "role"]
  | .application =>
    ["workspace", "name", "slug", "git_metadata", "pages", "published_pages", "is_public"]
  | .userData =>
    ["user", "recently_used_workspace_ids", "recently_used_app_ids",
      "release_notes_viewed_version"]

/-- The fields that can only be read. -/
def readOnly : AdminForm → List String
  | .workspace => ["id", "slug", "created_at", "updated_at"]
  | .membership => []
  | .application | .userData => ["id", "created_at", "updated_at"]

/-- The fields of a form, for a row that is stored or for a new one. -/
def fields (form : AdminForm) (isStored : Bool) : List String :=
  let all := form.editable ++ form.readOnly
  if form = .workspace ∧ isStored then "id" :: all.filter (· != "id") else all

end AdminForm

end WorkspaceHome
