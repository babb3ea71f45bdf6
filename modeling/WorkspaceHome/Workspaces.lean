import WorkspaceHome.Json.Writer
import WorkspaceHome.Site
import WorkspaceHome.Store.Query
import WorkspaceHome.Store.Write

/-!
# Workspaces

A user creates a workspace and is its first administrator. Members find a workspace by its id or by
its slug; to anybody else it is denied.
-/

namespace WorkspaceHome

/-- A value as it is kept in a text field; `null` is no text. -/
def Json.fieldText (v : Json) : Option String :=
  match v with
  | .null => none
  | v => some v.display

/-- The number that a key stands for if it consists of digits. -/
def keyNumber (key : String) : Except Failure (Option Int) :=
  if Text.allDigits key.toList then
    match Numeral.int? key with
    | some n => .ok (some n)
    | none => .error .malformed
  else .ok none

namespace Workspaces

open Service

/-- The role of a user who creates a workspace. -/
def administrator : String := "administrator"

/-- The refusal of a workspace whose name or slug is taken. -/
def taken (name : Json) : Failure :=
  .refuse .conflict ("A workspace named '" ++ name.display ++ "' already exists.")

/-- Adds a workspace and its first member. -/
def found (name : Json) (viewer : Viewer) : Service (Workspace × User) :=
  atomically do
    let workspace ← write fun s now => s.addWorkspace name.fieldText none now
    let owner ← settle viewer.owner
    let _ ← write fun s _ => s.addMember workspace.id owner.id (some administrator)
    return (workspace, owner)

/-- Creates a workspace of which the viewer is the administrator. -/
def create (name : Json) (viewer : Viewer) : Service Workspace := do
  -- The store tells only that some rule forbids the rows; the name or the slug must be taken.
  let (workspace, owner) ←
    try found name viewer
    catch e => throw (if e matches .constraint then taken name else e)
  log (.workspaceCreated workspace.id name owner.id)
  return workspace

/-- Whether a viewer is a member of a workspace. -/
def admits (workspace : Nat) (viewer : Viewer) : Service Bool := do
  match ← settle viewer.sought with
  | none => return false
  | some u => ask (·.isMember workspace u.id)

/-- The workspace of a key, which is an id or a slug, for a viewer who is a member. -/
def find (key : Json) (viewer : Viewer) : Service Workspace := do
  let text := key.display
  let id ← settle (keyNumber text)
  match ← ask (·.workspaceAt? id text) with
  | none => throw (.refuse .notFound ("Workspace '" ++ text ++ "' not found."))
  | some workspace =>
    if ← admits workspace.id viewer then return workspace
    else
      throw (.refuse .permissionDenied
        ("You are not a member of workspace '" ++ workspace.slug ++ "'."))

end Workspaces

end WorkspaceHome
