import WorkspaceHome.Failure
import WorkspaceHome.Json.Writer

/-!
# Git metadata of an application

An application that is connected to Git is stored once per branch, and every row has metadata with
the name of its branch, the name of the default branch, and the id of the application on that
branch. The homepage shows the row of the default branch only, and rows whose connection was never
completed, which name neither branch. `null` is the metadata of an application without Git.
-/

namespace WorkspaceHome.GitMetadata

/-- A member that counts as absent when it counts as false. -/
def nonEmpty (v : Json) : Option Json := if v.truthy then some v else none

/-- The branch of a row. -/
def branch (metadata : Json) : Except Failure (Option Json) :=
  nonEmpty <$> metadata.member "branchName"

/-- The default branch of the application of a row. -/
def defaultBranch (metadata : Json) : Except Failure (Option Json) :=
  nonEmpty <$> metadata.member "defaultBranchName"

/-- Whether the homepage shows a row: it has no metadata, or names neither branch, or is on the
default branch. -/
def isVisible (metadata : Json) : Except Failure Bool :=
  match metadata with
  | .null => .ok true
  | _ => do
    match ← branch metadata, ← defaultBranch metadata with
    | none, none => return true
    | some b, some d => return b.same d
    | _, _ => return false

/-- The id under which clients know an application: the one of the default branch, if the metadata
name one, and the row's own otherwise. -/
def clientId (own : Json) (metadata : Json) : Except Failure Json :=
  if metadata.truthy then do
    return (nonEmpty (← metadata.member "defaultApplicationId")).getD own
  else .ok own

/-- The branch behind the name of an application, if it has one. -/
def branchSuffix (metadata : Json) : Except Failure String :=
  if metadata.truthy then do
    match ← branch metadata with
    | some b => return " @" ++ b.display
    | none => return ""
  else .ok ""

end WorkspaceHome.GitMetadata
