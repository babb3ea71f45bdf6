import WorkspaceHome.Site
import WorkspaceHome.Store.Query
import WorkspaceHome.Store.Write

/-!
# Callers and ids

An operation names its caller and the rows that it is about; both have to be there.
-/

namespace WorkspaceHome

open Service

/-- Who does something, by name. -/
inductive Caller where
  | nobody
  | anonymous
  | named (username : String)
  deriving DecidableEq, Repr

/-- The viewer behind a caller; a name without a user is a fault. -/
def Caller.viewer : Caller → Service Viewer
  | .nobody => return .nobody
  | .anonymous => return .anonymous
  | .named username => do return .user (← settle (existing (← ask (·.userNamed? username))))

/-- The user behind a viewer, if there is one. -/
def Viewer.user? : Viewer → Option User
  | .user u => some u
  | _ => none

/-- The id of a row that is asked for; no row has a negative one. -/
def Json.rowId (v : Json) : Except Failure Nat := do
  match ← v.idNumber with
  | some (.ofNat n) => return n
  | _ => throw .noSuchRow

end WorkspaceHome
