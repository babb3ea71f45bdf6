import WorkspaceHome.Cache
import WorkspaceHome.Log
import WorkspaceHome.ReleaseNotes.Feed
import WorkspaceHome.Store.Basic

/-!
# A running service

A `Site` is a service with all that it depends on: its store, its cache, the time, its settings and
the feed of its release notes, together with what it leaves behind: the log, and the addresses that
the feed was asked for.

An operation is a `Service` action. When it fails, what it has logged and asked for stays; what it
has written stays as well, unless it was written `atomically`.
-/

namespace WorkspaceHome

/-- A service with all that it depends on and all that it leaves behind. -/
structure Site where
  store : Store := {}
  cache : Cache := {}
  /-- The present moment; a site begins at the start of 2024. -/
  clock : Timestamp := ⟨1704067200 * Timestamp.second⟩
  settings : Settings := {}
  feed : ReleaseNotes.Feed := default
  /-- What is bound to the entries of the log. -/
  context : Context := []
  log : List LogEntry := []
  /-- The addresses that the feed was asked for. -/
  requests : List String := []
  deriving Inhabited

/-- An operation of a service. -/
abbrev Service := ExceptT Failure (StateM Site)

namespace Service

/-- Leaves an entry in the log. -/
def log (event : Event) : Service Unit :=
  modify fun s => { s with log := s.log ++ [⟨event, s.context⟩] }

/-- The result of a computation that may fail. -/
def settle {α : Type} (result : Except Failure α) : Service α :=
  match result with
  | .ok a => pure a
  | .error e => throw e

/-- An answer of the store. -/
def ask {α : Type} (question : Store → α) : Service α := do return question (← get).store

/-- Changes the store. -/
def update (change : Store → Store) : Service Unit :=
  modify fun s => { s with store := change s.store }

/-- Writes to the store at the present moment. -/
def write {α : Type} (operation : Store → Timestamp → Except Failure (α × Store)) :
    Service α := do
  let s ← get
  let (a, store) ← settle (operation s.store s.clock)
  set { s with store }
  return a

/-- Does an operation as a whole: if it fails, the store is as it was before. -/
def atomically {α : Type} (operation : Service α) : Service α := do
  let before := (← get).store
  try operation
  catch e =>
    update fun _ => before
    throw e

end Service

/-- Who asks for something: nobody, a visitor without an account, or a user. -/
inductive Viewer where
  | nobody
  | anonymous
  | user (user : User)
  deriving DecidableEq, Repr, Inhabited

namespace Viewer

/-- The user behind a viewer, who has to be signed in. -/
def signedIn : Viewer → Except Failure User
  | .user u => .ok u
  | _ => .error .notSignedIn

/-- The user behind a viewer whose rows are looked up; nobody has none. -/
def sought : Viewer → Except Failure (Option User)
  | .nobody => .ok none
  | .anonymous => .error .visitorSought
  | .user u => .ok (some u)

/-- The user behind a viewer who is to own a row. -/
def owner : Viewer → Except Failure User
  | .nobody => .error .constraint
  | .anonymous => .error .visitorAssigned
  | .user u => .ok u

end Viewer

end WorkspaceHome
