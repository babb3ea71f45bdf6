import WorkspaceHome.Failure
import WorkspaceHome.Settings

/-!
# The cache

A cache keeps values under keys for a limited time. It may be out of order: then reading, writing or
both fail with a message, or what has been written is lost. Moments are added to lifetimes as whole
numbers, however long these are; a lifetime that no floating-point number can hold, of some 2 ^ 1024
seconds, is not told apart from others.
-/

namespace WorkspaceHome

/-- In what order a cache is. -/
inductive Cache.Mode where
  | working
  | failing (reads writes : Bool) (message : String)
  | lossy
  deriving DecidableEq, Repr

/-- A value and the moment at which it expires. -/
structure Cache.Entry where
  value : Json
  expires : Option Timestamp
  deriving Repr

/-- A cache: its order and its entries, at most one for a key. -/
structure Cache where
  mode : Cache.Mode := .working
  entries : List (String × Cache.Entry) := []
  deriving Repr

namespace Cache

/-- The fault that a failing cache reports. -/
def fault (message : String) : Fault := ⟨"RuntimeError", message⟩

/-- Whether an entry holds at a moment. -/
def Entry.isLive (e : Entry) (now : Timestamp) : Bool :=
  match e.expires with
  | none => true
  | some t => decide (now.micros < t.micros)

/-- The entry of a key. -/
def find? (c : Cache) (key : String) : Option Entry :=
  (c.entries.find? fun (k, _) => k == key).map Prod.snd

/-- The live value of a key, if reading works. -/
def get? (c : Cache) (now : Timestamp) (key : String) : Except Fault (Option Json) :=
  match c.mode with
  | .failing true _ message => .error (fault message)
  | .lossy => .ok none
  | _ => .ok (((c.find? key).filter (·.isLive now)).map (·.value))

/-- Stores a value under a key for a time, if writing works. -/
def put (c : Cache) (now : Timestamp) (key : String) (value : Json) (lifetime : Lifetime) :
    Except Fault Cache :=
  match c.mode with
  | .failing _ true message => .error (fault message)
  | _ =>
    let entry : Entry := ⟨value, lifetime.map now.later⟩
    .ok { c with entries := (key, entry) :: c.entries.filter fun (k, _) => k != key }

end Cache

end WorkspaceHome
