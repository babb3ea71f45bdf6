import WorkspaceHome.Site

/-!
# The health of a service

A service is healthy when its database can be opened and its cache gives back what was written. What
is wrong is noted and told.
-/

namespace WorkspaceHome.Health

open Service

/-- The key under which the cache is probed, and the value. -/
def probeKey : String := "health:probe"
def probeValue : Json := .text "1"

/-- The health of a service; the two parts say `ok` or what is wrong. -/
structure Report where
  database : String
  cache : String
  version : String
  deriving DecidableEq, Repr

/-- The word for a part that is in order. -/
def fine : String := "ok"

/-- Whether both parts are in order. -/
def Report.isHealthy (r : Report) : Bool := r.database == fine && r.cache == fine

/-- The word for a part that fails. -/
def failing (message : String) : String := "error: " ++ message

/-- Opens the database, which may fail with a message. -/
def checkDatabase (fault : Option String) : Service String := do
  match fault with
  | none => return fine
  | some message =>
    log (.databaseUnhealthy message)
    return failing message

/-- Writes the probe to the cache and reads it back. -/
def probe : Service (Except Fault (Option Json)) := do
  let s ← get
  match s.cache.put s.clock probeKey probeValue (.seconds 5) with
  | .error fault => return .error fault
  | .ok cache =>
    set { s with cache }
    return cache.get? s.clock probeKey

/-- Probes the cache. -/
def checkCache : Service String := do
  match ← probe with
  | .error fault =>
    log (.cacheUnhealthy fault.message)
    return failing fault.message
  | .ok read =>
    if read.any probeValue.same then return fine else return failing "probe value not read back"

/-- Checks the health of a service. -/
def check (databaseFault : Option String) : Service Report := do
  let database ← checkDatabase databaseFault
  let cache ← checkCache
  return { database, cache, version := (← get).settings.appVersion }

/-- A report as a value. -/
def Report.toJson (r : Report) : Json :=
  .object [("status", .text (if r.isHealthy then fine else "degraded")), ("db", .text r.database),
    ("cache", .text r.cache), ("version", .text r.version)]

end WorkspaceHome.Health
