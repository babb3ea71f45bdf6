import WorkspaceHome.ReleaseNotes.Client

/-!
# Changes in the surroundings of a service

What can happen around a running service: its settings are changed, time passes, the feed behaves in
another way, the cache goes out of order, or somebody writes to the cache.
-/

namespace WorkspaceHome

open Service

/-- Changes a setting by its name; a name of no setting changes nothing. -/
def Settings.assign (s : Settings) (name : String) (value : Json) : Settings :=
  match name, value with
  | "APP_VERSION", .text v => { s with appVersion := v }
  | "INSTANCE_ID", .text v => { s with instanceId := v }
  | "RELEASE_NOTES_URL", .text v => { s with releaseNotesUrl := v }
  | "RELEASE_NOTES_URL", .null => { s with releaseNotesUrl := "" }
  | "RECENTLY_USED_LIMIT", .int n => { s with recentLimit := n }
  | "RELEASE_NOTES_CACHE_SECONDS", .null => { s with releaseNotesLifetime := none }
  | "RELEASE_NOTES_CACHE_SECONDS", .int n => { s with releaseNotesLifetime := .seconds n }
  | "RELEASE_NOTES_CACHE_SECONDS", .float x =>
    { s with releaseNotesLifetime := x.scaled? Timestamp.second }
  | _, _ => s

/-- Changes settings by their names. -/
def Settings.assignAll (s : Settings) (values : List (String × Json)) : Settings :=
  values.foldl (fun s (name, value) => s.assign name value) s

/-- What can happen around a service. -/
inductive Surroundings where
  | changeSettings (values : List (String × Json))
  /-- The clock is set, if a moment is given, and then moved on by microseconds. -/
  | moveClock (moment : Option Timestamp) (micros : Int)
  | changeFeed (feed : ReleaseNotes.Feed)
  | changeCache (mode : Cache.Mode)
  | writeCache (value : Json) (lifetime : Lifetime)
  | readCache

namespace Surroundings

/-- The result of an access to the cache. -/
def access {α : Type} (result : Except Fault α) : Service α :=
  settle (result.mapError Failure.faulty)

/-- Lets something happen. -/
def perform : Surroundings → Service Json
  | changeSettings values => do
    modify fun s => { s with settings := s.settings.assignAll values }
    return .object values
  | moveClock moment micros => do
    modify fun s => { s with clock := (moment.getD s.clock).later micros }
    return .text (← get).clock.write
  | changeFeed feed => do
    modify fun s => { s with feed }
    return .null
  | changeCache mode => do
    modify fun s => { s with cache := { s.cache with mode } }
    return .null
  | writeCache value lifetime => do
    let s ← get
    let key := ReleaseNotes.cacheKey s.settings
    let cache ← access (s.cache.put s.clock key value lifetime)
    set { s with cache }
    return .text key
  | readCache => do
    let s ← get
    let value ← access (s.cache.get? s.clock (ReleaseNotes.cacheKey s.settings))
    return value.getD .null

end Surroundings

end WorkspaceHome
