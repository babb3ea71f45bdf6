import WorkspaceHome.Failure

/-!
# The log

Every noteworthy step leaves an `Event`, which has a name, a level and fields of its own. An entry
of the log is an event together with the context that was bound when it happened: the id of the
request that is being served.
-/

namespace WorkspaceHome

/-- How serious an event is. -/
inductive Level where
  | debug
  | info
  | warning
  | error
  deriving DecidableEq, Repr

/-- The word for a level. -/
def Level.label : Level → String
  | .debug => "debug"
  | .info => "info"
  | .warning => "warning"
  | .error => "error"

/-- What has happened. -/
inductive Event where
  | workspaceCreated (workspace : Nat) (name : Json) (owner : Nat)
  | userDataCreated (user : Nat)
  | recentApplicationRecorded (user : Nat) (application : Json) (workspace : Nat)
  | viewedVersionInitialised (user : Nat) (version : String)
  | applicationsListed (visible hidden : Nat)
  | noPagesForApplication (application : Nat)
  | defaultPageNotFound (application : Nat) (page : Json)
  | pageVersionMissing (application : Nat) (page : Json) (field : String)
  | releaseNotesSkipped (detail : String)
  | releaseNotesFailed
  | homepageBuilt (user workspaces applications : Nat)
  | cacheReadFailed (error : String)
  | cacheEntryInvalid (key : String)
  | cacheWriteFailed (error : String)
  | releaseNotesFetched (count : Nat)
  | feedStatusRefused (status : Nat) (url : String)
  | feedFetchFailed (error url : String)
  | feedPayloadInvalid (error : String)
  | databaseUnhealthy (error : String)
  | cacheUnhealthy (error : String)
  | requestRefused (refusal : Refusal) (view : Option String)
  | requestInvalid (detail : Json) (status : Nat)
  | requestFailed (error : String)
  | viewEntered
  | requestServed (method path : String) (status : Nat) (user : Option Int)
  deriving Repr

namespace Event

/-- The name of an event. -/
def name : Event → String
  | .workspaceCreated .. => "workspace_created"
  | .userDataCreated .. => "user_data_created"
  | .recentApplicationRecorded .. => "recent_application_recorded"
  | .viewedVersionInitialised .. => "release_notes_version_initialised"
  | .applicationsListed .. => "homepage_applications_listed"
  | .noPagesForApplication .. => "homepage_no_pages_for_application"
  | .defaultPageNotFound .. => "homepage_default_page_not_found"
  | .pageVersionMissing .. => "homepage_page_version_missing"
  | .releaseNotesSkipped .. => "homepage_release_notes_skipped"
  | .releaseNotesFailed => "homepage_release_notes_failed"
  | .homepageBuilt .. => "homepage_built"
  | .cacheReadFailed .. => "release_notes_cache_read_failed"
  | .cacheEntryInvalid .. => "release_notes_cache_entry_invalid"
  | .cacheWriteFailed .. => "release_notes_cache_write_failed"
  | .releaseNotesFetched .. => "release_notes_fetched"
  | .feedStatusRefused .. => "release_notes_http_error"
  | .feedFetchFailed .. => "release_notes_fetch_failed"
  | .feedPayloadInvalid .. => "release_notes_payload_invalid"
  | .databaseUnhealthy .. => "health_check_db_failure"
  | .cacheUnhealthy .. => "health_check_cache_failure"
  | .requestRefused .. => "app_error"
  | .requestInvalid .. => "drf_error"
  | .requestFailed .. => "unhandled_exception"
  | .viewEntered => "inside_view"
  | .requestServed .. => "http_request"

/-- The level of an event. -/
def level : Event → Level
  | .applicationsListed .. => .debug
  | .workspaceCreated .. | .userDataCreated .. | .recentApplicationRecorded ..
  | .viewedVersionInitialised .. | .homepageBuilt .. | .releaseNotesFetched .. | .viewEntered
  | .requestServed .. => .info
  | .releaseNotesSkipped .. | .cacheReadFailed .. | .cacheEntryInvalid .. | .cacheWriteFailed ..
  | .feedStatusRefused .. | .feedFetchFailed .. | .feedPayloadInvalid .. | .requestRefused ..
  | .requestInvalid .. => .warning
  | .noPagesForApplication .. | .defaultPageNotFound .. | .pageVersionMissing ..
  | .releaseNotesFailed | .databaseUnhealthy .. | .cacheUnhealthy .. | .requestFailed .. => .error

/-- A count or an id as a value. -/
def nat (n : Nat) : Json := .int n

/-- The fields of an event. -/
def fields : Event → List (String × Json)
  | .workspaceCreated workspace name owner =>
    [("workspace_id", nat workspace), ("name", name), ("owner_id", nat owner)]
  | .userDataCreated user => [("user_id", nat user)]
  | .recentApplicationRecorded user application workspace =>
    [("user_id", nat user), ("application_id", application), ("workspace_id", nat workspace)]
  | .viewedVersionInitialised user version => [("user_id", nat user), ("version", .text version)]
  | .applicationsListed visible hidden =>
    [("visible", nat visible), ("hidden_branches", nat hidden)]
  | .noPagesForApplication application => [("application_id", nat application)]
  | .defaultPageNotFound application page =>
    [("application_id", nat application), ("page_id", page)]
  | .pageVersionMissing application page field =>
    [("application_id", nat application), ("page_id", page), ("field", .text field)]
  | .releaseNotesSkipped detail => [("detail", .text detail)]
  | .releaseNotesFailed => [("exc_info", .bool true)]
  | .homepageBuilt user workspaces applications =>
    [("user_id", nat user), ("workspaces", nat workspaces), ("applications", nat applications)]
  | .cacheReadFailed error | .cacheWriteFailed error | .feedPayloadInvalid error
  | .databaseUnhealthy error | .cacheUnhealthy error => [("error", .text error)]
  | .cacheEntryInvalid key =>
    [("key", .text key), ("error", .text Failure.notIterable.label)]
  | .releaseNotesFetched count => [("count", nat count)]
  | .feedStatusRefused status url => [("status_code", nat status), ("url", .text url)]
  | .feedFetchFailed error url => [("error", .text error), ("url", .text url)]
  | .requestRefused refusal view =>
    [("code", .text refusal.code), ("detail", .text refusal.detail),
      ("status_code", nat refusal.status), ("view", (view.map Json.text).getD .null)]
  | .requestInvalid detail status => [("detail", detail), ("status_code", nat status)]
  | .requestFailed error => [("exc_info", .text error)]
  | .viewEntered => []
  | .requestServed method path status user =>
    [("method", .text method), ("path", .text path), ("status", nat status),
      ("user_id", (user.map Json.int).getD .null)]

end Event

/-- Values that are bound to every entry of the log while they last. -/
abbrev Context := List (String × Json)

/-- An event and the context in which it happened. -/
structure LogEntry where
  event : Event
  context : Context
  deriving Repr

namespace LogEntry

/-- All fields of an entry. -/
def fields (e : LogEntry) : List (String × Json) :=
  e.context ++ e.event.fields ++
    [("event", .text e.event.name), ("level", .text e.event.level.label)]

end LogEntry

end WorkspaceHome
