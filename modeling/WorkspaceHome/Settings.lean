import WorkspaceHome.Timestamp
import WorkspaceHome.Url.Library

/-!
# Settings of a running service

The few values by which a running service can be tuned: its version and the id of its installation,
where its release notes are found and how long they are kept, and how long a recency list may grow.
Two more are fixed by what the service runs on: the library by which it reads addresses, and how far
it may nest its calls.
-/

namespace WorkspaceHome

/-- How long something lasts, in microseconds; without a number it lasts for ever. -/
abbrev Lifetime := Option Int

/-- A number of seconds. -/
def Lifetime.seconds (n : Int) : Lifetime := some (n * Timestamp.second)

/-- The values by which a running service is tuned. -/
structure Settings where
  /-- The version of the service. -/
  appVersion : String := "1.6.0"
  /-- The id of the installation. -/
  instanceId : String := "test-instance"
  /-- The address of the release notes; an empty one stands for none. -/
  releaseNotesUrl : String := ""
  /-- The greatest length of a recency list. -/
  recentLimit : Int := 5
  /-- How long fetched release notes are kept. -/
  releaseNotesLifetime : Lifetime := .seconds 3600
  /-- The library by which addresses are read. -/
  library : Url.Library := .standard
  /-- How many more calls may be open at once where release notes are copied to be kept. -/
  copyRoom : Nat := 963

end WorkspaceHome
