import WorkspaceHome.Json.Bytes
import WorkspaceHome.ReleaseNotes.Node
import WorkspaceHome.Site
import WorkspaceHome.Text.Quoted
import WorkspaceHome.Url.Basic

/-!
# Getting the release notes

The nodes of the feed are kept in the cache, under a key of the version and the installation for
which they were asked. They are fetched when the cache has none that can be read. If the feed sends
none, the release notes are unavailable. A fault that is not expected of a connection is passed on,
and so is an address that is not one: the one of the feed, or one to which the feed sends the client
and which does not fit its own. A cache out of order costs a fetch and is noted, and so does a node
that holds values nested too deep to be copied.
-/

namespace WorkspaceHome.ReleaseNotes

open Service

/-- The key under which the nodes for given settings are kept. -/
def cacheKey (s : Settings) : String :=
  "release_notes:nodes:" ++ s.appVersion ++ ":" ++ s.instanceId

/-- The query by which the feed is asked. -/
def feedQuery (s : Settings) : String :=
  let encoded (value : String) : String := String.ofList (Text.Percent.encodeForm value.toList)
  "instanceId=" ++ encoded s.instanceId ++ "&version=" ++ encoded s.appVersion

/-- The address that the feed is asked at. -/
def addressOf (url : String) (s : Settings) : Except Failure Url :=
  (s.library.read url >>= fun given => s.library.withQuery given (feedQuery s)).mapError
    Failure.invalidAddress

/-- The failure of a fetch whose cause has been noted. -/
def unavailable {α : Type} (event : Event) (detail : String) : Service α := do
  log event
  throw (.refuse .releaseNotesUnavailable detail)

/-- The failure of a feed that answers under a status of no success. -/
def refusedStatus {α : Type} (url : String) (status : Nat) : Service α :=
  unavailable (.feedStatusRefused status url)
    ("Release-notes feed answered " ++ toString status ++ ".")

/-- Works out where a reply sends the client, which does not go there. -/
def checkLocation (library : Url.Library) (url : String) (address : Url) (reply : Reply) :
    Service Unit :=
  match reply.location?.map library.read with
  | none => return ()
  | some (.error defect) =>
    let message := "Invalid URL in location header: " ++ defect.message ++ "."
    unavailable (.feedFetchFailed message url) message
  | some (.ok target) => do
    let _ ← settle ((library.follow address target).mapError Failure.invalidAddress)

/-- Asks the feed at an address. Only an absolute address can be the source of a reply. -/
def request (url : String) (address : Url) : Service Reply := do
  -- A request counts as sent even when it fails.
  modify fun s => { s with requests := s.requests ++ [address.write] }
  let s ← get
  match s.feed with
  | .fails fault =>
    if isExpected fault then unavailable (.feedFetchFailed fault.message url) fault.message
    else throw (.faulty fault)
  | .refuses status => refusedStatus url status
  | .replies reply =>
    if address.isAbsolute then
      checkLocation s.settings.library url address reply
      return reply
    else
      let message := "unknown url type: " ++ Text.quoted address.write
      unavailable (.feedFetchFailed message url) message

/-- Fetches the nodes from an address. -/
def fetch (url : String) : Service (List Node) := do
  let settings := (← get).settings
  let address ← settle (addressOf url settings)
  let reply ← request url address
  if !reply.isSuccess then refusedStatus url reply.status
  match Json.readBytes reply.body with
  | .error .tooDeep => throw .tooDeep
  | .error (.invalid message) => unavailable (.feedFetchFailed message url) message
  | .ok payload =>
    match nodesOfPayload payload with
    | .error e => unavailable (.feedPayloadInvalid e.label) "Unexpected release-notes payload."
    | .ok nodes => return nodes

/-- The nodes that the cache holds under a key. -/
def readCache (key : String) : Service (Option (List Node)) := do
  let s ← get
  match s.cache.get? s.clock key with
  | .error fault =>
    log (.cacheReadFailed fault.kind)
    return none
  | .ok none | .ok (some .null) => return none
  | .ok (some value) =>
    match ofCached? value with
    | some nodes => return some nodes
    | none =>
      log (.cacheEntryInvalid key)
      return none

/-- The fault of nodes that cannot be copied. -/
def tooDeepToCopy : Fault :=
  ⟨Failure.tooDeep.label, "maximum recursion depth exceeded while calling a Python object"⟩

/-- Whether there is room for the calls that are open at once while nodes are copied. -/
def canCopy (s : Settings) (nodes : List Node) : Bool := nodes.all (·.copyCalls ≤ s.copyRoom)

/-- The cache of a site with a copy of nodes put into it under a key. -/
def kept (s : Site) (key : String) (nodes : List Node) : Except Fault Cache :=
  if canCopy s.settings nodes then
    s.cache.put s.clock key (toCached nodes) s.settings.releaseNotesLifetime
  else .error tooDeepToCopy

/-- Puts nodes into the cache under a key. -/
def writeCache (key : String) (nodes : List Node) : Service Unit := do
  let s ← get
  match kept s key nodes with
  | .error fault => log (.cacheWriteFailed fault.kind)
  | .ok cache => set { s with cache }

/-- The release notes at an address; an empty address has none. -/
def nodesAt (url : String) : Service (List Node) := do
  if url = "" then return []
  let key := cacheKey (← get).settings
  match ← readCache key with
  | some nodes => return nodes
  | none =>
    let nodes ← fetch url
    writeCache key nodes
    log (.releaseNotesFetched nodes.length)
    return nodes

end WorkspaceHome.ReleaseNotes
