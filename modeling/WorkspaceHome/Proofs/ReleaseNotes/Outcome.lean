import Mathlib.Tactic.SplitIfs
import WorkspaceHome.Proofs.ReleaseNotes.Client

/-!
# What getting the release notes comes to

Fetching comes to a function of the address, the settings and the feed (`fetched`), asks the feed
once, and leaves nothing else but entries of the log (`exec_fetch`). Getting the release notes comes
to what the cache holds, if that can be read, and to what fetching comes to otherwise
(`outcome_nodesAt`); nodes that are kept are read back as they were (`ofCached?_toCached`).
-/

namespace WorkspaceHome

open Service

/-- What the answer of the feed depends on beside the library for addresses: the query by which it
is asked, and the feed itself. -/
def Site.source (s : Site) : String × String × ReleaseNotes.Feed :=
  (s.settings.appVersion, s.settings.instanceId, s.feed)

/-- Whether a cache can be read from. -/
def Cache.Mode.isReadable : Cache.Mode → Bool
  | .working | .failing false _ _ => true
  | _ => false

namespace ReleaseNotes

/-! ### Fetching -/

/-- The failure of release notes that cannot be had now. -/
abbrev missing (detail : String) : Failure := .refuse .releaseNotesUnavailable detail

/-- The failure of a feed that answers under a status of no success. -/
abbrev refusedUnder (status : Nat) : Failure :=
  missing ("Release-notes feed answered " ++ toString status ++ ".")

/-- What working out the address to which a reply sends the client comes to. -/
def located (library : Url.Library) (address : Url) (reply : Reply) : Except Failure Unit :=
  match reply.location?.map library.read with
  | none => .ok ()
  | some (.error defect) =>
    .error (missing ("Invalid URL in location header: " ++ defect.message ++ "."))
  | some (.ok target) =>
    ((library.follow address target).mapError Failure.invalidAddress).map fun _ => ()

/-- What asking a feed at an address comes to. -/
def replied (library : Url.Library) (address : Url) : Feed → Except Failure Reply
  | .fails fault => .error (if isExpected fault then missing fault.message else .faulty fault)
  | .refuses status => .error (refusedUnder status)
  | .replies reply =>
    if address.isAbsolute then (located library address reply).map fun _ => reply
    else .error (missing ("unknown url type: " ++ Text.quoted address.write))

/-- What reading the body of a reply comes to. -/
def decoded (body : List UInt8) : Except Failure (List Node) :=
  match Json.readBytes body with
  | .error .tooDeep => .error .tooDeep
  | .error (.invalid message) => .error (missing message)
  | .ok payload => (nodesOfPayload payload).mapError fun _ => missing
      "Unexpected release-notes payload."

/-- What fetching the release notes comes to. -/
def fetched (url : String) (settings : Settings) (feed : Feed) : Except Failure (List Node) := do
  let address ← addressOf url settings
  let reply ← replied settings.library address feed
  if reply.isSuccess then decoded reply.body else .error (refusedUnder reply.status)

/-- **What comes with success** is read. -/
theorem fetched_of_isSuccess {url : String} {settings : Settings} {address : Url} {reply : Reply}
    (haddress : addressOf url settings = .ok address) (habsolute : address.isAbsolute = true)
    (hsuccess : reply.isSuccess = true) :
    fetched url settings (.replies reply) = decoded reply.body := by
  have hlocated : located settings.library address reply = .ok () := by
    rw [located, Reply.location?_of_isSuccess hsuccess]
    rfl
  rw [fetched, haddress]
  dsimp only [bind, Except.bind, replied]
  rw [if_pos habsolute, hlocated]
  dsimp only [Except.map]
  rw [if_pos hsuccess]

theorem exec_unavailable {α : Type} (event : Event) (detail : String) (s : Site) :
    (unavailable event detail : Service α).exec s = (.error (missing detail), s.noting [event]) :=
  rfl

theorem exec_refusedStatus {α : Type} (url : String) (status : Nat) (s : Site) :
    (refusedStatus url status : Service α).exec s =
      (.error (refusedUnder status), s.noting [.feedStatusRefused status url]) :=
  exec_unavailable _ _ s

theorem exec_checkLocation (library : Url.Library) (url : String) (address : Url) (reply : Reply)
    (s : Site) : ∃ log, (checkLocation library url address reply).exec s =
      (located library address reply, { s with log }) := by
  unfold checkLocation located
  rcases reply.location?.map library.read with _ | (defect | target)
  · exact ⟨s.log, rfl⟩
  · exact ⟨_, exec_unavailable _ _ s⟩
  · dsimp only
    cases library.follow address target <;> exact ⟨s.log, rfl⟩

/-- **Asking a feed** sends one request. -/
theorem exec_request (url : String) (address : Url) (s : Site) :
    ∃ log, (request url address).exec s =
      (replied s.settings.library address s.feed,
        { s with log, requests := s.requests ++ [address.write] }) := by
  unfold request replied
  rw [exec_modify_bind, exec_get_bind]
  dsimp only
  cases hfeed : s.feed with
  | fails fault =>
    dsimp only
    split_ifs
    · exact ⟨_, exec_unavailable _ _ _⟩
    · exact ⟨s.log, rfl⟩
  | refuses status => exact ⟨_, exec_refusedStatus url status _⟩
  | replies reply =>
    dsimp only
    split_ifs
    · obtain ⟨log, hlocation⟩ := exec_checkLocation s.settings.library url address reply
        { s with feed := .replies reply, requests := s.requests ++ [address.write] }
      exact ⟨log, by rw [exec_bind_pure, hlocation]⟩
    · exact ⟨_, exec_unavailable _ _ _⟩

theorem exec_decode (url : String) (body : List UInt8) (s : Site) :
    ∃ log, (decode url body).exec s = (decoded body, { s with log }) := by
  unfold decode decoded
  rcases Json.readBytes body with (message | _) | payload
  · exact ⟨_, exec_unavailable _ _ s⟩
  · exact ⟨s.log, rfl⟩
  · dsimp only
    cases nodesOfPayload payload with
    | error e => exact ⟨_, exec_unavailable _ _ s⟩
    | ok nodes => exact ⟨s.log, rfl⟩

/-- **Fetching** comes to what the address, the settings and the feed make of it. It asks the feed
once, at its address, or for nothing if there is none, and changes nothing else. -/
theorem exec_fetch (url : String) (s : Site) :
    ∃ log, (fetch url).exec s = (fetched url s.settings s.feed,
      { s with
        log
        requests :=
          s.requests ++ ((addressOf url s.settings).toOption.map Url.write).toList }) := by
  unfold fetch fetched
  rw [exec_get_bind]
  dsimp only
  cases addressOf url s.settings with
  -- an address that cannot be read is not asked for
  | error e =>
    refine ⟨s.log, ?_⟩
    rw [exec_settle_error_bind, show (Except.error e : Except Failure Url).toOption = none from rfl,
      Option.map_none, Option.toList_none, List.append_nil]
    rfl
  | ok address =>
    obtain ⟨log, hasked⟩ := exec_request url address s
    rw [exec_settle_ok_bind]
    dsimp only [bind, Except.bind]
    cases hreplied : replied s.settings.library address s.feed with
    | error e =>
      rw [hreplied] at hasked
      exact ⟨log, exec_bind_error hasked _⟩
    | ok reply =>
      rw [hreplied] at hasked
      dsimp only
      refine Exists.imp (fun _ => (exec_bind_ok hasked _).trans) ?_
      -- only the body of a success is read
      cases reply.isSuccess with
      | true => exact exec_decode url reply.body _
      | false => exact ⟨_, exec_bind_error (exec_refusedStatus url reply.status _) _⟩

/-- What fetching comes to depends on the address, the settings and the feed alone. -/
theorem outcome_fetch (url : String) (s : Site) :
    ((fetch url).exec s).1 = fetched url s.settings s.feed := by
  obtain ⟨events, hfetch⟩ := exec_fetch url s
  rw [hfetch]

/-- **Of the settings**, fetching depends on the version, on the installation and on the library. -/
theorem outcome_fetch_congr (url : String) {s t : Site} (h : s.source = t.source)
    (hlibrary : s.settings.library = t.settings.library) :
    ((fetch url).exec s).1 = ((fetch url).exec t).1 := by
  obtain ⟨hversion, hinstance, hfeed⟩ : s.settings.appVersion = t.settings.appVersion ∧
      s.settings.instanceId = t.settings.instanceId ∧ s.feed = t.feed := by
    simpa only [Site.source, Prod.mk.injEq] using h
  rw [outcome_fetch, outcome_fetch, fetched, fetched, addressOf, addressOf, feedQuery, feedQuery,
    hversion, hinstance, hfeed, hlibrary]

/-! ### The cache -/

/-- **Nodes that are kept are read back** as they were, whatever values their fields have. -/
theorem ofCached?_toCached (nodes : List Node) : ofCached? (toCached nodes) = some nodes := by
  have hnode (n : Node) : Node.ofCached? n.toCached = some n := rfl
  show (nodes.map Node.toCached).mapM Node.ofCached? = some nodes
  induction nodes with
  | nil => rfl
  | cons n rest ih =>
    rw [List.map_cons, List.mapM_cons, hnode, ih]
    rfl

/-- The nodes that the cache of a site gives under a key. -/
def cached? (s : Site) (key : String) : Option (List Node) :=
  match s.cache.get? s.clock key with
  | .ok (some value) => ofCached? value
  | _ => none

theorem exec_readCache (key : String) (s : Site) :
    ∃ events, (readCache key).exec s = (.ok (cached? s key), s.noting events) := by
  unfold readCache cached?
  rw [exec_get_bind]
  rcases s.cache.get? s.clock key with fault | _ | value
  · exact ⟨[.cacheReadFailed fault.kind], rfl⟩
  · exact ⟨[], by simp⟩
  · by_cases hnull : value = .null
    · subst hnull
      exact ⟨[], by simp [ofCached?, Json.iterate?]⟩
    · cases hnodes : ofCached? value with
      | some nodes => exact ⟨[], by simp [hnodes]⟩
      | none =>
        refine ⟨[.cacheEntryInvalid key], ?_⟩
        simp only [hnodes]
        rfl

/-- **What the cache gives** is there under its key, has not expired and stands for nodes. -/
theorem cached?_eq_some_iff {s : Site} {key : String} {nodes : List Node} :
    cached? s key = some nodes ↔ s.cache.mode.isReadable = true ∧ ∃ entry,
      s.cache.find? key = some entry ∧ entry.isLive s.clock = true ∧
        ofCached? entry.value = some nodes := by
  have hread : ∀ read : Except Fault (Option Json),
      read = .ok (((s.cache.find? key).filter (·.isLive s.clock)).map (·.value)) →
      ((match read with
        | .ok (some value) => ofCached? value
        | _ => none) = some nodes ↔ ∃ entry, s.cache.find? key = some entry ∧
          entry.isLive s.clock = true ∧ ofCached? entry.value = some nodes) := by
    rintro _ rfl
    cases s.cache.find? key with
    | none => simp
    | some entry => cases hentry : entry.isLive s.clock <;> simp [Option.filter, hentry]
  unfold cached? Cache.get? Cache.Mode.isReadable
  cases s.cache.mode with
  | working => simpa only [true_and] using hread _ rfl
  | lossy => simp
  | failing reads writes message =>
    cases reads with
    | false => simpa only [true_and] using hread _ rfl
    | true => simp

section put

variable {c c' : Cache} {now : Timestamp} {key : String} {value : Json} {lifetime : Lifetime}

/-- What is put into a cache takes the place of what was under its key. -/
theorem eq_of_put (h : c.put now key value lifetime = .ok c') :
    c' = { c with
      entries := (key, ⟨value, lifetime.map now.later⟩) ::
        c.entries.filter fun kept => kept.1 != key } := by
  unfold Cache.put at h
  split at h <;> cases h
  rfl

theorem find?_put (h : c.put now key value lifetime = .ok c') :
    c'.find? key = some ⟨value, lifetime.map now.later⟩ := by
  rw [eq_of_put h]
  simp [Cache.find?]

theorem mode_put (h : c.put now key value lifetime = .ok c') : c'.mode = c.mode := by
  rw [eq_of_put h]

end put

/-- What the cache holds once nodes have been put into it, if that works. -/
def keeping (s : Site) (nodes : List Node) : Cache :=
  match kept s (cacheKey s.settings) nodes with
  | .error _ => s.cache
  | .ok cache => cache

theorem put_of_kept {s : Site} {key : String} {nodes : List Node} {cache : Cache}
    (h : kept s key nodes = .ok cache) :
    s.cache.put s.clock key (toCached nodes) s.settings.releaseNotesLifetime = .ok cache := by
  unfold kept at h
  split_ifs at h
  exact h

/-- Nodes that can be copied can be put into a cache that works. -/
theorem put_eq_ok_keeping {s : Site} (hmode : s.cache.mode = .working) {nodes : List Node}
    (hcopy : canCopy s.settings nodes = true) :
    s.cache.put s.clock (cacheKey s.settings) (toCached nodes) s.settings.releaseNotesLifetime =
      .ok (keeping s nodes) := by
  unfold keeping kept
  rw [if_pos hcopy, Cache.put, hmode]

/-- **Nodes that cannot be copied** are not kept. -/
theorem kept_of_not_canCopy {s : Site} {nodes : List Node}
    (hcopy : canCopy s.settings nodes = false) (key : String) :
    kept s key nodes = .error tooDeepToCopy := by
  unfold kept
  rw [hcopy, if_neg Bool.false_ne_true]

theorem keeping_of_not_canCopy {s : Site} {nodes : List Node}
    (hcopy : canCopy s.settings nodes = false) : keeping s nodes = s.cache := by
  unfold keeping
  rw [kept_of_not_canCopy hcopy]

/-- What is noted where nodes are put into the cache. -/
def keepingNotes (s : Site) (nodes : List Node) : List Event :=
  match kept s (cacheKey s.settings) nodes with
  | .error fault => [.cacheWriteFailed fault.kind]
  | .ok _ => []

theorem keepingNotes_of_not_canCopy {s : Site} {nodes : List Node}
    (hcopy : canCopy s.settings nodes = false) :
    keepingNotes s nodes = [.cacheWriteFailed tooDeepToCopy.kind] := by
  unfold keepingNotes
  rw [kept_of_not_canCopy hcopy]

/-- What is put into the cache leaves it as it was, or is found in it under the key. -/
theorem keeping_cases (s : Site) (nodes : List Node) :
    keeping s nodes = s.cache ∨ ∃ expires,
      (keeping s nodes).find? (cacheKey s.settings) = some ⟨toCached nodes, expires⟩ := by
  unfold keeping
  cases hkept : kept s (cacheKey s.settings) nodes with
  | error fault => exact Or.inl rfl
  | ok cache => exact Or.inr ⟨_, find?_put (put_of_kept hkept)⟩

/-- What the cache holds once the release notes have been fetched, or could not be. -/
def cacheAfter (url : String) (s : Site) : Cache :=
  match ((fetch url).exec s).1 with
  | .error _ => s.cache
  | .ok nodes => keeping s nodes

/-! ### The whole -/

/-- Release notes that the cache holds are not asked for. -/
theorem exec_nodesAt_of_cached {url : String} (hurl : url ≠ "") {s : Site} {nodes : List Node}
    (h : cached? s (cacheKey s.settings) = some nodes) :
    ∃ log, (nodesAt url).exec s = (.ok nodes, { s with log }) := by
  obtain ⟨events, hread⟩ := exec_readCache (cacheKey s.settings) s
  unfold nodesAt
  rw [if_neg hurl, exec_get_bind]
  dsimp only
  rw [exec_bind_ok hread, h]
  exact ⟨_, rfl⟩

/-- Where the cache is read and the feed is asked after, nothing changes but the log and the
requests. -/
theorem exec_fetch_of_read (url : String) (s : Site) (read : List Event) :
    ∃ log, (fetch url).exec (s.noting read) = (((fetch url).exec s).1,
      { s with
        log
        requests :=
          s.requests ++ ((addressOf url s.settings).toOption.map Url.write).toList }) := by
  rw [outcome_fetch]
  exact exec_fetch url (s.noting read)

/-- **Release notes that are fetched** are put into the cache, and it is noted that they came. -/
theorem exec_nodesAt_of_fetched {url : String} (hurl : url ≠ "") {s : Site}
    (h : cached? s (cacheKey s.settings) = none) {nodes : List Node}
    (hfetch : ((fetch url).exec s).1 = .ok nodes) :
    ∃ log, (nodesAt url).exec s = (.ok nodes, Site.noting
      { s with
        log
        requests := s.requests ++ ((addressOf url s.settings).toOption.map Url.write).toList
        cache := keeping s nodes }
      (keepingNotes s nodes ++ [.releaseNotesFetched nodes.length])) := by
  obtain ⟨read, hread⟩ := exec_readCache (cacheKey s.settings) s
  obtain ⟨log, hfetched⟩ := exec_fetch_of_read url s read
  rw [hfetch] at hfetched
  refine ⟨log, ?_⟩
  unfold nodesAt
  rw [if_neg hurl, exec_get_bind]
  dsimp only
  rw [exec_bind_ok hread, h]
  dsimp only
  rw [exec_bind_ok hfetched, exec_bind_ok (exec_writeCache _ _ _), exec_log_bind, exec_pure]
  -- what is kept depends on neither the log nor the requests
  rw [show kept { s with log, requests := _ } (cacheKey s.settings) nodes = kept s _ nodes from rfl]
  unfold keeping keepingNotes
  cases kept s (cacheKey s.settings) nodes with
  | error fault => simp [Site.noting]
  | ok cache => simp [Site.noting]

/-- Release notes that the cache does not hold are fetched and put into it. -/
theorem exec_nodesAt_of_none {url : String} (hurl : url ≠ "") {s : Site}
    (h : cached? s (cacheKey s.settings) = none) :
    ∃ log, (nodesAt url).exec s = (((fetch url).exec s).1,
      { s with
        log
        requests := s.requests ++ ((addressOf url s.settings).toOption.map Url.write).toList
        cache := cacheAfter url s }) := by
  unfold cacheAfter
  cases hfetch : ((fetch url).exec s).1 with
  | ok nodes =>
    obtain ⟨log, hnodes⟩ := exec_nodesAt_of_fetched hurl h hfetch
    exact ⟨_, hnodes⟩
  | error e =>
    obtain ⟨read, hread⟩ := exec_readCache (cacheKey s.settings) s
    obtain ⟨log, hfetched⟩ := exec_fetch_of_read url s read
    rw [hfetch] at hfetched
    refine ⟨log, ?_⟩
    unfold nodesAt
    rw [if_neg hurl, exec_get_bind]
    dsimp only
    rw [exec_bind_ok hread, h]
    exact exec_bind_error hfetched _

/-- Getting the release notes changes no more than the log, the requests and the cache. -/
theorem changes_nodesAt (url : String) (s : Site) :
    ∃ log requests cache, ((nodesAt url).exec s).2 = { s with log, requests, cache } := by
  by_cases hurl : url = ""
  · subst hurl
    exact ⟨s.log, s.requests, s.cache, rfl⟩
  · cases h : cached? s (cacheKey s.settings) with
    | some nodes =>
      obtain ⟨log, hexec⟩ := exec_nodesAt_of_cached hurl h
      exact ⟨log, s.requests, s.cache, by rw [hexec]⟩
    | none =>
      obtain ⟨log, hexec⟩ := exec_nodesAt_of_none hurl h
      exact ⟨log, _, _, by rw [hexec]⟩

/-- **Getting the release notes** comes to what the cache holds, and else to what fetching comes
to. -/
theorem outcome_nodesAt {url : String} (hurl : url ≠ "") (s : Site) :
    ((nodesAt url).exec s).1 = match cached? s (cacheKey s.settings) with
      | some nodes => .ok nodes
      | none => ((fetch url).exec s).1 := by
  cases h : cached? s (cacheKey s.settings) with
  | some nodes =>
    obtain ⟨log, hexec⟩ := exec_nodesAt_of_cached hurl h
    rw [hexec]
  | none =>
    obtain ⟨log, hexec⟩ := exec_nodesAt_of_none hurl h
    rw [hexec]

end ReleaseNotes

end WorkspaceHome
