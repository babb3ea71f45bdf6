import WorkspaceHome.Proofs.Fallible
import WorkspaceHome.Proofs.ReleaseNotes.Outcome

/-!
# How getting the release notes fails

With a feed that keeps to HTTP, getting the release notes gives a list or fails because they are
unavailable, but for two ways out: an address that is not one, be it the address of the feed or the
one to which its reply sends the client, and a body that is nested too deep (`nodesAt_failures`).
Both are found in what fetching comes to (`fetched_eq_error`). What is an address is up to the
library by which addresses are read, whichever that is.
-/

namespace WorkspaceHome.ReleaseNotes

open Service

/-- A feed keeps to HTTP: it replies, with whatever status, headers and body, or fails in a way that
is known of a connection, be it for the status of a reply. -/
def Feed.KeepsToHttp : Feed → Prop
  | .replies _ | .refuses _ => True
  | .fails fault => fault.kind ∈ connectionFaults

/-- A reply sends the client to an address that cannot be used with the one that was asked. -/
def Misdirects (library : Url.Library) (address : Url) (reply : Reply) (defect : Url.Defect) :
    Prop :=
  ∃ location target, reply.location? = some location ∧ library.read location = .ok target ∧
    library.follow address target = .error defect

/-- The client is led to an address that is not one: by the address of the feed, or by a reply. -/
inductive LedAstray (url : String) (s : Site) : Url.Defect → Prop
  | atFirst {defect} (haddress : addressOf url s.settings = .error (.invalidAddress defect)) :
    LedAstray url s defect
  | onward {address reply defect} (haddress : addressOf url s.settings = .ok address)
    (habsolute : address.isAbsolute = true) (hfeed : s.feed = .replies reply)
    (hreply : Misdirects s.settings.library address reply defect) : LedAstray url s defect

/-- A feed replies with success and with a body that is nested too deep. -/
def RepliesTooDeep (url : String) (s : Site) : Prop :=
  ∃ address reply, addressOf url s.settings = .ok address ∧ address.isAbsolute = true ∧
    s.feed = .replies reply ∧ reply.isSuccess = true ∧ Json.readBytes reply.body = .error .tooDeep

/-! ### The ways out -/

section

variable {url : String} {s : Site} {library : Url.Library} {address : Url} {reply : Reply}
  {f : Failure}

theorem located_eq_error (h : located library address reply = .error f) :
    (∃ detail, f = missing detail) ∨
      ∃ defect, f = .invalidAddress defect ∧ Misdirects library address reply defect := by
  unfold located at h
  cases hlocation : reply.location? with
  | none =>
    rw [hlocation] at h
    cases h
  | some location =>
    rw [hlocation] at h
    cases htarget : library.read location with
    | error defect =>
      simp only [Option.map_some, htarget] at h
      exact Or.inl ⟨_, (Except.error.inj h).symm⟩
    | ok target =>
      simp only [Option.map_some, htarget] at h
      cases hfollow : library.follow address target with
      | ok next =>
        rw [hfollow] at h
        cases h
      | error defect =>
        rw [hfollow] at h
        exact Or.inr ⟨defect, (Except.error.inj h).symm, location, target, hlocation, htarget,
          hfollow⟩

theorem Misdirects.located {defect : Url.Defect} (h : Misdirects library address reply defect) :
    located library address reply = .error (.invalidAddress defect) := by
  obtain ⟨location, target, hlocation, htarget, hfollow⟩ := h
  unfold ReleaseNotes.located
  rw [hlocation, Option.map_some, htarget]
  dsimp only
  rw [hfollow]
  rfl

theorem replied_eq_error {feed : Feed} (hfeed : feed.KeepsToHttp)
    (h : replied library address feed = .error f) :
    (∃ detail, f = missing detail) ∨ ∃ reply defect, f = .invalidAddress defect ∧
      feed = .replies reply ∧ address.isAbsolute = true ∧
        Misdirects library address reply defect := by
  -- only a reply that redirects can lead astray
  cases feed with
  | fails fault =>
    have hexpected : isExpected fault = true :=
      Bool.or_eq_true_iff.mpr (Or.inl (List.contains_iff_mem.mpr hfeed))
    rw [replied, if_pos hexpected] at h
    exact Or.inl ⟨_, (Except.error.inj h).symm⟩
  | refuses status => exact Or.inl ⟨_, (Except.error.inj h).symm⟩
  | replies reply =>
    unfold replied at h
    dsimp only at h
    split_ifs at h with habsolute
    · cases hlocated : located library address reply with
      | ok u =>
        rw [hlocated] at h
        cases h
      | error g =>
        rw [hlocated] at h
        obtain rfl : g = f := Except.error.inj h
        rcases located_eq_error hlocated with hmissing | ⟨defect, rfl, hreply⟩
        · exact Or.inl hmissing
        · exact Or.inr ⟨reply, defect, rfl, rfl, habsolute, hreply⟩
    · exact Or.inl ⟨_, (Except.error.inj h).symm⟩

theorem replied_eq_ok {feed : Feed} (h : replied library address feed = .ok reply) :
    feed = .replies reply ∧ address.isAbsolute = true := by
  cases feed with
  | fails fault => cases h
  | refuses status => cases h
  | replies sent =>
    unfold replied at h
    dsimp only at h
    split_ifs at h with habsolute
    obtain ⟨-, -, rfl⟩ := map_eq_ok_iff.mp h
    exact ⟨rfl, habsolute⟩

theorem decoded_eq_error {body : List UInt8} (h : decoded body = .error f) :
    (∃ detail, f = missing detail) ∨ f = .tooDeep ∧ Json.readBytes body = .error .tooDeep := by
  unfold decoded at h
  rcases hread : Json.readBytes body with (message | _) | payload <;> rw [hread] at h
  · exact Or.inl ⟨_, (Except.error.inj h).symm⟩
  · exact Or.inr ⟨(Except.error.inj h).symm, rfl⟩
  · dsimp only at h
    cases hnodes : nodesOfPayload payload with
    | ok nodes =>
      rw [hnodes] at h
      cases h
    | error e =>
      rw [hnodes] at h
      exact Or.inl ⟨_, (Except.error.inj h).symm⟩

theorem addressOf_eq_error (h : addressOf url s.settings = .error f) :
    ∃ defect, f = .invalidAddress defect := by
  unfold addressOf at h
  cases hread : s.settings.library.read url >>= fun given =>
      s.settings.library.withQuery given (feedQuery s.settings) with
  | ok address =>
    rw [hread] at h
    cases h
  | error defect =>
    rw [hread] at h
    exact ⟨defect, (Except.error.inj h).symm⟩

/-- Fetching from a feed that keeps to HTTP fails because the release notes are unavailable, or by
one of the two ways out. -/
theorem fetched_eq_error (hfeed : s.feed.KeepsToHttp)
    (h : fetched url s.settings s.feed = .error f) :
    (∃ detail, f = missing detail) ∨
      (∃ defect, f = .invalidAddress defect ∧ LedAstray url s defect) ∨
      f = .tooDeep ∧ RepliesTooDeep url s := by
  rcases bind_eq_error_iff.mp h with haddress | ⟨address, haddress, h⟩
  · obtain ⟨defect, rfl⟩ := addressOf_eq_error haddress
    exact Or.inr (Or.inl ⟨defect, rfl, .atFirst haddress⟩)
  · rcases bind_eq_error_iff.mp h with hreplied | ⟨reply, hreplied, h⟩
    · rcases replied_eq_error hfeed hreplied with
        hmissing | ⟨reply, defect, rfl, hreply, habsolute, hmisdirects⟩
      · exact Or.inl hmissing
      · exact Or.inr (Or.inl ⟨defect, rfl, .onward haddress habsolute hreply hmisdirects⟩)
    · obtain ⟨hreply, habsolute⟩ := replied_eq_ok hreplied
      split_ifs at h with hsuccess
      · rcases decoded_eq_error h with hmissing | ⟨rfl, hdeep⟩
        · exact Or.inl hmissing
        · exact Or.inr (Or.inr
            ⟨rfl, address, reply, haddress, habsolute, hreply, hsuccess, hdeep⟩)
      · exact Or.inl ⟨_, (Except.error.inj h).symm⟩

theorem LedAstray.fetched {defect : Url.Defect} (h : LedAstray url s defect) :
    fetched url s.settings s.feed = .error (.invalidAddress defect) := by
  unfold ReleaseNotes.fetched
  cases h with
  | atFirst haddress =>
    rw [haddress]
    rfl
  | onward haddress habsolute hfeed hreply =>
    rw [haddress, hfeed]
    dsimp only [bind, Except.bind, replied]
    rw [if_pos habsolute, hreply.located]
    rfl

theorem RepliesTooDeep.fetched (h : RepliesTooDeep url s) :
    fetched url s.settings s.feed = .error .tooDeep := by
  obtain ⟨address, reply, haddress, habsolute, hfeed, hsuccess, hread⟩ := h
  rw [hfeed, fetched_of_isSuccess haddress habsolute hsuccess, decoded, hread]

end

/-- **How getting the release notes fails**, whatever the address, the settings, the library for
addresses and the cache are: with a feed that keeps to HTTP, it gives a list or fails because the
release notes are unavailable, exactly if it does not take one of two ways out. It takes them only
when it has to fetch: an address that is not one is passed on if the address of the feed is none, or
if a reply sends the client to one that cannot be used, and a body that is nested too deep is passed
on as such. -/
theorem nodesAt_failures (url : String) (s : Site) (hfeed : s.feed.KeepsToHttp) :
    let outcome := ((nodesAt url).exec s).1
    let fetches := url ≠ "" ∧ cached? s (cacheKey s.settings) = none
    (((∃ nodes, outcome = .ok nodes) ∨
        ∃ detail, outcome = .error (.refuse .releaseNotesUnavailable detail)) ↔
      ¬ (fetches ∧ ((∃ defect, LedAstray url s defect) ∨ RepliesTooDeep url s))) ∧
    (∀ defect, outcome = .error (.invalidAddress defect) ↔ fetches ∧ LedAstray url s defect) ∧
    (outcome = .error .tooDeep ↔ fetches ∧ RepliesTooDeep url s) := by
  dsimp only
  by_cases hfetches : url ≠ "" ∧ cached? s (cacheKey s.settings) = none
  -- what is fetched decides, since the cache has nothing and its failures are swallowed
  · have houtcome : ((nodesAt url).exec s).1 = fetched url s.settings s.feed := by
      rw [outcome_nodesAt hfetches.1, hfetches.2, ← outcome_fetch]
    rw [houtcome]
    refine ⟨⟨?_, fun h => ?_⟩, fun defect => ⟨fun h => ⟨hfetches, ?_⟩, fun h => h.2.fetched⟩,
      fun h => ⟨hfetches, ?_⟩, fun h => h.2.fetched⟩
    -- neither way out ends with a list or with the one refusal
    · rintro hgood ⟨-, ⟨defect, hastray⟩ | hdeep⟩
      · rw [hastray.fetched] at hgood
        rcases hgood with ⟨_, ⟨⟩⟩ | ⟨_, ⟨⟩⟩
      · rw [hdeep.fetched] at hgood
        rcases hgood with ⟨_, ⟨⟩⟩ | ⟨_, ⟨⟩⟩
    -- a feed that keeps to HTTP knows no other failure than the refusal and the two ways out
    · cases hfetched : fetched url s.settings s.feed with
      | ok nodes => exact Or.inl ⟨nodes, rfl⟩
      | error f =>
        rcases fetched_eq_error hfeed hfetched with ⟨detail, rfl⟩ | ⟨defect, -, hastray⟩ |
          ⟨-, hdeep⟩
        · exact Or.inr ⟨detail, rfl⟩
        · exact absurd ⟨hfetches, Or.inl ⟨defect, hastray⟩⟩ h
        · exact absurd ⟨hfetches, Or.inr hdeep⟩ h
    · rcases fetched_eq_error hfeed h with ⟨detail, ⟨⟩⟩ | ⟨defect', heq, hastray⟩ | ⟨⟨⟩, -⟩
      obtain rfl : defect = defect' := Failure.invalidAddress.inj heq
      exact hastray
    · rcases fetched_eq_error hfeed h with ⟨detail, ⟨⟩⟩ | ⟨defect, ⟨⟩, -⟩ | ⟨-, hdeep⟩
      exact hdeep
  -- without fetching, the result is an empty list or what the cache holds
  · have hok : ∃ nodes, ((nodesAt url).exec s).1 = .ok nodes := by
      by_cases hurl : url = ""
      · subst hurl
        exact ⟨[], rfl⟩
      · cases hcached : cached? s (cacheKey s.settings) with
        | none => exact absurd ⟨hurl, hcached⟩ hfetches
        | some nodes => exact ⟨nodes, by rw [outcome_nodesAt hurl, hcached]⟩
    obtain ⟨nodes, hok⟩ := hok
    rw [hok]
    simp [hfetches]

theorem nodesAt_failures_sample :
    (default : Feed).KeepsToHttp ∧
      ((nodesAt "http://feed/").exec { feed := default }).1 ≠ .error .tooDeep ∧
      ((nodesAt "http://feed:x/").exec { feed := default }).1 =
        .error (.invalidAddress (.notPort "x")) := by
  have hfeed : (default : Feed).KeepsToHttp := (by decide : "ConnectError" ∈ connectionFaults)
  have hport : LedAstray "http://feed:x/" { feed := default } (.notPort "x") :=
    .atFirst (by decide +kernel)
  refine ⟨hfeed, fun hdeep => ?_, ?_⟩
  · obtain ⟨-, _, _, -, -, ⟨⟩, -⟩ := (nodesAt_failures "http://feed/" _ hfeed).2.2.mp hdeep
  · exact ((nodesAt_failures "http://feed:x/" _ hfeed).2.1 _).mpr ⟨⟨by decide, rfl⟩, hport⟩

/-- A feed that sends its client to an address without a host. -/
def siteElsewhere : Site where
  feed := .replies { status := 302, headers := [("Location", "mailto:ops")] }

/-- **A wrong address is not reported as missing release notes**: neither that of the feed, here one
whose port is no number, nor one to which the feed sends the client. -/
theorem nodesAt_misaddressed :
    ((nodesAt "http://feed:x/").exec siteElsewhere).1 = .error (.invalidAddress (.notPort "x")) ∧
      ((nodesAt "http://feed/").exec siteElsewhere).1 =
        .error (.invalidAddress .pathWithoutSlash) := by
  have hport : LedAstray "http://feed:x/" siteElsewhere (.notPort "x") :=
    .atFirst (by decide +kernel)
  -- at the host of the feed, the address would lack a slash in front of its path
  have hpath : LedAstray "http://feed/" siteElsewhere .pathWithoutSlash := by
    have haddress : addressOf "http://feed/" siteElsewhere.settings =
        .ok ⟨"http", "", "feed", none, "/", some "instanceId=test-instance&version=1.6.0",
          none⟩ := by
      decide +kernel
    have htarget : Url.read "mailto:ops" = .ok ⟨"mailto", "", "", none, "ops", none, none⟩ := by
      decide +kernel
    exact .onward haddress (by decide) rfl ⟨_, _, by decide +kernel, htarget, by decide +kernel⟩
  constructor
  · rw [outcome_nodesAt (by decide), show cached? siteElsewhere _ = none from rfl, outcome_fetch]
    exact hport.fetched
  · rw [outcome_nodesAt (by decide), show cached? siteElsewhere _ = none from rfl, outcome_fetch]
    exact hpath.fetched

end WorkspaceHome.ReleaseNotes
