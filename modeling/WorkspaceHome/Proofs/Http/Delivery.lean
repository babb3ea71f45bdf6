import WorkspaceHome.Proofs.Http.Homepage
import WorkspaceHome.Proofs.Http.Sendable

/-!
# Delivery of the homepage

Whatever the feed does, a request for the homepage is answered, and the answer is the homepage
unless a release in it cannot be sent: a field of it is a torn text. Then the request fails with
nothing to show, although the release notes alone are at fault (`homepage_delivered`), and so does
every request that is served from what the first one has left in the cache.
-/

namespace WorkspaceHome

open Http Service

/-! ### The homepage of a user -/

/-- A homepage for a store of the right shape, with its release notes. -/
theorem Homepage.outcome_build_of_wellShaped {s : Site} {u : User}
    {recentWorkspaces recentApplications : List Json}
    (h : s.store.WellShaped u.id recentWorkspaces recentApplications) (url : Option String) :
    ((build (.user u) url).exec s).1 = .ok (assembled u (s.store.dataOf? u.id)
      (arranged s.store u.id recentWorkspaces recentApplications)
      (releasesFrom (url.getD s.settings.releaseNotesUrl) s)) := by
  obtain ⟨homepage, t, hbuild, -, -⟩ := build_ok s h url
  have houtcome := (outcome_build u url s).1
  rw [shownTo_ok h] at houtcome
  cases hviewed : ((Remembrance.ensureViewed (.user u)).exec s).1 with
  | error e =>
    rw [hviewed, hbuild] at houtcome
    cases houtcome
  | ok viewed =>
    rw [hviewed] at houtcome
    exact houtcome

/-- A user asks for the homepage, and what is stored for the user is of the right shape and has no
torn texts. -/
structure Http.Request.IsHomepageOf (r : Request) (site : Site) (u : User) : Prop
    extends r.IsForHomepage where
  viewer : r.viewer = .user u
  shape : ∃ recentWorkspaces recentApplications,
    site.store.WellShaped u.id recentWorkspaces recentApplications
  texts : site.store.HasWholeTexts u.id

/-- A site without a feed. -/
def Site.withoutFeed (s : Site) : Site :=
  { s with settings := { s.settings with releaseNotesUrl := "" } }

/-- The release notes that a homepage shows on a site. -/
def Site.releases (s : Site) : List ReleaseNotes.Node :=
  Homepage.releasesFrom s.settings.releaseNotesUrl s

namespace Http

/-- A member of the body of a response. -/
def Response.member? (r : Response) (key : String) : Option Json :=
  match r.body with
  | some (.object members) => Json.lookup key members
  | _ => none

/-- A request for the homepage is answered as it is with some release notes: the answer is the
homepage if these can be sent, and shows the same of the user and of the workspaces as without a
feed; otherwise the request fails. -/
def IsAnswered (r : Request) (site : Site) (releases : List ReleaseNotes.Node) : Prop :=
  ∃ response plain, ((serve r).exec site).1 = .ok response ∧
    ((serve r).exec site.withoutFeed).1 = .ok plain ∧ plain.status = 200 ∧
    (response.status = 200 ↔ ∀ n ∈ releases, n.isWhole = true) ∧
    (response.status = 200 → ∀ key ∈ ["user", "workspace_applications"],
      ∃ v, plain.member? key = some v ∧ response.member? key = some v) ∧
    (response.status ≠ 200 → response.status = 500 ∧ response.failure = some .unsendable)

variable {r : Request} {site : Site} {u : User}

/-- The response to a request for the homepage: the homepage as it is sent, or the failure to send
it. -/
theorem outcome_homepage (h : r.IsHomepageOf site u) :
    ∃ (homepage : Homepage) (id : String), ((serve r).exec site).1 =
        .ok { respond "GET" 200 (some homepage.payload) with requestId := some id } ∧
      homepage.user = u ∧ (Homepage.shownTo site.store u.id).1 = .ok homepage.groups ∧
      (∀ g ∈ homepage.groups, g.payload.IsSendable) ∧ homepage.releases = site.releases := by
  obtain ⟨recentWorkspaces, recentApplications, hshape⟩ := h.shape
  obtain ⟨id, hid⟩ := sent_ok h.id
  have hserve := outcome_serve_homepage h.reaches h.viewer hid
    (Homepage.outcome_build_of_wellShaped hshape none)
  rw [h.method] at hserve
  exact ⟨_, id, hserve, rfl, Homepage.shownTo_ok hshape,
    Homepage.isSendable_arranged hshape h.texts, rfl⟩

theorem respond_of_sendable {v : Json} (h : v.IsSendable) (status : ℕ) :
    respond "GET" status (some v) = { status, body := some v } := by
  unfold respond
  exact if_pos h

theorem respond_of_not_sendable {v : Json} (h : ¬ v.IsSendable) (method : String) (status : ℕ) :
    respond method status (some v) = failed .unsendable := by
  unfold respond
  exact if_neg h

theorem isAnswered (h : r.IsHomepageOf site u) : IsAnswered r site site.releases := by
  have hplain : r.IsHomepageOf site.withoutFeed u := ⟨h.toIsForHomepage, h.viewer, h.shape, h.texts⟩
  obtain ⟨homepage, id, hserve, huser, hshown, hgroups, hreleases⟩ := outcome_homepage h
  obtain ⟨plain, id', hserve', huser', hshown', hgroups', hreleases'⟩ := outcome_homepage hplain
  have hsame : plain.groups = homepage.groups := Except.ok.inj (hshown'.symm.trans hshown)
  have hsendable' : plain.payload.IsSendable := by
    rw [Homepage.isSendable_payload_iff hgroups', hreleases']
    exact fun n hn => absurd hn List.not_mem_nil
  rw [respond_of_sendable hsendable'] at hserve'
  refine ⟨_, _, hserve, hserve', rfl, ?_⟩
  rw [← hreleases, ← Homepage.isSendable_payload_iff hgroups]
  by_cases hsendable : homepage.payload.IsSendable
  · rw [respond_of_sendable hsendable]
    refine ⟨iff_of_true rfl hsendable, fun _ key hkey => ?_, fun h => absurd rfl h⟩
    rcases hkey with _ | ⟨_, _ | ⟨_, ⟨⟩⟩⟩
    · rw [← huser] at huser'
      exact ⟨homepage.user.payload,
        congrArg (fun u : User => some u.payload) huser', rfl⟩
    · exact ⟨.list (homepage.groups.map WorkspaceGroup.payload),
        congrArg (fun groups : List WorkspaceGroup =>
          some (Json.list (groups.map WorkspaceGroup.payload))) hsame, rfl⟩
  · rw [respond_of_not_sendable hsendable]
    have hfailed : ¬ (500 : ℕ) = 200 := by decide
    exact ⟨iff_of_false hfailed hsendable, fun h => absurd h hfailed, fun _ => ⟨rfl, rfl⟩⟩

end Http

/-! ### What a request leaves in the cache -/

namespace ReleaseNotes

/-- What a cache gives at a moment it gives at any moment before. -/
theorem cached?_of_le {s t : Site} {key : String} {nodes : List Node} (hcache : t.cache = s.cache)
    (hclock : s.clock.micros ≤ t.clock.micros) (h : cached? t key = some nodes) :
    cached? s key = some nodes := by
  obtain ⟨hmode, entry, hentry, hlive, hvalue⟩ := cached?_eq_some_iff.mp h
  rw [hcache] at hmode hentry
  refine cached?_eq_some_iff.mpr ⟨hmode, entry, hentry, ?_, hvalue⟩
  unfold Cache.Entry.isLive at hlive ⊢
  cases hexpires : entry.expires with
  | none => rfl
  | some expires =>
    rw [hexpires] at hlive
    exact decide_eq_true (lt_of_le_of_lt hclock (of_decide_eq_true hlive))

/-- **What is left in the cache is what was had**: nodes that the cache gives after getting the
release notes are those that were got. -/
theorem outcome_of_cached_after {url : String} (hurl : url ≠ "") {s t : Site} {nodes : List Node}
    (hcache : t.cache = ((nodesAt url).exec s).2.cache)
    (hclock : s.clock.micros ≤ t.clock.micros)
    (h : cached? t (cacheKey s.settings) = some nodes) : ((nodesAt url).exec s).1 = .ok nodes := by
  cases hcached : cached? s (cacheKey s.settings) with
  -- what was kept before is kept still, unless its time is over
  | some kept =>
    obtain ⟨log, hexec⟩ := exec_nodesAt_of_cached hurl hcached
    rw [hexec] at hcache ⊢
    dsimp only at hcache ⊢
    rw [cached?_of_le hcache hclock h] at hcached
    rw [Option.some.inj hcached]
  | none =>
    obtain ⟨log, hexec⟩ := exec_nodesAt_of_none hurl hcached
    rw [hexec] at hcache ⊢
    dsimp only at hcache ⊢
    -- a cache that is as it was gives nothing now, as it gave nothing then
    have hunchanged : t.cache ≠ s.cache := by
      intro hsame
      rw [cached?_of_le hsame hclock h] at hcached
      cases hcached
    unfold cacheAfter at hcache
    cases hfetch : ((fetch url).exec s).1 with
    | error e =>
      rw [hfetch] at hcache
      exact absurd hcache hunchanged
    -- what was written just now is what has been fetched, and reads back as such
    | ok fetched =>
      rw [hfetch] at hcache
      rcases keeping_cases s fetched with hsame | ⟨expires, hfind⟩
      · exact absurd (hcache.trans hsame) hunchanged
      · obtain ⟨-, entry, hentry, -, hvalue⟩ := cached?_eq_some_iff.mp h
        rw [hcache, hfind] at hentry
        cases hentry
        rw [ofCached?_toCached] at hvalue
        rw [Option.some.inj hvalue]

end ReleaseNotes

open ReleaseNotes

/-- A site whose homepages show the release notes that a request has left in the cache: it has the
cache as the request left it, at no earlier moment, and finds nodes in it under the same key. -/
structure Site.IsServedFrom (later site : Site) (r : Request) : Prop where
  cache : later.cache = ((serve r).exec site).2.cache
  clock : site.clock.micros ≤ later.clock.micros
  key : cacheKey later.settings = cacheKey site.settings
  url : later.settings.releaseNotesUrl ≠ ""
  found : (cached? later (cacheKey later.settings)).isSome = true

namespace Http

variable {r : Request} {site later : Site} {u : User}

/-- What a request leaves in the cache is what it has shown. -/
theorem releases_eq_of_isServedFrom (h : r.IsHomepageOf site u)
    (hurl : site.settings.releaseNotesUrl ≠ "") (hlater : later.IsServedFrom site r) :
    later.releases = site.releases := by
  obtain ⟨recentWorkspaces, recentApplications, hshape⟩ := h.shape
  have hnewsroom := newsroom_serve_homepage h.reaches h.viewer site
  rw [Homepage.shownTo_ok hshape] at hnewsroom
  have hcache := hlater.cache.trans (Site.newsroom_eq_iff.mp hnewsroom).1
  obtain ⟨nodes, hfound⟩ := Option.isSome_iff_exists.mp hlater.found
  have hlaterNodes := outcome_nodesAt hlater.url later
  rw [hfound] at hlaterNodes
  rw [hlater.key] at hfound
  have hnodes := outcome_of_cached_after hurl hcache hlater.clock hfound
  unfold Site.releases Homepage.releasesFrom
  rw [hlaterNodes, hnodes]

/-- **Delivery of the homepage**: whatever the feed does and whatever the cache holds, the homepage
of a user is answered with status 200, and shows the same of the user and of the workspaces as
without a feed, if and only if no field of a release is a torn text; otherwise the request fails.
What it leaves in the cache decides in the same way on every later request that is served from
it. -/
theorem homepage_delivered (h : r.IsHomepageOf site u) :
    IsAnswered r site site.releases ∧
      (site.settings.releaseNotesUrl ≠ "" → ∀ later r' u', later.IsServedFrom site r →
        Request.IsHomepageOf r' later u' → IsAnswered r' later site.releases) := by
  refine ⟨isAnswered h, fun hurl later r' u' hlater h' => ?_⟩
  rw [← releases_eq_of_isServedFrom h hurl hlater]
  exact isAnswered h'

/-- The user of a site with nobody else, and a request of this user for the homepage. -/
def sampleUser : User := { id := 1, username := "ada" }
def sampleRequest : Request :=
  { target := "/api/v1/applications/home/", viewer := .user sampleUser }

/-- A site with one user, whose feed lists one release. The tag of the release is what a JSON text
gives. -/
def siteWithTag (tag : String) : Site where
  store := { users := Table.empty.insert sampleUser rfl }
  settings := { releaseNotesUrl := "http://feed/" }
  feed := .replies
    { body :=
        ("\x7b\"data\": \x7b\"nodes\": [\x7b\"tagName\": " ++ tag ++
          "\x7d]\x7d\x7d").toUTF8.toList }

theorem sampleRequest_isHomepageOf {site : Site}
    (hstore : site.store = { users := Table.empty.insert sampleUser rfl }) :
    sampleRequest.IsHomepageOf site sampleUser where
  reaches := by decide +kernel
  method := by decide +kernel
  id := by decide +kernel
  viewer := rfl
  shape := by
    rw [hstore]
    exact ⟨[], [],
      { workspaceList := rfl
        applicationList := rfl
        workspaceIds := fun _ h => absurd h List.not_mem_nil
        applicationIds := fun _ h => absurd h List.not_mem_nil
        metadata := fun _ h => absurd h List.not_mem_nil
        pages := fun _ h => absurd h List.not_mem_nil
        publishedPages := fun _ h => absurd h List.not_mem_nil }⟩
  texts := by
    rw [hstore]
    exact fun _ h => absurd h List.not_mem_nil

theorem homepage_delivered_sample :
    sampleRequest.IsHomepageOf (siteWithTag "\"v1\"") sampleUser ∧
      IsAnswered sampleRequest (siteWithTag "\"v1\"") (siteWithTag "\"v1\"").releases ∧
      ∃ later : Site, later.IsServedFrom (siteWithTag "\"v1\"") sampleRequest ∧
        IsAnswered sampleRequest later (siteWithTag "\"v1\"").releases := by
  have h : sampleRequest.IsHomepageOf (siteWithTag "\"v1\"") sampleUser :=
    sampleRequest_isHomepageOf rfl
  have hdelivered := homepage_delivered h
  have hserved : Site.IsServedFrom
      { siteWithTag "\"v1\"" with
        cache := ((serve sampleRequest).exec (siteWithTag "\"v1\"")).2.cache }
      (siteWithTag "\"v1\"") sampleRequest :=
    ⟨rfl, le_refl _, rfl, by decide, by decide +kernel⟩
  exact ⟨h, hdelivered.1, _, hserved,
    hdelivered.2 (by decide) _ _ _ hserved (sampleRequest_isHomepageOf rfl)⟩

/-- **A torn text in the feed fails the homepage**: with a tag that is half of a surrogate pair, the
request fails that is answered without a feed, and so does the next one, served from the cache when
the feed is gone. -/
theorem homepage_torn :
    sampleRequest.IsHomepageOf (siteWithTag "\"\\ud800\"") sampleUser ∧
      ((serve sampleRequest).exec (siteWithTag "\"\\ud800\"")).1.toOption.map (·.status) =
        some 500 ∧
      ((serve sampleRequest).exec (siteWithTag "\"\\ud800\"").withoutFeed).1.toOption.map
        (·.status) = some 200 ∧
      ((serve sampleRequest).exec
        { ((serve sampleRequest).exec (siteWithTag "\"\\ud800\"")).2 with
          feed := .unconfigured }).1.toOption.map (·.status) = some 500 :=
  ⟨sampleRequest_isHomepageOf rfl, by decide +kernel, by decide +kernel, by decide +kernel⟩

end Http

end WorkspaceHome
