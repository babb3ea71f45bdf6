import WorkspaceHome.Proofs.ReleaseNotes.Failures
import WorkspaceHome.Proofs.ReleaseNotes.Freshness
import WorkspaceHome.Proofs.ReleaseNotes.Query

/-!
# For which version the release notes were fetched

Whatever the cache holds has been fetched by some step of the run, with settings of the same key
(`Cache.IsSupplied`, `isSupplied_perform`). So every list of release notes was got by a request for
a version and an installation that have the key of those in force. They are the ones in force if and
only if both versions hold equally many colons (`releaseNotes_served`); with a colon in a version,
release notes of another version are served (`releaseNotes_mistaken`).
-/

namespace WorkspaceHome

open ReleaseNotes Service

/-- A step has got nodes from the feed: it has asked it once, at an address with the query of its
settings, and this has come to the nodes. -/
structure Step.Fetches (step : Step) (address : Url) (nodes : List Node) : Prop where
  asked : step.report.requests = [address.write]
  query : address.query = some (feedQuery step.before.settings)
  fetched : ∃ url, step.operation.newsAddress? step.before = some url ∧
    ((fetch url).exec step.before).1 = .ok nodes

/-- Nodes come from one of some steps, whose settings have the same key. -/
def ComeFrom (steps : List Step) (settings : Settings) (nodes : List Node) : Prop :=
  ∃ source ∈ steps, ∃ address, source.Fetches address nodes ∧
    cacheKey source.before.settings = cacheKey settings

/-- Whatever a cache holds under the key of some settings comes from one of some steps. -/
def Cache.IsSupplied (steps : List Step) (c : Cache) : Prop :=
  ∀ settings entry, c.find? (cacheKey settings) = some entry →
    ∃ nodes, ComeFrom steps settings nodes ∧ entry.value = toCached nodes

variable {steps : List Step} {operation : Operation} {s : Site} {url : String}
  {settings : Settings} {nodes : List Node}

theorem ComeFrom.append (h : ComeFrom steps settings nodes) (later : List Step) :
    ComeFrom (steps ++ later) settings nodes := by
  obtain ⟨source, hsource, hrest⟩ := h
  exact ⟨source, List.mem_append_left _ hsource, hrest⟩

namespace Cache.IsSupplied

/-- What is supplied by some steps is supplied by these and later ones. -/
theorem append {c : Cache} (h : c.IsSupplied steps) (later : List Step) :
    c.IsSupplied (steps ++ later) := by
  intro settings entry hentry
  obtain ⟨nodes, hnodes, hvalue⟩ := h settings entry hentry
  exact ⟨nodes, hnodes.append later, hvalue⟩

/-- What the cache gives comes from one of the steps. -/
theorem cached? (h : s.cache.IsSupplied steps)
    (hcached : ReleaseNotes.cached? s (cacheKey settings) = some nodes) :
    ComeFrom steps settings nodes := by
  obtain ⟨-, entry, hentry, -, hvalue⟩ := cached?_eq_some_iff.mp hcached
  obtain ⟨kept, hkept, hentryValue⟩ := h settings entry hentry
  rw [hentryValue, ofCached?_toCached] at hvalue
  rwa [← Option.some.inj hvalue]

end Cache.IsSupplied

/-! ### One step -/

/-- The step that an operation is on a site. -/
def Operation.stepOn (operation : Operation) (s : Site) : Step :=
  ⟨s, operation, (operation.perform s).1⟩

/-- An operation that finds no release notes in the cache and gets some fetches them. -/
theorem fetches_of_not_cached (hurl : url ≠ "") (hget : operation.newsAddress? s = some url)
    (hcached : cached? s (cacheKey s.settings) = none)
    (hfetch : ((fetch url).exec s).1 = .ok nodes) :
    (∃ address, (operation.stepOn s).Fetches address nodes) ∧
      (operation.perform s).2.cache = keeping s nodes := by
  have hfetched := hfetch
  rw [outcome_fetch] at hfetched
  obtain ⟨address, haddress, -⟩ := bind_eq_ok_iff.mp hfetched
  obtain ⟨hrequests, hcache, -⟩ := perform_of_not_cached hurl hget hcached
  rw [haddress] at hrequests
  rw [cacheAfter, hfetch] at hcache
  exact ⟨⟨address, hrequests, query_of_addressOf haddress, url, hget, hfetch⟩, hcache⟩

/-- An operation that finds no release notes in the cache and gets none leaves the cache. -/
theorem cache_of_not_fetched (hurl : url ≠ "") (hget : operation.newsAddress? s = some url)
    (hcached : cached? s (cacheKey s.settings) = none) {e : Failure}
    (hfetch : ((fetch url).exec s).1 = .error e) : (operation.perform s).2.cache = s.cache := by
  rw [(perform_of_not_cached hurl hget hcached).2.1, cacheAfter, hfetch]

/-- Nodes that are put into a supplied cache after they were fetched keep it supplied. -/
theorem isSupplied_keeping (h : s.cache.IsSupplied steps)
    (hnodes : ComeFrom steps s.settings nodes) : (keeping s nodes).IsSupplied steps := by
  unfold keeping
  cases hkept : kept s (cacheKey s.settings) nodes with
  | error fault => exact h
  | ok cache =>
    have hput := put_of_kept hkept
    intro settings entry hentry
    by_cases hkey : cacheKey settings = cacheKey s.settings
    · rw [hkey, find?_put hput] at hentry
      obtain ⟨source, hsource, address, hfetches, hsame⟩ := hnodes
      exact ⟨nodes, ⟨source, hsource, address, hfetches, hsame.trans hkey.symm⟩,
        congrArg Cache.Entry.value (Option.some.inj hentry).symm⟩
    · rw [Cache.find?_put_of_ne hkey hput] at hentry
      exact h settings entry hentry

/-- **A supplied cache stays supplied**, whatever operation is performed, unless somebody else
writes to the cache. -/
theorem isSupplied_perform (hwrites : operation.writesCache = false)
    (h : s.cache.IsSupplied steps) :
    (operation.perform s).2.cache.IsSupplied (steps ++ [operation.stepOn s]) := by
  have hsame (hcache : (operation.perform s).2.cache = s.cache) :
      (operation.perform s).2.cache.IsSupplied (steps ++ [operation.stepOn s]) :=
    hcache ▸ h.append _
  -- what a step leaves in the cache was there before, or it has just been fetched
  cases hget : operation.newsAddress? s with
  | none =>
    intro settings entry hentry
    rw [(perform_of_no_news hget hwrites settings).2] at hentry
    exact h.append _ settings entry hentry
  | some url =>
    by_cases hurl : url = ""
    · subst hurl
      exact hsame (Site.newsroom_eq_iff.mp (perform_of_news hget).1).1
    · cases hcached : cached? s (cacheKey s.settings) with
      | some nodes => exact hsame (perform_of_cached hurl hget hcached).2.1
      | none =>
        cases hfetch : ((fetch url).exec s).1 with
        | error e => exact hsame (cache_of_not_fetched hurl hget hcached hfetch)
        | ok nodes =>
          obtain ⟨⟨address, hfetches⟩, hcache⟩ := fetches_of_not_cached hurl hget hcached hfetch
          rw [hcache]
          exact isSupplied_keeping (h.append _)
            ⟨_, List.mem_append_right _ List.mem_cons_self, address, hfetches, rfl⟩

/-- What a step gets, with a supplied cache, comes from the steps that supply it or from itself. -/
theorem comeFrom_of_supplied {step : Step} (hsupplied : step.before.cache.IsSupplied steps)
    (hreport : step.report = (step.operation.perform step.before).1) (hurl : url ≠ "")
    (hget : step.operation.newsAddress? step.before = some url)
    (hnodes : ((nodesAt url).exec step.before).1 = .ok nodes) :
    ComeFrom (steps ++ [step]) step.before.settings nodes := by
  rw [outcome_nodesAt hurl] at hnodes
  cases hcached : cached? step.before (cacheKey step.before.settings) with
  | some kept =>
    rw [hcached] at hnodes
    obtain rfl : kept = nodes := Except.ok.inj hnodes
    exact (hsupplied.cached? hcached).append _
  | none =>
    rw [hcached] at hnodes
    obtain ⟨⟨address, hfetches⟩, -⟩ := fetches_of_not_cached hurl hget hcached hnodes
    have hstep : step.operation.stepOn step.before = step := by
      rw [Operation.stepOn, ← hreport]
    rw [hstep] at hfetches
    exact ⟨step, List.mem_append_right _ List.mem_cons_self, address, hfetches, rfl⟩

/-! ### A whole run -/

section run

variable {operations : List Operation} {site : Site}

/-- **Over a whole run** the cache is supplied by the steps before. -/
theorem isSupplied_of_trace (hwrites : ∀ operation ∈ operations, operation.writesCache = false)
    (h : site.cache.IsSupplied steps) :
    ∀ earlier step later, Operation.trace operations site = earlier ++ step :: later →
      step.before.cache.IsSupplied (steps ++ earlier) := by
  -- by induction on the operations: the first one joins the steps that supply the others
  induction operations generalizing site steps with
  | nil =>
    intro earlier step later hsplit
    exact absurd hsplit.symm (List.append_ne_nil_of_right_ne_nil _ (List.cons_ne_nil _ _))
  | cons operation rest ih =>
    intro earlier step later hsplit
    obtain ⟨hfirst, hrest⟩ := List.forall_mem_cons.mp hwrites
    rw [Operation.trace] at hsplit
    cases earlier with
    | nil =>
      obtain ⟨rfl, -⟩ := List.cons.inj hsplit
      rw [List.append_nil]
      exact h
    | cons first earlier =>
      obtain ⟨rfl, hlater⟩ := List.cons.inj hsplit
      have hsupplied := ih hrest (isSupplied_perform hfirst h) earlier step later hlater
      rwa [List.append_assoc] at hsupplied

/-- **For which version release notes are served**: in a run that starts with an empty cache to
which nobody else writes, whatever becomes of the settings, the clock, the cache and the feed, a
step that gets a list of release notes at an address has one that this or an earlier step has got by
one request. The version and the installation of this request have the key of those in force, and
the request tells the ones in force if and only if the two versions hold equally many colons.
Without an address there are none. -/
theorem releaseNotes_served (operations : List Operation) (site : Site)
    (hempty : site.cache.entries = [])
    (hwrites : ∀ operation ∈ operations, operation.writesCache = false) :
    ∀ earlier step later, Operation.trace operations site = earlier ++ step :: later →
      ∀ url nodes, step.operation.newsAddress? step.before = some url →
        ((nodesAt url).exec step.before).1 = .ok nodes →
          step.operation.Tells step.before (.ok nodes) step.report.outcome ∧
            if url = "" then nodes = [] else
              ∃ source ∈ earlier ++ [step], ∃ address, source.Fetches address nodes ∧
                cacheKey source.before.settings = cacheKey step.before.settings ∧
                (address.query = some (feedQuery step.before.settings) ↔
                  colons source.before.settings.appVersion =
                    colons step.before.settings.appVersion) := by
  intro earlier step later hsplit url nodes hget hnodes
  have hreport := Operation.report_of_mem_trace (mem_of_trace_eq hsplit)
  constructor
  · have htells := (perform_of_news hget).2
    rwa [hnodes, ← hreport] at htells
  split_ifs with hurl
  · subst hurl
    exact (Except.ok.inj hnodes).symm
  -- an empty cache is supplied, and each step leaves a supplied one
  · have hstart : site.cache.IsSupplied [] := by
      intro settings entry hentry
      rw [Cache.find?, hempty] at hentry
      cases hentry
    have hsupplied := isSupplied_of_trace hwrites hstart earlier step later hsplit
    have hcome := comeFrom_of_supplied hsupplied hreport hurl hget hnodes
    obtain ⟨source, hsource, address, hfetches, hkey⟩ := hcome
    refine ⟨source, hsource, address, hfetches, hkey, ?_⟩
    -- one key leaves open only where the version ends, and this is told by its colons
    rw [hfetches.query, Option.some.injEq, feedQuery_eq_iff, pair_eq_iff hkey]

end run

/-- Release notes are got for a version and an installation; then a colon passes from the one to the
other, and they are got again. -/
def sampleShift : List Operation :=
  [.call (.releaseNotes none),
    .surroundings (.changeSettings [("APP_VERSION", .text "1.6.0"), ("INSTANCE_ID", .text "a:b")]),
    .call (.releaseNotes none)]

/-- The site of this run. -/
def sampleShiftSite : Site :=
  { Http.siteWithTag "\"v1\"" with
    settings := { releaseNotesUrl := "http://feed/", appVersion := "1.6.0:a", instanceId := "b" } }

/-- Release notes are got twice, the second time from the cache. -/
def sampleAgain : List Operation :=
  [.call (.releaseNotes none), .call (.releaseNotes none)]

theorem releaseNotes_served_sample :
    ∃ first second nodes, Operation.trace sampleAgain sampleShiftSite = [first, second] ∧
      second.report.requests = [] ∧ ((nodesAt "http://feed/").exec second.before).1 = .ok nodes ∧
        ∃ source ∈ [first, second], ∃ address, source.Fetches address nodes ∧
          address.query = some (feedQuery second.before.settings) := by
  obtain ⟨first, second, hsplit⟩ : ∃ first second,
      Operation.trace sampleAgain sampleShiftSite = [first] ++ second :: [] := ⟨_, _, rfl⟩
  have hversion : ∀ step ∈ Operation.trace sampleAgain sampleShiftSite,
      step.before.settings.appVersion = "1.6.0:a" := by decide +kernel
  have hget : ∀ step ∈ Operation.trace sampleAgain sampleShiftSite,
      step.operation.newsAddress? step.before = some "http://feed/" := by decide +kernel
  have hgot : ∀ step ∈ Operation.trace sampleAgain sampleShiftSite,
      ((nodesAt "http://feed/").exec step.before).1.isOk = true := by decide +kernel
  have hrequests : (Operation.trace sampleAgain sampleShiftSite)[1]?.map (·.report.requests) =
      some [] := by decide +kernel
  rw [hsplit] at hversion hget hgot hrequests
  obtain ⟨nodes, hnodes⟩ := isOk_iff.mp (hgot second (by simp))
  obtain ⟨-, hserved⟩ := releaseNotes_served sampleAgain sampleShiftSite rfl (by decide) [first]
    second [] hsplit "http://feed/" nodes (hget second (by simp)) hnodes
  rw [if_neg (by decide)] at hserved
  obtain ⟨source, hsource, address, hfetches, -, hquery⟩ := hserved
  refine ⟨first, second, nodes, hsplit, Option.some.inj hrequests, hnodes, source, hsource, address,
    hfetches, hquery.mpr ?_⟩
  rw [hversion source hsource, hversion second (by simp)]

/-- **Release notes of another version are served**: the second call gets the list that was fetched
for version 1.6.0:a and installation b, without asking the feed for version 1.6.0 and installation
a:b. -/
theorem releaseNotes_mistaken :
    (Operation.trace sampleShift sampleShiftSite).map (fun step =>
        (step.before.settings.appVersion, step.before.settings.instanceId, step.report.requests)) =
      [("1.6.0:a", "b", ["http://feed/?instanceId=b&version=1.6.0%3Aa"]), ("1.6.0:a", "b", []),
        ("1.6.0", "a:b", [])] ∧
      ∀ step, (Operation.trace sampleShift sampleShiftSite)[2]? = some step →
        step.report.outcome.toOption.map Json.write = some ("[\x7b\"tag_name\": \"v1\", " ++
          "\"name\": \"\", \"url\": \"\", \"published_at\": null\x7d]") := by
  refine ⟨by decide +kernel, ?_⟩
  rintro step ⟨⟩
  decide +kernel

end WorkspaceHome
