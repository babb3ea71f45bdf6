import WorkspaceHome.Proofs.Operation.Platform
import WorkspaceHome.Proofs.ReleaseNotes.Newsroom

/-!
# The cache of the release notes cannot be told apart from the feed

A cache is honest if what it holds under the key of the release notes is what fetching them comes to
(`Cache.IsHonest`). With an honest cache, getting the release notes comes to what fetching comes to
(`Cache.IsHonest.outcome_nodesAt`). An empty cache is honest, and it stays so as long as only the
release notes themselves are written to it and the feed is asked the same and answers the same
(`isHonest_perform`). So in a whole run, whatever becomes of the clock, of the lifetime and of the
order of the cache, the release notes are those of a direct fetch (`releaseNotes_transparent`).
-/

namespace WorkspaceHome

open ReleaseNotes Service

/-! ### Honest caches -/

/-- What the cache holds under the key of the release notes is what fetching them from an address
comes to on a site. -/
def Cache.IsHonest (url : String) (origin : Site) (c : Cache) : Prop :=
  ∀ entry, c.find? (cacheKey origin.settings) = some entry →
    ∃ nodes, ((fetch url).exec origin).1 = .ok nodes ∧ entry.value = toCached nodes

variable {url : String} {origin s : Site}

theorem ReleaseNotes.cacheKey_eq (h : s.source = origin.source) :
    cacheKey s.settings = cacheKey origin.settings := by
  have hversion : s.settings.appVersion = origin.settings.appVersion :=
    congrArg (fun source => source.1) h
  have hinstance : s.settings.instanceId = origin.settings.instanceId :=
    congrArg (fun source => source.2.1) h
  unfold cacheKey
  rw [hversion, hinstance]

namespace Cache

/-- A cache that holds nothing under the key is honest. -/
theorem isHonest_of_none {c : Cache} (h : c.find? (cacheKey origin.settings) = none) :
    c.IsHonest url origin := by
  intro entry hentry
  rw [h] at hentry
  cases hentry

/-- Whether a cache is honest depends on its entries alone. -/
theorem IsHonest.of_entries {c c' : Cache} (hc : c.IsHonest url origin)
    (h : c'.entries = c.entries) : c'.IsHonest url origin := by
  intro entry hentry
  unfold find? at hentry
  rw [h] at hentry
  exact hc entry hentry

namespace IsHonest

/-- **With an honest cache**, getting the release notes comes to what fetching them comes to. -/
theorem outcome_nodesAt (hs : s.cache.IsHonest url origin) (hurl : url ≠ "")
    (hsource : s.source = origin.source) (hlibrary : s.settings.library = origin.settings.library) :
    ((nodesAt url).exec s).1 = ((fetch url).exec origin).1 := by
  rw [ReleaseNotes.outcome_nodesAt hurl, cacheKey_eq hsource]
  cases hcached : cached? s (cacheKey origin.settings) with
  | none => exact outcome_fetch_congr url hsource hlibrary
  | some nodes =>
    obtain ⟨-, entry, hentry, -, hvalue⟩ := cached?_eq_some_iff.mp hcached
    obtain ⟨fetched, hfetched, hkept⟩ := hs entry hentry
    rw [hkept, ofCached?_toCached] at hvalue
    obtain rfl : fetched = nodes := Option.some.inj hvalue
    rw [hfetched]

/-- Getting the release notes leaves an honest cache. -/
theorem exec_nodesAt (hs : s.cache.IsHonest url origin) (hurl : url ≠ "")
    (hsource : s.source = origin.source) (hlibrary : s.settings.library = origin.settings.library) :
    ((nodesAt url).exec s).2.cache.IsHonest url origin := by
  cases hcached : cached? s (cacheKey s.settings) with
  | some nodes =>
    obtain ⟨log, hexec⟩ := exec_nodesAt_of_cached hurl hcached
    rw [hexec]
    exact hs
  | none =>
    obtain ⟨log, hexec⟩ := exec_nodesAt_of_none hurl hcached
    have hfetch := outcome_fetch_congr url hsource hlibrary
    rw [hexec]
    unfold cacheAfter
    cases houtcome : ((fetch url).exec s).1 with
    | error e => exact hs
    | ok nodes =>
      rcases keeping_cases s nodes with hsame | ⟨expires, hfind⟩
      · exact hs.of_entries (congrArg entries hsame)
      · intro entry hentry
        rw [cacheKey_eq hsource] at hfind
        obtain rfl : ⟨toCached nodes, expires⟩ = entry :=
          Option.some.inj (hfind.symm.trans hentry)
        exact ⟨nodes, hfetch.symm.trans houtcome, rfl⟩

end IsHonest

end Cache

/-! ### One step -/

/-- An operation gets the release notes at an address, or happens around the service without writing
to the cache. -/
def Operation.LeavesCache (url : String) (s : Site) : Operation → Prop
  | .call (.releaseNotes given) => given.getD s.settings.releaseNotesUrl = url
  | .surroundings (.writeCache ..) => False
  | .surroundings _ => True
  | _ => False

/-- What happens around the service leaves the entries of the cache, unless it writes to it. -/
theorem entries_surroundings {operation : Surroundings}
    (h : (Operation.surroundings operation).LeavesCache url s) (t : Site) :
    (operation.perform.exec t).2.cache.entries = t.cache.entries := by
  refine Frame.keeps_surroundings (F := Frame.fixing fun s => s.cache.entries)
    (fun _ _ _ _ _ => rfl) operation (fun value lifetime hwrites => ?_) t
  subst hwrites
  exact h.elim

/-- **An honest cache stays honest** while the feed is asked the same and answers the same. -/
theorem isHonest_perform {operation : Operation} (hurl : url ≠ "")
    (hleaves : operation.LeavesCache url s) (hsource : s.source = origin.source)
    (hlibrary : s.settings.library = origin.settings.library)
    (hs : s.cache.IsHonest url origin) :
    (operation.perform s).2.cache.IsHonest url origin := by
  rw [perform_eq]
  -- only getting the release notes may write to the cache
  cases operation with
  | rows operation => exact hleaves.elim
  | request message caller => exact hleaves.elim
  | surroundings operation => exact hs.of_entries (entries_surroundings hleaves _)
  | call operation =>
    cases operation with
    | releaseNotes given =>
      dsimp only [Operation.act]
      rw [exec_releaseNotes]
      have hgiven : given.getD s.settings.releaseNotesUrl = url := hleaves
      rw [hgiven]
      exact Cache.IsHonest.exec_nodesAt (s := { s with log := [], requests := [] }) hs hurl hsource
        hlibrary
    | _ => exact hleaves.elim

/-- With an honest cache, a call for the release notes is answered as if there were no cache. -/
theorem outcome_releaseNotes {given : Option String} (hurl : url ≠ "")
    (hgiven : given.getD s.settings.releaseNotesUrl = url) (hsource : s.source = origin.source)
    (hlibrary : s.settings.library = origin.settings.library)
    (hs : s.cache.IsHonest url origin) :
    ((Operation.call (.releaseNotes given)).perform s).1.outcome =
      ((fetch url).exec origin).1.map fun nodes => Json.list (nodes.map Node.toJson) := by
  rw [perform_eq]
  dsimp only [Operation.act]
  rw [exec_releaseNotes]
  dsimp only
  rw [hgiven, Cache.IsHonest.outcome_nodesAt (s := { s with log := [], requests := [] }) hs hurl
    hsource hlibrary]

/-! ### A whole run -/

/-- Every call of a run that starts with an honest cache is answered as by a direct fetch. -/
theorem outcome_of_isHonest {operations : List Operation} {site : Site} (hurl : url ≠ "")
    (hhonest : site.cache.IsHonest url origin)
    (hlibrary : site.settings.library = origin.settings.library)
    (hleaves : ∀ step ∈ Operation.trace operations site,
      step.operation.LeavesCache url step.before)
    (hsource : ∀ step ∈ Operation.trace operations site, step.before.source = origin.source) :
    ∀ step ∈ Operation.trace operations site, ∀ given,
      step.operation = .call (.releaseNotes given) → step.report.outcome =
        ((fetch url).exec origin).1.map fun nodes => Json.list (nodes.map Node.toJson) := by
  -- by induction on the operations: each one leaves an honest cache to those that follow
  induction operations generalizing site with
  | nil => exact fun step hstep => absurd hstep List.not_mem_nil
  | cons operation rest ih =>
    rw [Operation.trace] at hleaves hsource ⊢
    obtain ⟨hleavesFirst, hleaves⟩ := List.forall_mem_cons.mp hleaves
    obtain ⟨hsourceFirst, hsource⟩ := List.forall_mem_cons.mp hsource
    dsimp only at hleavesFirst hsourceFirst
    refine List.forall_mem_cons.mpr ⟨?_, ?_⟩
    · rintro given rfl
      exact outcome_releaseNotes hurl hleavesFirst hsourceFirst hlibrary hhonest
    · have hsame := congrArg Prod.fst (platform_perform operation site)
      exact ih (isHonest_perform hurl hleavesFirst hsourceFirst hlibrary hhonest)
        (hsame.trans hlibrary) hleaves hsource

/-- **The cache is transparent**: in a run that starts without release notes in the cache, in which
the version, the installation and the feed stay as they are and nobody else writes to the cache,
every call for the release notes is answered as a direct fetch would answer it, be it with a list or
with a failure. Whatever nodes are kept are read back as they were. -/
theorem releaseNotes_transparent (operations : List Operation) (site : Site) {url : String}
    (hurl : url ≠ "") (hempty : site.cache.find? (cacheKey site.settings) = none)
    (hleaves : ∀ step ∈ Operation.trace operations site,
      step.operation.LeavesCache url step.before)
    (hsource : ∀ step ∈ Operation.trace operations site, step.before.source = site.source) :
    (∀ step ∈ Operation.trace operations site, ∀ given,
        step.operation = .call (.releaseNotes given) → step.report.outcome =
          ((fetch url).exec step.before).1.map fun nodes => Json.list (nodes.map Node.toJson)) ∧
      ∀ nodes, ofCached? (toCached nodes) = some nodes := by
  refine ⟨?_, ofCached?_toCached⟩
  intro step hstep given hcall
  rw [outcome_fetch_congr url (hsource step hstep) (library_of_mem_trace hstep)]
  exact outcome_of_isHonest hurl (Cache.isHonest_of_none hempty) rfl hleaves hsource step hstep
    given hcall

/-- Three calls for the release notes. Before the second one time passes; before the third one the
lifetime becomes negative, and the cache loses what is written. -/
def sampleReading : List Operation :=
  [.call (.releaseNotes (some "http://feed/")), .surroundings (.moveClock none 1000000),
    .call (.releaseNotes (some "http://feed/")),
    .surroundings (.changeSettings [("RELEASE_NOTES_CACHE_SECONDS", .int (-1))]),
    .surroundings (.changeCache .lossy), .call (.releaseNotes (some "http://feed/"))]

/-- A site whose feed lists one release, with a number for its tag. -/
def Site.announcing : Site where
  feed := .replies
    { body := "\x7b\"data\": \x7b\"nodes\": [\x7b\"tagName\": 7\x7d]\x7d\x7d".toUTF8.toList }

/-- The second call is answered from the cache, and as a direct fetch would answer it. -/
theorem releaseNotes_transparent_sample :
    (Operation.trace sampleReading .announcing).map (·.report.requests.length) =
        [1, 0, 0, 0, 0, 1] ∧
      (∀ step ∈ Operation.trace sampleReading .announcing, ∀ given,
        step.operation = .call (.releaseNotes given) → step.report.outcome =
          ((fetch "http://feed/").exec step.before).1.map fun nodes =>
            Json.list (nodes.map Node.toJson)) ∧
      ∀ nodes, ofCached? (toCached nodes) = some nodes := by
  refine ⟨by decide +kernel, releaseNotes_transparent sampleReading .announcing (by decide) rfl ?_
    (by decide +kernel)⟩
  intro step hstep
  rcases hstep with _ | ⟨_, _ | ⟨_, _ | ⟨_, _ | ⟨_, _ | ⟨_, _ | ⟨_, ⟨⟩⟩⟩⟩⟩⟩⟩
  · rfl
  · trivial
  · rfl
  · trivial
  · trivial
  · rfl

end WorkspaceHome
