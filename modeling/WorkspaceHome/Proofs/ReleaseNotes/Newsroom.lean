import WorkspaceHome.Proofs.Frame.Writing
import WorkspaceHome.Proofs.Homepage.Unaffected
import WorkspaceHome.Proofs.ReleaseNotes.Outcome

/-!
# The newsroom of a site

The newsroom of a site is all of it that getting the release notes has to do with: the cache, the
time, the settings, the feed, and the addresses that the feed was asked for. Getting the release
notes sees no more than that (`seesOnly_nodesAt`). A homepage whose workspaces can be shown leaves
the newsroom as getting the release notes leaves it (`newsroom_build`); any other leaves it alone.
-/

namespace WorkspaceHome

open Service

/-- What getting the release notes has to do with. -/
def Site.newsroom (s : Site) : Cache × Timestamp × Settings × ReleaseNotes.Feed × List String :=
  (s.cache, s.clock, s.settings, s.feed, s.requests)

theorem Site.newsroom_eq_iff {s t : Site} :
    s.newsroom = t.newsroom ↔ s.cache = t.cache ∧ s.clock = t.clock ∧ s.settings = t.settings ∧
      s.feed = t.feed ∧ s.requests = t.requests := by
  simp [newsroom]

namespace ReleaseNotes

/-- The newsroom shows all that the gathering of news depends on. -/
theorem tracks_newsroom : Tracks Site.newsroom where
  look {s t} h := by
    obtain ⟨hcache, hclock, hsettings, hfeed, -⟩ := Site.newsroom_eq_iff.mp h
    refine ⟨t.store, t.log, t.context, t.requests, ?_⟩
    rw [hcache, hclock, hsettings, hfeed]
  log _ h := h
  ask address h := by
    obtain ⟨hcache, hclock, hsettings, hfeed, hrequests⟩ := Site.newsroom_eq_iff.mp h
    exact Site.newsroom_eq_iff.mpr
      ⟨hcache, hclock, hsettings, hfeed, congrArg (· ++ [address]) hrequests⟩
  keep _ h := by
    obtain ⟨-, hrest⟩ := Site.newsroom_eq_iff.mp h
    exact Site.newsroom_eq_iff.mpr ⟨rfl, hrest⟩

/-- **Getting the release notes** sees and changes no more than the newsroom. -/
theorem seesOnly_nodesAt (url : String) : SeesOnly Site.newsroom (nodesAt url) :=
  (gathers_nodesAt url).seesOnly tracks_newsroom

/-- A call for the release notes gets them. -/
theorem exec_releaseNotes (given : Option String) (s : Site) :
    (ServiceCall.releaseNotes given).perform.exec s =
      ((((nodesAt (given.getD s.settings.releaseNotesUrl)).exec s).1.map fun nodes =>
          Json.list (nodes.map Node.toJson)),
        ((nodesAt (given.getD s.settings.releaseNotesUrl)).exec s).2) := by
  unfold ServiceCall.perform
  rw [exec_get_bind, exec_bind_pure]

end ReleaseNotes

/-! ### Homepages -/

namespace Homepage

/-- For a viewer who is no user there is no homepage. -/
theorem exec_build_of_no_user {viewer : Viewer} (h : ∀ u, viewer ≠ .user u) (url : Option String)
    (s : Site) : (build viewer url).exec s = (.error .notSignedIn, s) := by
  cases viewer with
  | user u => exact absurd rfl (h u)
  | nobody => rfl
  | anonymous => rfl

/-- A homepage whose workspaces can be shown leaves what getting the release notes leaves, but for
what is written and noted afterwards. -/
theorem build_follows {F : Frame} (hF : F.Mild)
    (hviewed : ∀ viewer, F.Keeps (Remembrance.ensureViewed viewer)) (u : User)
    (url : Option String) {s : Site} {groups : List WorkspaceGroup} {noted : List Event}
    (h : shownTo s.store u.id = (.ok groups, noted)) :
    F.rel ((ReleaseNotes.nodesAt (url.getD s.settings.releaseNotesUrl)).exec (s.noting noted)).2
      ((build (.user u) url).exec s).2 := by
  rw [exec_build, h]
  have hfinish : F.Follows (ReleaseNotes.nodesAt (url.getD s.settings.releaseNotesUrl))
      (finish u url (s.store.dataOf? u.id) groups) (s.noting noted) := by
    unfold finish Frame.Follows
    rw [exec_get_bind]
    exact (releasesAt_follows hF _ _).bind fun releases => (hviewed _).bind fun _ =>
      (hF.log (by rfl)).bind fun _ => Frame.keeps_pure _
  exact hfinish

theorem fixing_newsroom_mild : (Frame.fixing Site.newsroom).Mild :=
  Frame.fixing_mild fun _ _ _ _ => rfl

theorem fixing_newsroom_writable : (Frame.fixing Site.newsroom).Writable :=
  Frame.fixing_writable fun _ _ _ _ => rfl

/-- **What a homepage does to the newsroom**: what getting the release notes does, if its workspaces
can be shown, and nothing otherwise. -/
theorem newsroom_build (u : User) (url : Option String) (s : Site) :
    ((build (.user u) url).exec s).2.newsroom =
      match (shownTo s.store u.id).1 with
      | .ok _ =>
        ((ReleaseNotes.nodesAt (url.getD s.settings.releaseNotesUrl)).exec s).2.newsroom
      | .error _ => s.newsroom := by
  rcases h : shownTo s.store u.id with ⟨e | groups, noted⟩
  · rw [exec_build, h]
    rfl
  · have hfollows :=
      build_follows fixing_newsroom_mild fixing_newsroom_writable.ensureViewed u url h
    have hnoted := (ReleaseNotes.seesOnly_nodesAt (url.getD s.settings.releaseNotesUrl)
      (s.noting noted) s rfl).2
    exact Eq.trans hfollows hnoted

/-- What a homepage comes to depends on the store and the newsroom alone. -/
theorem outcome_build_congr {s t : Site} (hstore : s.store = t.store) (h : s.newsroom = t.newsroom)
    (u : User) (url : Option String) :
    ((build (.user u) url).exec s).1 = ((build (.user u) url).exec t).1 := by
  obtain ⟨hcache, hclock, hsettings, hfeed, hrequests⟩ := Site.newsroom_eq_iff.mp h
  have hground : s.ground = t.ground := by
    unfold Site.ground
    rw [hstore, hclock, hsettings]
  have hreleases (address : String) : releasesFrom address s = releasesFrom address t := by
    unfold releasesFrom
    rw [(ReleaseNotes.seesOnly_nodesAt address s t h).1]
  rw [(outcome_build u url s).1, (outcome_build u url t).1,
    (Remembrance.seesOnly_ensureViewed (.user u) s t hground).1, hstore, hsettings, hreleases]

end Homepage

end WorkspaceHome
