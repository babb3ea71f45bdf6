import WorkspaceHome.Proofs.Fallible
import WorkspaceHome.Proofs.Homepage.Arrangement
import WorkspaceHome.Proofs.Homepage.Shown
import WorkspaceHome.Proofs.ReleaseNotes.News
import WorkspaceHome.Proofs.ReleaseNotes.Outcome

/-!
# Release notes make no difference to the rest of a homepage

Completing a homepage does to the store what fixing the viewed version does, whatever release notes
there are (`exec_finish`). So a homepage built with any address, feed and cache fails if and only if
the one without release notes fails, and for the same reason; else it shows the same of the user and
of the workspaces and leaves the same store (`build_unaffected`). If the release notes cannot be
had, it shows none and an empty badge.
-/

namespace WorkspaceHome

open Service

/-! ### Fixing the viewed version -/

namespace Remembrance

theorem seesOnly_save (user : User) (fields : UserDataFields) :
    SeesOnly Site.ground (save user fields) := SeesOnly.write _

theorem seesOnly_obtain (user : User) : SeesOnly Site.ground (obtain user) := by
  unfold obtain
  refine (SeesOnly.ask _).bind fun found => ?_
  cases found with
  | some d => exact SeesOnly.pure d
  | none =>
    exact (seesOnly_save user {}).bind fun d => (SeesOnly.modify fun _ => rfl).bind fun _ =>
      SeesOnly.pure d

theorem seesOnly_fixVersion (user : User) (version : String) :
    SeesOnly Site.ground (fixVersion user version) := by
  refine (seesOnly_obtain user).bind fun d => ?_
  split_ifs
  · exact SeesOnly.pure _
  · exact (seesOnly_save user _).bind fun _ => SeesOnly.pure _

/-- Fixing the viewed version depends on the store, the time and the settings alone. -/
theorem seesOnly_ensureViewed (viewer : Viewer) : SeesOnly Site.ground (ensureViewed viewer) := by
  intro s t h
  have hsettings : s.settings = t.settings := congrArg (fun ground => ground.2.2) h
  rw [exec_ensureViewed, exec_ensureViewed, hsettings]
  refine SeesOnly.bind (SeesOnly.settle _) (fun user => ?_) s t h
  refine SeesOnly.bind (seesOnly_fixVersion user _).atomically fun result => ?_
  obtain ⟨data, isNew⟩ := result
  cases isNew with
  | false => exact SeesOnly.pure data
  | true => exact SeesOnly.bind (SeesOnly.modify fun _ => rfl) fun _ => SeesOnly.pure data

end Remembrance

namespace Homepage

/-! ### Completing a homepage -/

/-- The release notes that a homepage shows: what getting them comes to, or none. -/
def releasesFrom (url : String) (s : Site) : List ReleaseNotes.Node :=
  match ((ReleaseNotes.nodesAt url).exec s).1 with
  | .ok nodes => nodes
  | .error _ => []

theorem exec_releasesAt_eq (url : String) (s : Site) :
    ∃ log requests cache,
      (releasesAt url).exec s = (.ok (releasesFrom url s), { s with log, requests, cache }) := by
  obtain ⟨log, requests, cache, hafter⟩ := ReleaseNotes.changes_nodesAt url s
  unfold releasesFrom
  rw [exec_releasesAt]
  rcases hrun : (ReleaseNotes.nodesAt url).exec s with ⟨e | nodes, t⟩ <;> rw [hrun] at hafter <;>
    cases hafter
  · exact ⟨_, requests, cache, rfl⟩
  · exact ⟨log, requests, cache, rfl⟩

/-- Completing a homepage fixes the viewed version and shows the release notes. -/
theorem exec_finish (u : User) (url : Option String) (data : Option UserData)
    (groups : List WorkspaceGroup) (s : Site) :
    ((finish u url data groups).exec s).1 =
        ((Remembrance.ensureViewed (.user u)).exec s).1.map (fun _ =>
          assembled u data groups (releasesFrom (url.getD s.settings.releaseNotesUrl) s)) ∧
      ((finish u url data groups).exec s).2.store =
        ((Remembrance.ensureViewed (.user u)).exec s).2.store := by
  obtain ⟨log, requests, cache, hreleases⟩ :=
    exec_releasesAt_eq (url.getD s.settings.releaseNotesUrl) s
  -- the release notes change nothing of what fixing the viewed version depends on
  obtain ⟨houtcome, hground⟩ := Remembrance.seesOnly_ensureViewed (.user u)
    { s with log, requests, cache } s rfl
  have hstore := congrArg Prod.fst hground
  unfold finish
  rw [exec_get_bind, exec_bind_ok hreleases]
  dsimp only
  rw [exec_bind, ← houtcome]
  rcases hrun : (Remembrance.ensureViewed (.user u)).exec { s with log, requests, cache } with
    ⟨e | viewed, t⟩ <;> rw [hrun] at hstore
  · exact ⟨rfl, hstore⟩
  · exact ⟨rfl, hstore⟩

/-- **A homepage by its parts**: the groups are what the user is shown, the release notes come from
the address, and the store is the one that fixing the viewed version leaves. -/
theorem outcome_build (u : User) (url : Option String) (s : Site) :
    ((build (.user u) url).exec s).1 =
        ((shownTo s.store u.id).1 >>= fun groups =>
          ((Remembrance.ensureViewed (.user u)).exec s).1.map fun _ =>
            assembled u (s.store.dataOf? u.id) groups
              (releasesFrom (url.getD s.settings.releaseNotesUrl) s)) ∧
      ((build (.user u) url).exec s).2.store =
        match (shownTo s.store u.id).1 with
        | .error _ => s.store
        | .ok _ => ((Remembrance.ensureViewed (.user u)).exec s).2.store := by
  rw [exec_build]
  rcases shownTo s.store u.id with ⟨e | groups, noted⟩
  · exact ⟨rfl, rfl⟩
  · obtain ⟨houtcome, hstore⟩ := exec_finish u url (s.store.dataOf? u.id) groups (s.noting noted)
    -- what the groups have noted makes no difference to what follows them
    obtain ⟨hviewed, hground⟩ := Remembrance.seesOnly_ensureViewed (.user u) (s.noting noted) s rfl
    have hreleases (address : String) :
        releasesFrom address (s.noting noted) = releasesFrom address s := by
      unfold releasesFrom
      rw [ReleaseNotes.outcome_nodesAt_congr address
        (show ReleaseNotes.basis (s.noting noted) = ReleaseNotes.basis s from rfl)]
    rw [hviewed, hreleases] at houtcome
    exact ⟨houtcome, hstore.trans (congrArg Prod.fst hground)⟩

/-- **Release notes make no difference to the rest of a homepage**: with any address, feed and cache
it fails exactly if it fails without release notes, and for the same reason; else it shows the same
of the user and of the workspaces. In any case it leaves the same store. Release notes that cannot
be had leave no more behind than an empty list and an empty badge. -/
theorem build_unaffected (u : User) (url : Option String) (s : Site) :
    ((build (.user u) url).exec s).1.map (fun h => (h.user, h.groups)) =
        ((build (.user u) (some "")).exec s).1.map (fun h => (h.user, h.groups)) ∧
      ((build (.user u) url).exec s).2.store = ((build (.user u) (some "")).exec s).2.store ∧
      ∀ h, ((build (.user u) url).exec s).1 = .ok h →
        ∀ e, ((ReleaseNotes.nodesAt (url.getD s.settings.releaseNotesUrl)).exec s).1 = .error e →
          h.releases = [] ∧ h.news.badge = "" := by
  -- the release notes enter the outcome in one place, and the store in none
  obtain ⟨houtcome, hstore⟩ := outcome_build u url s
  obtain ⟨hplain, hplainStore⟩ := outcome_build u (some "") s
  refine ⟨?_, hstore.trans hplainStore.symm, ?_⟩
  · rw [houtcome, hplain]
    rcases (shownTo s.store u.id).1 with e | groups
    · rfl
    · rcases ((Remembrance.ensureViewed (.user u)).exec s).1 with e | viewed
      · rfl
      · rfl
  · intro h hbuilt e hfails
    have hnone : releasesFrom (url.getD s.settings.releaseNotesUrl) s = [] := by
      unfold releasesFrom
      rw [hfails]
    rw [houtcome, hnone] at hbuilt
    obtain ⟨groups, -, hbuilt⟩ := bind_eq_ok_iff.mp hbuilt
    obtain ⟨viewed, -, rfl⟩ := map_eq_ok_iff.mp hbuilt
    refine ⟨rfl, ?_⟩
    rw [assembled, ReleaseNotes.newsSince_nil]
    rfl

theorem build_unaffected_sample :
    ∃ h, ((build (.user { id := 1, username := "ada" }) (some "x:y")).exec
        { store := Store.sample }).1 = .ok h ∧ h.releases = [] ∧ h.news.badge = "" := by
  have hfails : ((ReleaseNotes.nodesAt "x:y").exec { store := Store.sample }).1 =
      .error (.refuse .releaseNotesUnavailable "no feed configured") := rfl
  obtain ⟨h, t, hbuild, -, -⟩ := build_ok { store := Store.sample }
    (u := { id := 1, username := "ada" }) Store.sample_wellShaped (some "x:y")
  have hbuilt : ((build (.user { id := 1, username := "ada" }) (some "x:y")).exec
      { store := Store.sample }).1 = .ok h := by rw [hbuild]
  exact ⟨h, hbuilt, (build_unaffected _ (some "x:y") _).2.2 h hbuilt _ hfails⟩

end Homepage

end WorkspaceHome
