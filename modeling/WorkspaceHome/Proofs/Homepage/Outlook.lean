import WorkspaceHome.Proofs.Frame.Outlook
import WorkspaceHome.Proofs.Homepage.Shown

/-!
# What a homepage sees

Getting the release notes sees no more than the outlook of a site (`seesOnly_outlook_nodesAt`). What
a user is shown of workspaces and applications is settled by the outlook of the store
(`shownTo_congr`), so a homepage sees no more than that either (`seesOnly_build`).
-/

namespace WorkspaceHome

open Service

namespace ReleaseNotes

/-- The outlook shows all that the gathering of news depends on. -/
theorem tracks_outlook : Tracks Site.outlook where
  look {s _} h := by
    obtain ⟨-, -, store, log, ht⟩ := Site.outlook_eq_iff.mp h
    exact ⟨store, log, s.context, s.requests, ht⟩
  log _ h := Site.outlook_noting h rfl
  ask _ h := by
    obtain ⟨hstore, hlog, store, log, rfl⟩ := Site.outlook_eq_iff.mp h
    exact Site.outlook_eq_iff.mpr ⟨hstore, hlog, store, log, rfl⟩
  keep _ h := by
    obtain ⟨hstore, hlog, store, log, rfl⟩ := Site.outlook_eq_iff.mp h
    exact Site.outlook_eq_iff.mpr ⟨hstore, hlog, store, log, rfl⟩

/-- **Getting the release notes** sees no more than the outlook of a site. -/
theorem seesOnly_outlook_nodesAt (url : String) : SeesOnly Site.outlook (nodesAt url) :=
  (gathers_nodesAt url).seesOnly tracks_outlook

end ReleaseNotes

namespace Homepage

theorem seesOnly_releasesAt (url : String) : SeesOnly Site.outlook (releasesAt url) := by
  intro s t h
  obtain ⟨houtcome, hafter⟩ := ReleaseNotes.seesOnly_outlook_nodesAt url s t h
  rw [exec_releasesAt, exec_releasesAt]
  rcases hs : (ReleaseNotes.nodesAt url).exec s with ⟨e | nodes, s'⟩ <;>
    rcases ht : (ReleaseNotes.nodesAt url).exec t with ⟨e' | nodes', t'⟩ <;>
    rw [hs, ht] at houtcome hafter <;> cases houtcome
  · exact ⟨rfl, Site.outlook_noting hafter rfl⟩
  · exact ⟨rfl, hafter⟩

/-- **What is shown of workspaces and applications** is settled by the outlook of the store. -/
theorem shownTo_congr {s t : Store} (h : s.outlook = t.outlook) (user : ℕ) :
    shownTo s user = shownTo t user := by
  obtain ⟨hbeside, hrecollection⟩ := Store.outlook_eq_iff.mp h
  have hrecent (s : Store) :
      s.recentOf user (·.recentWorkspaces) = (s.recollection user).workspaces ∧
        s.recentOf user (·.recentApplications) = (s.recollection user).applications :=
    ⟨recentWorkspaces_eq _, recentApplications_eq _⟩
  unfold shownTo
  rw [(hrecent s).1, (hrecent s).2, (hrecent t).1, (hrecent t).2, hrecollection,
    show t = { s with userData := t.userData } from hbeside]
  rfl

/-- Completing a homepage, with rows from before that tell the same. -/
theorem agree_finish (u : User) (url : Option String) {data data' : Option UserData}
    (h : recollectionOf data = recollectionOf data') (groups : List WorkspaceGroup) :
    Agree Site.outlook id (finish u url data groups) (finish u url data' groups) := by
  have hassembled (releases : List ReleaseNotes.Node) :
      assembled u data groups releases = assembled u data' groups releases := by
    unfold assembled
    rw [viewedVersion_eq, viewedVersion_eq, h]
  unfold finish
  refine Agree.get_bind fun s t hview => ?_
  have hsettings : t.settings = s.settings := by
    obtain ⟨-, -, _, _, rfl⟩ := Site.outlook_eq_iff.mp hview
    rfl
  rw [hsettings]
  refine Agree.bind_same (seesOnly_releasesAt _) fun releases => ?_
  rw [hassembled]
  exact (Remembrance.agree_ensureViewed _).bind fun _ _ _ =>
    ((seesOnly_log _).bind fun _ => SeesOnly.pure _).agree id

/-- **A homepage** sees no more than the outlook of a site. -/
theorem seesOnly_build (viewer : Viewer) (url : Option String) :
    SeesOnly Site.outlook (build viewer url) := by
  intro s t h
  cases viewer with
  | nobody => exact ⟨rfl, h⟩
  | anonymous => exact ⟨rfl, h⟩
  | user u =>
    have hstore := (Site.outlook_eq_iff.mp h).1
    have hrecollection := congrFun (Store.outlook_eq_iff.mp hstore).2 u.id
    rw [exec_build, exec_build, shownTo_congr hstore]
    rcases shownTo t.store u.id with ⟨e | groups, noted⟩
    · exact ⟨rfl, Site.outlook_noting h rfl⟩
    · have hfinish := agree_finish u url hrecollection groups (s.noting noted) (t.noting noted)
        (Site.outlook_noting h rfl)
      rw [Except.map_id] at hfinish
      exact hfinish

end Homepage

end WorkspaceHome
