import Mathlib.Tactic.SplitIfs
import WorkspaceHome.Health
import WorkspaceHome.Http.Serve
import WorkspaceHome.Operation.Caller
import WorkspaceHome.Proofs.Homepage.Shown

/-!
# Homepages and mild frames

All that goes into a homepage keeps every mild frame, apart from getting the release notes and
fixing the viewed version, on which a homepage then depends (`Mild.build`). Getting the release
notes keeps every lenient frame (`Lenient.build`).
-/

namespace WorkspaceHome.Service.Frame

variable {F : Frame}

namespace Mild

theorem visibleIn (hF : F.Mild) (workspaces : List ℤ) :
    F.Keeps (Applications.visibleIn workspaces) := by
  unfold Applications.visibleIn
  refine (keeps_ask _).bind fun all => ?_
  rw [filterM_settle]
  exact (keeps_settle _).bind fun visible => (hF.log rfl).bind fun _ => keeps_pure visible

theorem isRecord_resolveFirst (row : ℕ) (pages : List Page) (edition : Edition)
    (refs : List PageRef) :
    ∀ e ∈ (PageRef.resolveFirst row pages edition refs).2, e.isRecord = false := by
  intro e he
  obtain ⟨ref, -, hresolve⟩ := PageRef.exists_of_mem_resolveFirst he
  unfold PageRef.resolve at hresolve
  split_ifs at hresolve
  · cases hresolve
    rfl
  · split at hresolve
    · cases hresolve
      rfl
    · split at hresolve
      · cases hresolve
        rfl
      · cases hresolve

theorem withSlugs (hF : F.Mild) (groups : List WorkspaceGroup) :
    F.Keeps (Homepage.withSlugs groups) := by
  intro s
  unfold KeepsAt
  rw [Homepage.exec_withSlugs]
  apply hF.noting
  intro e he
  obtain ⟨g, -, he⟩ := List.mem_flatMap.mp he
  obtain ⟨a, -, he⟩ := List.mem_flatMap.mp he
  rcases List.mem_append.mp he with he | he
  · exact isRecord_resolveFirst _ _ _ _ e he
  · exact isRecord_resolveFirst _ _ _ _ e he

theorem releasesAt (hF : F.Mild) {url : String} (hnews : F.Keeps (ReleaseNotes.nodesAt url)) :
    F.Keeps (Homepage.releasesAt url) :=
  fun s => (Homepage.releasesAt_follows hF url s).keepsAt (hnews s)

/-- Building a homepage keeps a mild frame if getting the release notes and fixing the viewed
version do. -/
theorem build (hF : F.Mild) (hnews : ∀ url, F.Keeps (ReleaseNotes.nodesAt url))
    (hviewed : ∀ viewer, F.Keeps (Remembrance.ensureViewed viewer)) (viewer : Viewer)
    (url : Option String) : F.Keeps (Homepage.build viewer url) := by
  have hgroups (ids : List ℕ) (recentWorkspaces recentApplications : Json) :
      F.Keeps (Homepage.groupsFor ids recentWorkspaces recentApplications) := by
    unfold Homepage.groupsFor Homepage.listApplications
    exact (keeps_settle _).bind fun order => keeps_get.bind fun s =>
      ((hF.visibleIn _).bind fun visible => (keeps_settle _).bind fun listed =>
        keeps_settle _).bind fun applications => keeps_pure _
  unfold Homepage.build
  refine (keeps_settle _).bind fun user => (keeps_ask _).bind fun data =>
    (keeps_ask _).bind fun ids => ?_
  dsimp only
  split_ifs
  all_goals
    refine Keeps.bind ?_ fun groups => (hF.withSlugs groups).bind fun groups =>
      keeps_get.bind fun s => (hF.releasesAt (hnews _)).bind fun releases =>
        (hviewed viewer).bind fun _ => (hF.log (by rfl)).bind fun _ => keeps_pure _
  · exact keeps_pure []
  · exact hgroups _ _ _

end Mild

/-- Building a homepage keeps a lenient frame if fixing the viewed version does. -/
theorem Lenient.build (hF : F.Lenient)
    (hviewed : ∀ viewer, F.Keeps (Remembrance.ensureViewed viewer)) (viewer : Viewer)
    (url : Option String) : F.Keeps (Homepage.build viewer url) :=
  hF.toMild.build (fun url => (ReleaseNotes.detached_nodesAt url).keeps hF.distant) hviewed
    viewer url

end WorkspaceHome.Service.Frame
