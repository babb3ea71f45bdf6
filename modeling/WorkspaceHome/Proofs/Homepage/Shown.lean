import WorkspaceHome.Homepage.Build
import WorkspaceHome.Proofs.ReleaseNotes.Client
import WorkspaceHome.Proofs.Remembrance
import WorkspaceHome.Proofs.Store.Groups

/-!
# The homepage in two parts

What a homepage shows of workspaces is a function of the store (`shownTo`), with the entries that it
leaves in the log. What follows, getting the release notes and fixing the viewed version, is
`finish`; the release notes never fail (`exec_releasesAt`) and neither see the store nor change it
(`blind_releasesAt`). A homepage is the one part after the other (`exec_build`).
-/

namespace WorkspaceHome

/-! ### Workspaces and applications -/

/-- A recency list of a user as it is stored; it is empty if nothing is. -/
def Store.recentOf (s : Store) (user : ℕ) (field : UserData → Json) : Json :=
  ((s.dataOf? user).map field).getD (.list [])

/-- What is noted of references tells why one of them gets no slug. -/
theorem PageRef.exists_of_mem_resolveFirst {row : ℕ} {pages : List Page} {edition : Edition}
    {refs : List PageRef} {e : Event} (he : e ∈ (resolveFirst row pages edition refs).2) :
    ∃ ref ∈ refs, ref.resolve row pages edition = .error e := by
  induction refs with
  | nil => cases he
  | cons ref rest ih =>
    unfold resolveFirst at he
    split_ifs at he
    · cases hresolve : ref.resolve row pages edition with
      | ok slug =>
        rw [hresolve] at he
        cases he
      | error event =>
        rw [hresolve] at he
        rw [List.mem_singleton.mp he]
        exact ⟨ref, List.mem_cons_self, hresolve⟩
    · obtain ⟨r, hr, hresolve⟩ := ih he
      exact ⟨r, List.mem_cons_of_mem _ hr, hresolve⟩

/-- A group with the slugs of the default pages put in. -/
def WorkspaceGroup.withSlugs (s : Store) (g : WorkspaceGroup) : WorkspaceGroup :=
  { g with applications := g.applications.map fun a => (a.withSlugs s).1 }

/-- What is noted when the slugs of a group are put in. -/
def WorkspaceGroup.slugEvents (s : Store) (g : WorkspaceGroup) : List Event :=
  g.applications.flatMap fun a => (a.withSlugs s).2

namespace Homepage

open Service

/-- The applications of workspaces as they are listed, and what is noted. -/
def listedIn (s : Store) (workspaces : List ℤ) (recent : Json) :
    Except Failure (List ListedApplication) × List Event :=
  match (s.applicationsIn workspaces).filterM fun a => GitMetadata.isVisible a.gitMetadata with
  | .error e => (.error e, [])
  | .ok visible =>
    (visible.mapM ListedApplication.ofApplication >>=
        Recency.sortStored (fun a => .ok a.id) recent,
      [.applicationsListed visible.length
        ((s.applicationsIn workspaces).length - visible.length)])

theorem exec_listApplications (workspaces : List ℤ) (recent : Json) (s : Site) :
    (listApplications workspaces recent).exec s =
      ((listedIn s.store workspaces recent).1,
        s.noting (listedIn s.store workspaces recent).2) := by
  unfold listApplications Applications.visibleIn listedIn
  simp only [bind_assoc, pure_bind]
  rw [exec_ask_bind, filterM_settle]
  cases (s.store.applicationsIn workspaces).filterM
      fun a => GitMetadata.isVisible a.gitMetadata with
  | error e => rw [exec_settle_error_bind, Site.noting_nil]
  | ok visible => rw [exec_settle_ok_bind, exec_log_bind, ← settle_bind, exec_settle]

/-- The groups of workspaces, still without slugs, and what is noted. -/
def groupsIn (s : Store) (ids : List ℕ) (recentWorkspaces recentApplications : Json) :
    Except Failure (List WorkspaceGroup) × List Event :=
  match Recency.prioritiseStored recentWorkspaces (.list (ids.map fun id : ℕ => .int id)) with
  | .error e => (.error e, [])
  | .ok order =>
    let listed := listedIn s (ids.map fun id : ℕ => (id : ℤ)) recentApplications
    (listed.1.map fun applications =>
        (inOrder order (s.workspacesWithIds (ids.map fun id : ℕ => (id : ℤ)))).map fun w =>
          { workspace := w
            applications := applications.filter fun a => a.workspace == w.id
            roles := s.rolesIn w.id },
      listed.2)

/-- What is put in order is asked for. -/
theorem among_of_mem_inOrder {s : Store} {ids : List ℤ} {order : List Json} {w : Workspace}
    (hw : w ∈ inOrder order (s.workspacesWithIds ids)) : (w.id : ℤ) ∈ ids := by
  obtain ⟨id, -, hfound⟩ := List.mem_filterMap.mp hw
  have hamong := (List.mem_filter.mp (List.mem_of_find?_eq_some hfound)).2
  simpa [Store.isAmong] using hamong

theorem exec_groupsFor (ids : List ℕ) (recentWorkspaces recentApplications : Json) (s : Site) :
    (groupsFor ids recentWorkspaces recentApplications).exec s =
      ((groupsIn s.store ids recentWorkspaces recentApplications).1,
        s.noting (groupsIn s.store ids recentWorkspaces recentApplications).2) := by
  unfold groupsFor groupsIn
  dsimp only
  cases Recency.prioritiseStored recentWorkspaces (.list (ids.map fun id : ℕ => .int id)) with
  | error e => rw [exec_settle_error_bind, Site.noting_nil]
  -- two steps can fail, and both are taken before anything is noted
  | ok order =>
    rw [exec_settle_ok_bind, exec_get_bind, exec_bind, exec_listApplications]
    dsimp only
    cases (listedIn s.store (ids.map fun id : ℕ => (id : ℤ)) recentApplications).1 with
    | error e => rfl
    | ok applications =>
      -- what is gathered for a workspace is its own
      have hgroups : ∀ w ∈ inOrder order
          (s.store.workspacesWithIds (ids.map fun id : ℕ => (id : ℤ))),
          ({ workspace := w
             applications :=
              (Groups.collect (·.workspace) (fun a => a) applications).get w.id
             roles := (s.store.rolesByWorkspace (ids.map fun id : ℕ => (id : ℤ))).get w.id } :
              WorkspaceGroup) =
            { workspace := w
              applications := applications.filter fun a => a.workspace == w.id
              roles := s.store.rolesIn w.id } := by
        intro w hw
        rw [Groups.get_collect, List.map_id',
          Store.get_rolesByWorkspace _ (among_of_mem_inOrder hw)]
      dsimp only [pure_bind]
      rw [List.map_congr_left hgroups]
      rfl

theorem exec_withSlugs (groups : List WorkspaceGroup) (s : Site) :
    (withSlugs groups).exec s =
      (.ok (groups.map (·.withSlugs s.store)),
        s.noting (groups.flatMap (·.slugEvents s.store))) := by
  unfold withSlugs
  dsimp only
  rw [exec_ask_bind]
  apply exec_mapM_noting
  intro g hg t
  generalize hrows : ((groups.flatMap (·.applications)).map fun a => (a.row : ℤ)) = rows
  have happlications : (g.applications.mapM fun a : ListedApplication => (do
      (a.withSlugsAmong ((s.store.pagesByApplication rows).get a.row)).2.forM log
      return (a.withSlugsAmong ((s.store.pagesByApplication rows).get a.row)).1 :
        Service ListedApplication)).exec t =
      (.ok (g.applications.map fun a => (a.withSlugs s.store).1),
        t.noting (g.slugEvents s.store)) := by
    refine exec_mapM_noting (fun a ha r => ?_) t
    -- the pages of all applications are asked for, those of this one among them
    have hrow : (a.row : ℤ) ∈ rows :=
      hrows ▸ List.mem_map_of_mem (List.mem_flatMap.mpr ⟨g, hg, ha⟩)
    rw [Store.get_pagesByApplication _ hrow, exec_bind_ok (exec_forM_log _ r), exec_pure]
    rfl
  exact exec_bind_ok happlications _

/-- The groups that a user is shown, and what is noted. -/
def shownTo (s : Store) (user : ℕ) : Except Failure (List WorkspaceGroup) × List Event :=
  let plain :=
    if (s.workspaceIdsOf user).isEmpty then (.ok [], [])
    else
      groupsIn s (s.workspaceIdsOf user) (s.recentOf user (·.recentWorkspaces))
        (s.recentOf user (·.recentApplications))
  match plain with
  | (.error e, noted) => (.error e, noted)
  | (.ok groups, noted) =>
    (.ok (groups.map (·.withSlugs s)), noted ++ groups.flatMap (·.slugEvents s))

/-! ### Release notes -/

/-- What is noted when a homepage has to do without release notes. -/
def skipped : Failure → Event
  | .refused ⟨.releaseNotesUnavailable, detail, _⟩ => .releaseNotesSkipped detail
  | _ => .releaseNotesFailed

/-- Getting the release notes for a homepage never fails. -/
theorem exec_releasesAt (url : String) (s : Site) :
    (releasesAt url).exec s = match (ReleaseNotes.nodesAt url).exec s with
      | (.ok nodes, t) => (.ok nodes, t)
      | (.error e, t) => (.ok [], t.noting [skipped e]) := by
  unfold releasesAt
  rw [exec_bind, exec_tryCatch, exec_bind]
  rcases (ReleaseNotes.nodesAt url).exec s with ⟨e | nodes, t⟩
  · cases e with
    | refused refusal =>
      obtain ⟨kind, detail, code⟩ := refusal
      cases kind <;> rfl
    | _ => rfl
  · rfl

theorem blind_releasesAt (url : String) : Blind (releasesAt url) := by
  intro s store
  rw [exec_releasesAt, exec_releasesAt, (ReleaseNotes.detached_nodesAt url).blind]
  rcases (ReleaseNotes.nodesAt url).exec s with ⟨e | nodes, t⟩ <;> rfl

/-- The release notes of a homepage leave what getting them leaves, but for what is noted. -/
theorem releasesAt_follows {F : Frame} (hF : F.Mild) (url : String) (s : Site) :
    F.Follows (ReleaseNotes.nodesAt url) (releasesAt url) s := by
  unfold Frame.Follows
  rw [exec_releasesAt]
  rcases (ReleaseNotes.nodesAt url).exec s with ⟨e | nodes, t⟩
  · refine hF.entry t _ ?_
    unfold skipped
    split <;> rfl
  · exact F.refl t

theorem exists_exec_releasesAt (url : String) (s : Site) :
    ∃ releases t, (releasesAt url).exec s = (.ok releases, t) ∧ t.store = s.store := by
  have hstore := (ReleaseNotes.detached_nodesAt url).blind.store_eq s
  rw [exec_releasesAt]
  rcases hrun : (ReleaseNotes.nodesAt url).exec s with ⟨e | nodes, t⟩
  · exact ⟨[], _, rfl, by rw [hrun] at hstore; exact hstore⟩
  · exact ⟨nodes, t, rfl, by rw [hrun] at hstore; exact hstore⟩

/-! ### The whole -/

/-- The homepage that shows groups and release notes to a user of whom `data` was remembered. -/
def assembled (user : User) (data : Option UserData) (groups : List WorkspaceGroup)
    (releases : List ReleaseNotes.Node) : Homepage :=
  let viewed := (data.bind (·.viewedVersion)).map Json.text
  { user, groups, releases, news := ReleaseNotes.newsSince (viewed.getD .null) releases }

/-- Completes a homepage: gets the release notes and fixes the viewed version. -/
def finish (user : User) (url : Option String) (data : Option UserData)
    (groups : List WorkspaceGroup) : Service Homepage := do
  let releases ← releasesAt (url.getD (← get).settings.releaseNotesUrl)
  let homepage := assembled user data groups releases
  let _ ← Remembrance.ensureViewed (.user user)
  log (.homepageBuilt user.id groups.length homepage.applications.length)
  return homepage

/-- **A homepage in two parts**: the groups, and what follows them. -/
theorem exec_build (u : User) (url : Option String) (s : Site) :
    (build (.user u) url).exec s =
      match shownTo s.store u.id with
      | (.error e, noted) => (.error e, s.noting noted)
      | (.ok groups, noted) =>
        (finish u url (s.store.dataOf? u.id) groups).exec (s.noting noted) := by
  unfold build shownTo
  rw [show Viewer.signedIn (.user u) = .ok u from rfl, exec_settle_ok_bind, exec_ask_bind,
    exec_ask_bind]
  dsimp only
  by_cases hnone : (s.store.workspaceIdsOf u.id).isEmpty = true
  · rw [if_pos hnone, if_pos hnone, pure_bind, exec_bind_ok (exec_withSlugs [] s)]
    rfl
  · rw [if_neg hnone, if_neg hnone, exec_bind, exec_groupsFor]
    unfold Store.recentOf
    generalize groupsIn s.store (s.store.workspaceIdsOf u.id)
      (((s.store.dataOf? u.id).map (·.recentWorkspaces)).getD (.list []))
      (((s.store.dataOf? u.id).map (·.recentApplications)).getD (.list [])) = plain
    obtain ⟨e | groups, noted⟩ := plain
    · rfl
    · dsimp only
      rw [exec_bind_ok (exec_withSlugs groups (s.noting noted)), Site.noting_noting]
      rfl

section finish

variable {u : User} (url : Option String) {address : String} (data : Option UserData)
variable (groups : List WorkspaceGroup) {releases : List ReleaseNotes.Node} {s t : Site}

/-- What is noted once a homepage is complete. -/
def completion (u : User) (groups : List WorkspaceGroup) : Event :=
  .homepageBuilt u.id groups.length (groups.flatMap (·.applications)).length

/-- Completing a homepage changes nothing but the row of the user. -/
theorem exec_finish_ok
    (hreleases : (releasesAt address).exec s = (.ok releases, t))
    (haddress : url.getD s.settings.releaseNotesUrl = address)
    (h : Remembrance.Viewable (t.store.remembered u.id t.clock)) :
    ∃ store, (finish u url data groups).exec s =
        (.ok (assembled u data groups releases),
          { t with store }.noting (Remembrance.creation t.store u.id ++
            Remembrance.initialisation (t.store.remembered u.id t.clock) t.settings.appVersion ++
            [completion u groups])) ∧
      store.dataOf? u.id = some
        (Remembrance.viewed (t.store.remembered u.id t.clock) t.settings.appVersion t.clock) ∧
      Store.SameBut u.id t.store store := by
  obtain ⟨store, hviewed, hrow, hsame⟩ := Remembrance.exec_ensureViewed_ok h
  refine ⟨store, ?_, hrow, hsame⟩
  unfold finish
  rw [exec_get_bind, haddress, exec_bind_ok hreleases]
  dsimp only
  rw [exec_bind_ok hviewed, exec_log_bind, exec_pure, Site.noting_noting]
  rfl

theorem exec_finish_error
    (hreleases : (releasesAt address).exec s = (.ok releases, t))
    (haddress : url.getD s.settings.releaseNotesUrl = address)
    (h : ¬ Remembrance.Viewable (t.store.remembered u.id t.clock)) :
    (finish u url data groups).exec s =
      (.error .constraint, t.noting (Remembrance.creation t.store u.id)) := by
  unfold finish
  rw [exec_get_bind, haddress, exec_bind_ok hreleases]
  dsimp only
  rw [exec_bind_error (Remembrance.exec_ensureViewed_error h)]

end finish

end Homepage

end WorkspaceHome
