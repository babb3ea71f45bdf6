import WorkspaceHome.Proofs.Homepage.Shape
import WorkspaceHome.Proofs.Recency.Stored

/-!
# The arrangement of a homepage

If what is stored for a user can be shown, the groups of the homepage are a plain function of the
store and of the two recency lists (`arranged`), and the homepage is built (`build_showable`), in
particular for a store of the right shape (`build_ok`).
-/

namespace WorkspaceHome

namespace Store

variable (s : Store) (user : ℕ)

/-- The ids of a user's workspaces, as values. -/
def workspaceKeys : List Json := (s.workspaceIdsOf user).map fun id : ℕ => .int id

/-- The workspaces of a user in the order of their ids. -/
def workspacesOf : List Workspace :=
  s.workspacesWithIds ((s.workspaceIdsOf user).map fun id : ℕ => (id : ℤ))

/-- The applications that a user is shown, in the order of their ids. -/
def listedFor : List ListedApplication :=
  ((s.applicationsIn ((s.workspaceIdsOf user).map fun id : ℕ => (id : ℤ))).filter fun a =>
    holds (GitMetadata.isVisible a.gitMetadata)).filterMap fun a =>
      (ListedApplication.ofApplication a).toOption

theorem scalars_workspaceKeys : Recency.Scalars (s.workspaceKeys user) := by
  intro v hv
  obtain ⟨id, -, rfl⟩ := List.mem_map.mp hv
  rfl

theorem pairwise_row_listedFor : (s.listedFor user).Pairwise fun a b => a.row < b.row := by
  unfold listedFor
  rw [List.pairwise_filterMap]
  apply ((s.applications.ascending.filter _).filter _).imp
  intro a b hab l hl l' hl'
  rw [toOption_eq_some_iff] at hl hl'
  rw [(ListedApplication.ofApplication_spec hl).2.1, (ListedApplication.ofApplication_spec hl').2.1]
  exact hab

variable {s : Store} {user : ℕ}

theorem isAmong_workspaceIdsOf (workspace : ℕ) :
    isAmong ((s.workspaceIdsOf user).map fun id : ℕ => (id : ℤ)) workspace =
      s.isMember workspace user := by
  rw [Bool.eq_iff_iff]
  simp [isAmong, isMember, workspaceIdsOf, membershipsOf, and_assoc, and_comm]

theorem mem_workspacesOf {w : Workspace} :
    w ∈ s.workspacesOf user ↔ w ∈ s.workspaces.rows ∧ s.isMember w.id user = true := by
  unfold workspacesOf workspacesWithIds
  rw [List.mem_filter, isAmong_workspaceIdsOf]

theorem mem_applicationsIn {a : Application} :
    a ∈ s.applicationsIn ((s.workspaceIdsOf user).map fun id : ℕ => (id : ℤ)) ↔
      a ∈ s.applications.rows ∧ s.isMember a.workspace user = true := by
  unfold applicationsIn
  rw [List.mem_filter, isAmong_workspaceIdsOf]

/-- The applications that a user is shown are those that can be seen in the user's workspaces. -/
theorem mem_listedFor {l : ListedApplication} :
    l ∈ s.listedFor user ↔ ∃ a ∈ s.applications.rows, s.isMember a.workspace user = true ∧
      GitMetadata.isVisible a.gitMetadata = .ok true ∧
      ListedApplication.ofApplication a = .ok l := by
  simp only [listedFor, List.mem_filterMap, List.mem_filter, mem_applicationsIn,
    toOption_eq_some_iff, holds_eq_true_iff, and_assoc]

theorem Showable.isScalar_id {recentWorkspaces recentApplications : List Json}
    (h : s.Showable user recentWorkspaces recentApplications) {l : ListedApplication}
    (hl : l ∈ s.listedFor user) : l.id.IsScalar := by
  obtain ⟨a, ha, hmember, hvisible, hlisted⟩ := mem_listedFor.mp hl
  obtain ⟨l', hl', hscalar⟩ := h.listed a ha hmember hvisible
  rwa [Except.ok.inj (hlisted.symm.trans hl')]

end Store

namespace Homepage

open Recency Service

variable {s : Store} {user : ℕ} {recentWorkspaces recentApplications : List Json}

/-- The workspaces of a user in the order of the homepage. -/
def orderedWorkspaces (s : Store) (user : ℕ) (recent : List Json) : List Workspace :=
  inOrder (prioritise recent (s.workspaceKeys user)) (s.workspacesOf user)

/-- The group of a workspace among listed applications. -/
def groupOf (s : Store) (listed : List ListedApplication) (w : Workspace) : WorkspaceGroup :=
  { workspace := w
    applications := listed.filter fun a => a.workspace == w.id
    roles := s.rolesIn w.id }

/-- The groups of a homepage. -/
def arranged (s : Store) (user : ℕ) (recentWorkspaces recentApplications : List Json) :
    List WorkspaceGroup :=
  (orderedWorkspaces s user recentWorkspaces).map fun w =>
    (groupOf s (sortBy (·.id) recentApplications (s.listedFor user)) w).withSlugs s

/-! ### Workspaces in order -/

/-- Two whole numbers that are equal to one id are equal. -/
theorem eq_of_same_id {m n : ℕ} {id : Json} (hm : (Json.int m).same id = true)
    (hn : (Json.int n).same id = true) : m = n := by
  rw [Json.same_comm (Or.inl rfl)] at hm
  have hid := Json.isScalarValue_of_same (Json.isScalarValue_int m) hm
  have hnm := Json.same_trans hid hn hm
  rw [Json.same_int_int, decide_eq_true_eq] at hnm
  exact (Int.ofNat.inj hnm).symm

/-- The workspaces in an order of ids are those that the order names. -/
theorem mem_inOrder {order : List Json} {workspaces : List Workspace}
    (hunique : ∀ v ∈ workspaces, ∀ w ∈ workspaces, v.id = w.id → v = w) {w : Workspace} :
    w ∈ inOrder order workspaces ↔
      w ∈ workspaces ∧ ∃ id ∈ order, (Json.int w.id).same id = true := by
  unfold inOrder
  rw [List.mem_filterMap]
  constructor
  · rintro ⟨id, hid, hfound⟩
    exact ⟨List.mem_of_find?_eq_some hfound, id, hid, by simpa using List.find?_some hfound⟩
  · rintro ⟨hw, id, hid, hsame⟩
    -- an id finds a workspace that it names, and it names only one
    refine ⟨id, hid, ?_⟩
    cases hfound : workspaces.find? fun w => (Json.int w.id).same id with
    | none => exact absurd hsame (List.find?_eq_none.mp hfound w hw)
    | some v =>
      have hv : (Json.int v.id).same id = true := by simpa using List.find?_some hfound
      rw [hunique v (List.mem_of_find?_eq_some hfound) w hw (eq_of_same_id hv hsame)]

theorem eq_of_mem_workspacesOf {v w : Workspace} (hv : v ∈ s.workspacesOf user)
    (hw : w ∈ s.workspacesOf user) (h : v.id = w.id) : v = w :=
  Table.eq_of_id_eq (Store.mem_workspacesOf.mp hv).1 (Store.mem_workspacesOf.mp hw).1 h

theorem int_mem_workspaceKeys {workspace : ℕ} (h : s.isMember workspace user = true) :
    Json.int workspace ∈ s.workspaceKeys user := by
  simp only [Store.isMember, List.any_eq_true, Bool.and_eq_true, beq_iff_eq] at h
  obtain ⟨m, hm, rfl, rfl⟩ := h
  refine List.mem_map.mpr ⟨m.workspace, List.mem_map.mpr ⟨m, ?_, rfl⟩, rfl⟩
  exact List.mem_filter.mpr ⟨hm, by simp⟩

/-- No workspace of the user is lost, and no other one is there. -/
theorem mem_orderedWorkspaces (hrecent : Scalars recentWorkspaces) {w : Workspace} :
    w ∈ orderedWorkspaces s user recentWorkspaces ↔
      w ∈ s.workspaces.rows ∧ s.isMember w.id user = true := by
  unfold orderedWorkspaces prioritise
  rw [mem_inOrder fun v hv w hw => eq_of_mem_workspacesOf hv hw,
    exists_same_distinct_iff (hrecent.append (s.scalars_workspaceKeys user)) rfl,
    Store.mem_workspacesOf]
  constructor
  · exact fun h => h.1
  · intro h
    refine ⟨h, .int w.id, List.mem_append_right _ (int_mem_workspaceKeys h.2), ?_⟩
    rw [Json.same_int_int, decide_eq_true rfl]

/-- The workspaces stand in the order of first places. -/
theorem pairwise_orderedWorkspaces (s : Store) (user : ℕ) (hrecent : Scalars recentWorkspaces) :
    (orderedWorkspaces s user recentWorkspaces).Pairwise fun v w =>
      FirstBefore (recentWorkspaces ++ s.workspaceKeys user) (.int v.id) (.int w.id) := by
  unfold orderedWorkspaces inOrder
  rw [List.pairwise_filterMap]
  apply (pairwise_firstBefore_distinct (hrecent.append (s.scalars_workspaceKeys user))).imp
  intro i j hij v hv w hw
  exact hij (.int v.id) (.int w.id) rfl rfl (by simpa using List.find?_some hv)
    (by simpa using List.find?_some hw)

/-! ### The homepage -/

/-- The applications of a user's workspaces are listed without fail. -/
theorem listedIn_ok (h : s.Showable user recentWorkspaces recentApplications) :
    (listedIn s ((s.workspaceIdsOf user).map fun id : ℕ => (id : ℤ)) (.list recentApplications)).1 =
      .ok (sortBy (·.id) recentApplications (s.listedFor user)) := by
  have hvisible : ∀ a ∈ s.applicationsIn ((s.workspaceIdsOf user).map fun id : ℕ => (id : ℤ)),
      ∃ b, GitMetadata.isVisible a.gitMetadata = .ok b := by
    intro a ha
    obtain ⟨ha, hmember⟩ := Store.mem_applicationsIn.mp ha
    exact h.visible a ha hmember
  have hlisted : ∀ a ∈ (s.applicationsIn
      ((s.workspaceIdsOf user).map fun id : ℕ => (id : ℤ))).filter fun a =>
        holds (GitMetadata.isVisible a.gitMetadata),
      ∃ l, ListedApplication.ofApplication a = .ok l := by
    intro a ha
    obtain ⟨ha, hvisible⟩ := List.mem_filter.mp ha
    obtain ⟨ha, hmember⟩ := Store.mem_applicationsIn.mp ha
    obtain ⟨l, hl, -⟩ := h.listed a ha hmember (holds_eq_true_iff.mp hvisible)
    exact ⟨l, hl⟩
  unfold listedIn
  rw [filterM_eq_ok hvisible]
  dsimp only
  rw [mapM_eq_ok_filterMap hlisted]
  exact sortStored_list (scalars_of_isScalar h.applicationIds) fun l hl => (h.isScalar_id hl).1

/-- **The groups of a homepage** for what can be shown. -/
theorem shownTo_showable (h : s.Showable user recentWorkspaces recentApplications) :
    (shownTo s user).1 = .ok (arranged s user recentWorkspaces recentApplications) := by
  unfold shownTo
  split_ifs with hnone
  -- without memberships nothing is looked up, and there is nothing to arrange
  · have hempty : s.workspacesOf user = [] := by
      unfold Store.workspacesOf Store.workspacesWithIds
      rw [List.isEmpty_iff.mp hnone]
      exact List.filter_eq_nil_iff.mpr fun w _ => by simp [Store.isAmong]
    have hordered : orderedWorkspaces s user recentWorkspaces = [] := by
      unfold orderedWorkspaces inOrder
      rw [hempty]
      exact List.filterMap_eq_nil_iff.mpr fun _ _ => rfl
    rw [arranged, hordered]
    rfl
  · have horder := prioritiseStored_list (scalars_of_isScalar h.workspaceIds)
      (s.scalars_workspaceKeys user)
    unfold groupsIn
    unfold Store.workspaceKeys at horder
    rw [h.workspaceList, h.applicationList, horder]
    dsimp only
    rw [listedIn_ok h]
    dsimp only [Except.map]
    rw [arranged, List.map_map]
    rfl

/-- The groups of a homepage for a store of the right shape. -/
theorem shownTo_ok (h : s.WellShaped user recentWorkspaces recentApplications) :
    (shownTo s user).1 = .ok (arranged s user recentWorkspaces recentApplications) :=
  shownTo_showable h.showable

/-- **A homepage is built** if what is stored can be shown, whatever else the site is like. -/
theorem build_showable (site : Site) {u : User}
    (h : site.store.Showable u.id recentWorkspaces recentApplications) (url : Option String) :
    ∃ homepage site', (build (.user u) url).exec site = (.ok homepage, site') ∧
      homepage.user = u ∧
      homepage.groups = arranged site.store u.id recentWorkspaces recentApplications := by
  have hshown := shownTo_showable h
  rw [exec_build]
  generalize shownTo site.store u.id = shown at hshown
  obtain ⟨r, noted⟩ := shown
  obtain rfl : r = .ok _ := hshown
  obtain ⟨releases, t, hreleases, hstore⟩ := exists_exec_releasesAt
    (url.getD (site.noting noted).settings.releaseNotesUrl) (site.noting noted)
  -- the release notes have left the store alone, so the row can still be saved
  have hviewable : Remembrance.Viewable (t.store.remembered u.id t.clock) := by
    rw [hstore]
    exact h.viewable t.clock
  obtain ⟨store, hfinish, -, -⟩ := exec_finish_ok url (site.store.dataOf? u.id)
    (arranged site.store u.id recentWorkspaces recentApplications) hreleases rfl hviewable
  exact ⟨_, _, hfinish, rfl, rfl⟩

/-- A homepage is built for a store of the right shape. -/
theorem build_ok (site : Site) {u : User}
    (h : site.store.WellShaped u.id recentWorkspaces recentApplications) (url : Option String) :
    ∃ homepage site', (build (.user u) url).exec site = (.ok homepage, site') ∧
      homepage.user = u ∧
      homepage.groups = arranged site.store u.id recentWorkspaces recentApplications :=
  build_showable site h.showable url

end Homepage

end WorkspaceHome
