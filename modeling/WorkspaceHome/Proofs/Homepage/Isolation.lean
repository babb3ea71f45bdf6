import WorkspaceHome.Proofs.Homepage.Arrangement

/-!
# A homepage sees its user's workspaces only

Two stores agree for a user (`Store.AgreeFor`) if they have the same workspaces of the user, with
the same members, applications and pages, and remember the same of the user; in everything else they
may differ. Whatever ids stand in the recency lists, the metadata or the page references, the user
is shown the same in both (`shownTo_eq`), and building the homepage does the same to what is
remembered of the user and nothing to any other row (`build_isolated`).
-/

namespace WorkspaceHome

/-! ### Stores that agree for a user -/

/-- Two stores have the same workspaces of a user, with all that belongs to them, and remember the
same of the user. -/
structure Store.AgreeFor (user : ℕ) (s t : Store) : Prop where
  members : ∀ workspace, s.isMember workspace user = t.isMember workspace user
  workspaces : Table.AgreeOn (fun w => s.isMember w.id user = true) s.workspaces t.workspaces
  memberships : Table.AgreeOn (fun m => s.isMember m.workspace user = true)
    s.memberships t.memberships
  users : Table.AgreeOn (fun u => ∃ m ∈ s.memberships.rows, m.user = u.id ∧
    s.isMember m.workspace user = true) s.users t.users
  applications : Table.AgreeOn (fun a => s.isMember a.workspace user = true)
    s.applications t.applications
  pages : Table.AgreeOn (fun p => ∃ a ∈ s.applications.rows, a.id = p.application ∧
    s.isMember a.workspace user = true) s.pages t.pages
  userData : Table.AgreeOn (fun d => d.user = user) s.userData t.userData

namespace Store.AgreeFor

variable {user : ℕ} {s t : Store}

theorem isMember_of_mem {m : Membership} (hm : m ∈ s.memberships.rows) :
    s.isMember m.workspace m.user = true :=
  List.any_eq_true.mpr ⟨m, hm, by simp⟩

theorem membershipsOf_eq (h : AgreeFor user s t) : s.membershipsOf user = t.membershipsOf user := by
  apply Table.AgreeOn.filter_eq
  intro m hm
  -- a membership of the user is one in a workspace of the user
  have hm : m.user = user := by simpa using hm
  constructor
  · intro hs
    have hmember := isMember_of_mem hs
    rw [hm] at hmember
    exact (h.memberships m hmember).mp hs
  · intro ht
    have hmember := isMember_of_mem ht
    rw [hm, ← h.members] at hmember
    exact (h.memberships m hmember).mpr ht

theorem workspaceIdsOf_eq (h : AgreeFor user s t) :
    s.workspaceIdsOf user = t.workspaceIdsOf user := by
  unfold workspaceIdsOf
  rw [h.membershipsOf_eq]

theorem dataOf?_eq (h : AgreeFor user s t) : s.dataOf? user = t.dataOf? user := by
  unfold dataOf?
  rw [← List.head?_filter, ← List.head?_filter]
  rw [Table.AgreeOn.filter_eq (p := fun d : UserData => d.user == user)]
  intro d hd
  exact h.userData d (by simpa using hd)

theorem workspacesOf_eq (h : AgreeFor user s t) : s.workspacesOf user = t.workspacesOf user := by
  unfold workspacesOf workspacesWithIds
  rw [← h.workspaceIdsOf_eq]
  apply Table.AgreeOn.filter_eq
  intro w hw
  rw [isAmong_workspaceIdsOf] at hw
  exact h.workspaces w hw

theorem applicationsIn_eq (h : AgreeFor user s t) :
    s.applicationsIn ((s.workspaceIdsOf user).map fun id : ℕ => (id : ℤ)) =
      t.applicationsIn ((t.workspaceIdsOf user).map fun id : ℕ => (id : ℤ)) := by
  unfold applicationsIn
  rw [← h.workspaceIdsOf_eq]
  apply Table.AgreeOn.filter_eq
  intro a ha
  rw [isAmong_workspaceIdsOf] at ha
  exact h.applications a ha

theorem rolesIn_eq (h : AgreeFor user s t) {workspace : ℕ}
    (hmember : s.isMember workspace user = true) : s.rolesIn workspace = t.rolesIn workspace := by
  have hmemberships : (s.memberships.rows.filter fun m => m.workspace == workspace) =
      t.memberships.rows.filter fun m => m.workspace == workspace := by
    apply Table.AgreeOn.filter_eq
    intro m hm
    have hm : m.workspace = workspace := by simpa using hm
    rw [← hm] at hmember
    exact h.memberships m hmember
  unfold rolesIn
  rw [← hmemberships]
  apply List.filterMap_congr
  intro m hm
  obtain ⟨hm, hw⟩ := List.mem_filter.mp hm
  have hw : m.workspace = workspace := by simpa using hw
  -- the user behind a membership is the same in both stores, or missing from both
  have hfind : s.users.find? m.user = t.users.find? m.user := by
    ext u
    rw [Table.find?_eq_some_iff, Table.find?_eq_some_iff]
    refine and_congr_left fun hid => h.users u ⟨m, hm, hid.symm, ?_⟩
    rw [hw]
    exact hmember
  rw [hfind]

theorem pagesOf_eq (h : AgreeFor user s t) {a : Application} (ha : a ∈ s.applications.rows)
    (hmember : s.isMember a.workspace user = true) : s.pagesOf a.id = t.pagesOf a.id := by
  apply Table.AgreeOn.filter_eq
  intro p hp
  exact h.pages p ⟨a, ha, (by simpa using hp : p.application = a.id).symm, hmember⟩

/-- What is remembered of the user is the same, up to the id of a new row. -/
theorem remembered_eq (h : AgreeFor user s t) (now : Timestamp) :
    (s.remembered user now).content = (t.remembered user now).content := by
  unfold remembered
  rw [h.dataOf?_eq]
  cases t.dataOf? user <;> rfl

end Store.AgreeFor

namespace Homepage

open Recency Service

variable {s t : Store} {user : ℕ}

/-! ### What is shown -/

/-- A listed application stands for one of the rows that are looked at. -/
theorem mem_listedIn {workspaces : List ℤ} {recent : Json} {listed : List ListedApplication}
    (h : (listedIn s workspaces recent).1 = .ok listed) {l : ListedApplication} (hl : l ∈ listed) :
    ∃ a ∈ s.applicationsIn workspaces, ListedApplication.ofApplication a = .ok l := by
  unfold listedIn at h
  cases hvisible : (s.applicationsIn workspaces).filterM
      fun a => GitMetadata.isVisible a.gitMetadata with
  | error e =>
    rw [hvisible] at h
    cases h
  | ok visible =>
    rw [hvisible] at h
    obtain ⟨unsorted, hmap, hsort⟩ := bind_eq_ok_iff.mp h
    obtain ⟨a, ha, hal⟩ := exists_of_mapM_ok hmap (mem_of_sortStored_ok hsort hl)
    exact ⟨a, mem_of_filterM_ok hvisible ha, hal⟩

theorem mem_groupsIn {ids : List ℕ} {recentWorkspaces recentApplications : Json}
    {groups : List WorkspaceGroup}
    (h : (groupsIn s ids recentWorkspaces recentApplications).1 = .ok groups) {g : WorkspaceGroup}
    (hg : g ∈ groups) {l : ListedApplication} (hl : l ∈ g.applications) :
    ∃ a ∈ s.applicationsIn (ids.map fun id : ℕ => (id : ℤ)),
      ListedApplication.ofApplication a = .ok l := by
  unfold groupsIn at h
  cases horder : prioritiseStored recentWorkspaces (.list (ids.map fun id : ℕ => .int id)) with
  | error e =>
    rw [horder] at h
    cases h
  | ok order =>
    rw [horder] at h
    dsimp only at h
    cases hlisted : (listedIn s (ids.map fun id : ℕ => (id : ℤ)) recentApplications).1 with
    | error e =>
      rw [hlisted] at h
      cases h
    | ok listed =>
      rw [hlisted] at h
      obtain rfl := (Except.ok.inj h).symm
      obtain ⟨w, -, rfl⟩ := List.mem_map.mp hg
      exact mem_listedIn hlisted (List.mem_filter.mp hl).1

theorem groupsIn_eq (h : Store.AgreeFor user s t) (recentWorkspaces recentApplications : Json) :
    groupsIn s (s.workspaceIdsOf user) recentWorkspaces recentApplications =
      groupsIn t (t.workspaceIdsOf user) recentWorkspaces recentApplications := by
  have hlisted :
      listedIn s ((s.workspaceIdsOf user).map fun id : ℕ => (id : ℤ)) recentApplications =
        listedIn t ((t.workspaceIdsOf user).map fun id : ℕ => (id : ℤ)) recentApplications := by
    unfold listedIn
    rw [h.applicationsIn_eq]
  have hworkspaces : s.workspacesWithIds ((s.workspaceIdsOf user).map fun id : ℕ => (id : ℤ)) =
      t.workspacesWithIds ((t.workspaceIdsOf user).map fun id : ℕ => (id : ℤ)) :=
    h.workspacesOf_eq
  unfold groupsIn
  rw [hlisted, ← hworkspaces, ← h.workspaceIdsOf_eq]
  cases prioritiseStored recentWorkspaces
      (.list ((s.workspaceIdsOf user).map fun id : ℕ => .int id)) with
  | error e => rfl
  | ok order =>
    dsimp only
    congr 2
    funext applications
    -- the roles are asked for only where the user is a member
    apply List.map_congr_left
    intro w hw
    have hw := ((mem_inOrder fun v hv w hw => eq_of_mem_workspacesOf hv hw).mp hw).1
    rw [h.rolesIn_eq (Store.mem_workspacesOf.mp hw).2]

/-! ### The slugs of default pages -/

theorem withSlugs_congr {l : ListedApplication} (h : s.pagesOf l.row = t.pagesOf l.row) :
    l.withSlugs s = l.withSlugs t := by
  unfold ListedApplication.withSlugs
  rw [h]

theorem group_withSlugs_congr {g : WorkspaceGroup}
    (h : ∀ l ∈ g.applications, s.pagesOf l.row = t.pagesOf l.row) :
    g.withSlugs s = g.withSlugs t ∧ g.slugEvents s = g.slugEvents t := by
  have happlications : (g.applications.map fun l => l.withSlugs s) =
      g.applications.map fun l => l.withSlugs t :=
    List.map_congr_left fun l hl => withSlugs_congr (h l hl)
  have hfst (r : Store) : (g.applications.map fun l => (l.withSlugs r).1) =
      (g.applications.map fun l => l.withSlugs r).map Prod.fst := by
    rw [List.map_map]
    rfl
  have hsnd (r : Store) : (g.applications.flatMap fun l => (l.withSlugs r).2) =
      (g.applications.map fun l => l.withSlugs r).flatMap Prod.snd := by
    rw [List.flatMap_map]
  unfold WorkspaceGroup.withSlugs WorkspaceGroup.slugEvents
  rw [hfst, hfst, hsnd, hsnd, happlications]
  exact ⟨rfl, rfl⟩

/-- A user is shown the same in two stores that agree for the user. -/
theorem shownTo_eq (h : Store.AgreeFor user s t) : shownTo s user = shownTo t user := by
  have hrecent (field : UserData → Json) : s.recentOf user field = t.recentOf user field := by
    unfold Store.recentOf
    rw [h.dataOf?_eq]
  unfold shownTo
  rw [← hrecent, ← hrecent, ← groupsIn_eq h, ← h.workspaceIdsOf_eq]
  split_ifs
  · rfl
  · cases hgroups : groupsIn s (s.workspaceIdsOf user) (s.recentOf user (·.recentWorkspaces))
        (s.recentOf user (·.recentApplications)) with
    | mk r noted =>
    cases r with
    | error e => rfl
    | ok groups =>
      -- pages are looked up by the row that is listed, whatever their references name
      have hslugs : ∀ g ∈ groups,
          g.withSlugs s = g.withSlugs t ∧ g.slugEvents s = g.slugEvents t := by
        intro g hg
        apply group_withSlugs_congr
        intro l hl
        obtain ⟨a, ha, hal⟩ := mem_groupsIn (by rw [hgroups]) hg hl
        obtain ⟨ha, hmember⟩ := Store.mem_applicationsIn.mp ha
        rw [(ListedApplication.ofApplication_spec hal).2.1]
        exact h.pagesOf_eq ha hmember
      dsimp only
      rw [List.map_congr_left fun g hg => (hslugs g hg).1,
        List.flatMap_congr fun g hg => (hslugs g hg).2]

/-! ### What is remembered -/

section content

variable {d d' : UserData}

theorem viewable_congr (h : d.content = d'.content) :
    Remembrance.Viewable d ↔ Remembrance.Viewable d' := by
  show Remembrance.Viewable d.content ↔ Remembrance.Viewable d'.content
  rw [h]

theorem initialisation_congr (h : d.content = d'.content) (version : String) :
    Remembrance.initialisation d version = Remembrance.initialisation d' version := by
  show Remembrance.initialisation d.content version = Remembrance.initialisation d'.content version
  rw [h]

theorem viewed_content (d : UserData) (version : String) (now : Timestamp) :
    (Remembrance.viewed d version now).content = Remembrance.viewed d.content version now := by
  unfold Remembrance.viewed
  show UserData.content (if d.viewedVersion.isSome = true then _ else _) =
    if d.viewedVersion.isSome = true then _ else _
  split_ifs <;> rfl

end content

/-- Completing a homepage in two stores that agree for the user: the release notes are the same, and
so is what is done to the row of the user. -/
theorem finish_isolated {u : User} (h : Store.AgreeFor u.id s t) (site : Site)
    (url : Option String) (data : Option UserData) (groups : List WorkspaceGroup) :
    ∃ (outcome : Except Failure Homepage) (rest : Site) (s' t' : Store),
      (finish u url data groups).exec { site with store := s } =
          (outcome, { rest with store := s' }) ∧
        (finish u url data groups).exec { site with store := t } =
            (outcome, { rest with store := t' }) ∧
          (s'.dataOf? u.id).map UserData.content = (t'.dataOf? u.id).map UserData.content ∧
            Store.SameBut u.id s s' ∧ Store.SameBut u.id t t' := by
  obtain ⟨releases, r, hreleases, hstore⟩ := exists_exec_releasesAt
    (url.getD site.settings.releaseNotesUrl) { site with store := s }
  -- the release notes do not look at the store
  have hreleases' : (releasesAt (url.getD site.settings.releaseNotesUrl)).exec
      { site with store := t } = (.ok releases, { r with store := t }) := by
    have hblind := blind_releasesAt (url.getD site.settings.releaseNotesUrl)
      { site with store := s } t
    rw [hreleases] at hblind
    exact hblind
  obtain rfl : r.store = s := hstore
  -- a row that is made now may get another id in each store, so only the contents are the same
  have hcontent := h.remembered_eq r.clock
  have hcreation : Remembrance.creation t u.id = Remembrance.creation r.store u.id := by
    unfold Remembrance.creation
    rw [h.dataOf?_eq]
  by_cases hviewable : Remembrance.Viewable (r.store.remembered u.id r.clock)
  · obtain ⟨s', hs', hsrow, hsame⟩ := exec_finish_ok url data groups hreleases rfl hviewable
    obtain ⟨t', ht', htrow, hsame'⟩ := exec_finish_ok url data groups hreleases' rfl
      ((viewable_congr hcontent).mp hviewable)
    dsimp only at ht' htrow hsame'
    rw [hcreation, ← initialisation_congr hcontent] at ht'
    refine ⟨_, r.noting _, s', t', hs', ht', ?_, hsame, hsame'⟩
    rw [hsrow, htrow]
    simp only [Option.map_some, viewed_content, hcontent]
  · have hs' := exec_finish_error url data groups hreleases rfl hviewable
    have ht' := exec_finish_error url data groups hreleases' rfl
      (mt (viewable_congr hcontent).mpr hviewable)
    dsimp only at ht'
    rw [hcreation] at ht'
    refine ⟨_, r.noting _, r.store, t, hs', ht', ?_, ?_, ?_⟩
    · rw [h.dataOf?_eq]
    · exact Store.SameBut.refl _ _
    · exact Store.SameBut.refl _ _

/-- **Homepages are isolated**: in two stores that agree for a user, building the homepage has the
same outcome, leaves the rest of the site alike, and does the same to what is remembered of the user
and nothing to any other row. -/
theorem build_isolated {u : User} (h : Store.AgreeFor u.id s t) (site : Site)
    (url : Option String) :
    ∃ (outcome : Except Failure Homepage) (rest : Site) (s' t' : Store),
      (build (.user u) url).exec { site with store := s } = (outcome, { rest with store := s' }) ∧
        (build (.user u) url).exec { site with store := t } = (outcome, { rest with store := t' }) ∧
          (s'.dataOf? u.id).map UserData.content = (t'.dataOf? u.id).map UserData.content ∧
            Store.SameBut u.id s s' ∧ Store.SameBut u.id t t' := by
  rw [exec_build, exec_build]
  dsimp only
  rw [← shownTo_eq h, ← h.dataOf?_eq]
  rcases shownTo s u.id with ⟨e | groups, noted⟩
  · refine ⟨.error e, site.noting noted, s, t, rfl, rfl, ?_, ?_, ?_⟩
    · rw [h.dataOf?_eq]
    · exact Store.SameBut.refl _ _
    · exact Store.SameBut.refl _ _
  -- both runs go on from sites that differ in the store only
  · exact finish_isolated h (site.noting noted) url (s.dataOf? u.id) groups

/-- The small store with a third workspace, of which its user is no member, and an application in it
that is known as `main` as well. -/
def sampleBeside : Store :=
  { Store.sample with
    workspaces := Store.sample.workspaces.insert ⟨3, "Three", "three", ⟨0⟩, ⟨0⟩⟩ rfl
    applications := Store.sample.applications.insert
      { id := 4, workspace := 3, name := "C", slug := "c"
        gitMetadata := .object [("defaultApplicationId", .text "main")] } rfl }

theorem sample_agreeFor : Store.AgreeFor 1 Store.sample sampleBeside where
  members := fun _ => rfl
  workspaces := by
    intro w hw
    refine ⟨List.mem_append_left _, fun h => (List.mem_append.mp h).resolve_right ?_⟩
    intro hnew
    rw [List.mem_singleton.mp hnew] at hw
    exact absurd hw (by decide)
  memberships := fun _ _ => Iff.rfl
  users := fun _ _ => Iff.rfl
  applications := by
    intro a ha
    refine ⟨List.mem_append_left _, fun h => (List.mem_append.mp h).resolve_right ?_⟩
    intro hnew
    rw [List.mem_singleton.mp hnew] at ha
    exact absurd ha (by decide)
  pages := fun _ _ => Iff.rfl
  userData := fun _ _ => Iff.rfl

theorem build_isolated_sample :
    Store.AgreeFor 1 Store.sample sampleBeside ∧
      ∃ (outcome : Except Failure Homepage) (rest : Site) (s' t' : Store),
        (build (.user { id := 1, username := "ada" }) none).exec { store := Store.sample } =
            (outcome, { rest with store := s' }) ∧
          (build (.user { id := 1, username := "ada" }) none).exec { store := sampleBeside } =
              (outcome, { rest with store := t' }) ∧
            (s'.dataOf? 1).map UserData.content = (t'.dataOf? 1).map UserData.content ∧
              Store.SameBut 1 Store.sample s' ∧ Store.SameBut 1 sampleBeside t' :=
  ⟨sample_agreeFor, build_isolated (u := { id := 1, username := "ada" }) sample_agreeFor {} none⟩

end Homepage

end WorkspaceHome
