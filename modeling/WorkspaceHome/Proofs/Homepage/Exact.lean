import WorkspaceHome.Proofs.Homepage.Arrangement

/-!
# What a homepage shows

A homepage is exact (`Homepage.IsExact`) if it has one group for every workspace of the user and no
other, in the order of the first places in the recency list and then of the memberships, and if
every group is exact (`WorkspaceGroup.IsExact`): it lists the rows that can be seen, each once, in
the order of the last places in the other recency list and then of the ids, and it names the members
in the order in which they joined.

For a store of the right shape every homepage is exact (`build_exact`).
-/

namespace WorkspaceHome

/-! ### Exactness -/

/-- A user joined a workspace before another one: by a membership that is older than all in the
other one. -/
def Store.JoinedBefore (s : Store) (user v w : ℕ) : Prop :=
  ∃ m ∈ s.memberships.rows, m.user = user ∧ m.workspace = v ∧
    ∀ n ∈ s.memberships.rows, n.user = user → n.workspace = w → m.id < n.id

/-- A row can be seen in a workspace. -/
def Store.IsShownIn (s : Store) (workspace : ℕ) (a : Application) : Prop :=
  a ∈ s.applications.rows ∧ a.workspace = workspace ∧
    GitMetadata.isVisible a.gitMetadata = .ok true

/-- A listed application stands for a row, with the slugs of its default pages. -/
def ListedApplication.Shows (s : Store) (l : ListedApplication) (a : Application) : Prop :=
  ∃ plain, ListedApplication.ofApplication a = .ok plain ∧ l = (plain.withSlugs s).1

/-- A member as it is listed. -/
def Membership.shown (m : Membership) (u : User) : UserRole := ⟨u.username, u.fullName, m.role⟩

/-- A group shows the rows of its workspace that can be seen, in the order of a recency list, and
the members in the order in which they joined. -/
structure WorkspaceGroup.IsExact (s : Store) (recent : List Json) (g : WorkspaceGroup) :
    Prop where
  sound : ∀ l ∈ g.applications, ∃ a, s.IsShownIn g.workspace.id a ∧ l.Shows s a
  complete : ∀ a, s.IsShownIn g.workspace.id a → ∃ l ∈ g.applications, l.Shows s a
  once : (g.applications.map (·.row)).Nodup
  order : g.applications.Pairwise fun l l' =>
    Recency.LastBefore recent l.id l'.id ∨ Recency.SameLast recent l.id l'.id ∧ l.row < l'.row
  roles : ∃ members : List (Membership × User),
    g.roles = members.map (fun (m, u) => m.shown u) ∧
      (members.Pairwise fun x y => x.1.id < y.1.id) ∧
        ∀ m u, (m, u) ∈ members ↔ m ∈ s.memberships.rows ∧ m.workspace = g.workspace.id ∧
          u ∈ s.users.rows ∧ u.id = m.user

/-- The groups are one for every workspace of a user, in the order of a recency list, and each shows
what it has to. -/
structure Homepage.IsExact (s : Store) (user : ℕ) (recentWorkspaces recentApplications : List Json)
    (groups : List WorkspaceGroup) : Prop where
  sound : ∀ g ∈ groups, g.workspace ∈ s.workspaces.rows ∧ s.isMember g.workspace.id user = true
  complete : ∀ w ∈ s.workspaces.rows, s.isMember w.id user = true → ∃ g ∈ groups, g.workspace = w
  once : (groups.map (·.workspace.id)).Nodup
  order : groups.Pairwise fun g g' =>
    Recency.FirstBefore recentWorkspaces (.int g.workspace.id) (.int g'.workspace.id) ∨
      Recency.Absent (.int g.workspace.id) recentWorkspaces ∧
        Recency.Absent (.int g'.workspace.id) recentWorkspaces ∧
          s.JoinedBefore user g.workspace.id g'.workspace.id
  groups : ∀ g ∈ groups, g.IsExact s recentApplications

namespace Homepage

open Recency Service

variable {s : Store} {user : ℕ} {recentWorkspaces recentApplications : List Json}

/-! ### The order of the groups -/

/-- The first places of a user's workspaces are in the order of the memberships. -/
theorem joinedBefore_of_firstBefore {v w : ℕ}
    (h : FirstBefore (s.workspaceKeys user) (.int v) (.int w)) : s.JoinedBefore user v w := by
  have hkey : ∀ k : ℕ, (s.workspaceKeys user)[k]? =
      (s.membershipsOf user)[k]?.map fun m : Membership => Json.int m.workspace := by
    intro k
    simp [Store.workspaceKeys, Store.workspaceIdsOf, Function.comp_def]
  obtain ⟨i, ⟨⟨x, hx, hxv⟩, -⟩, hbefore⟩ := h
  rw [hkey, Option.map_eq_some_iff] at hx
  obtain ⟨m, hm, rfl⟩ := hx
  obtain ⟨hmrow, hmuser⟩ := List.mem_filter.mp (List.mem_of_getElem? hm)
  refine ⟨m, hmrow, by simpa using hmuser, ?_, ?_⟩
  · rw [Json.same_int_int, decide_eq_true_eq] at hxv
    exact Int.ofNat.inj hxv
  · intro n hn hnuser hnw
    have hmem : n ∈ s.membershipsOf user := List.mem_filter.mpr ⟨hn, by simp [hnuser]⟩
    obtain ⟨j, hj⟩ := List.mem_iff_getElem?.mp hmem
    obtain ⟨k, hk, hfirst⟩ := exists_isFirstPlace (v := .int w) (w := .int n.workspace)
      (by rw [hkey, hj]; rfl) (by rw [hnw, Json.same_int_int, decide_eq_true rfl])
    have hij : i < j := Nat.lt_of_lt_of_le (hbefore k hfirst) hk
    obtain ⟨hilt, rfl⟩ := List.getElem?_eq_some_iff.mp hm
    obtain ⟨hjlt, rfl⟩ := List.getElem?_eq_some_iff.mp hj
    exact List.pairwise_iff_getElem.mp (s.memberships.ascending.filter _) i j hilt hjlt hij

/-! ### Inside a group -/

theorem groupOf_sound {w : Workspace} {l : ListedApplication}
    (hl : l ∈ ((groupOf s (sortBy (·.id) recentApplications (s.listedFor user)) w).withSlugs
      s).applications) : ∃ a, s.IsShownIn w.id a ∧ l.Shows s a := by
  obtain ⟨plain, hplain, rfl⟩ := List.mem_map.mp hl
  obtain ⟨hplain, hw⟩ := List.mem_filter.mp hplain
  obtain ⟨a, ha, -, hvisible, hlisted⟩ := Store.mem_listedFor.mp (mem_sortBy.mp hplain)
  have hworkspace := (ListedApplication.ofApplication_spec hlisted).2.2
  exact ⟨a, ⟨ha, by rw [← hworkspace]; simpa using hw, hvisible⟩, plain, hlisted, rfl⟩

theorem groupOf_complete (h : s.WellShaped user recentWorkspaces recentApplications)
    {w : Workspace} (hmember : s.isMember w.id user = true) {a : Application}
    (ha : s.IsShownIn w.id a) :
    ∃ l ∈ ((groupOf s (sortBy (·.id) recentApplications (s.listedFor user)) w).withSlugs
      s).applications, l.Shows s a := by
  obtain ⟨ha, hworkspace, hvisible⟩ := ha
  rw [← hworkspace] at hmember
  obtain ⟨plain, hlisted⟩ := h.ofApplication_ok ha hmember
  refine ⟨(plain.withSlugs s).1, List.mem_map.mpr ⟨plain, ?_, rfl⟩, plain, hlisted, rfl⟩
  refine List.mem_filter.mpr ⟨mem_sortBy.mpr (Store.mem_listedFor.mpr ?_), ?_⟩
  · exact ⟨a, ha, hmember, hvisible, hlisted⟩
  · simp [(ListedApplication.ofApplication_spec hlisted).2.2, hworkspace]

theorem nodup_row_groupOf (w : Workspace) :
    (((groupOf s (sortBy (·.id) recentApplications (s.listedFor user)) w).withSlugs
      s).applications.map (·.row)).Nodup := by
  have hlisted : ((s.listedFor user).map (·.row)).Nodup :=
    List.pairwise_map.mpr ((s.pairwise_row_listedFor user).imp Nat.ne_of_lt)
  have hsorted : ((sortBy (·.id) recentApplications (s.listedFor user)).map (·.row)).Nodup :=
    ((sortBy_perm _).map _).nodup_iff.mpr hlisted
  show (List.map _ (List.map _ _)).Nodup
  rw [List.map_map]
  exact (List.filter_sublist.map _).nodup hsorted

theorem pairwise_groupOf (w : Workspace) :
    ((groupOf s (sortBy (·.id) recentApplications (s.listedFor user)) w).withSlugs
      s).applications.Pairwise fun l l' => LastBefore recentApplications l.id l'.id ∨
        SameLast recentApplications l.id l'.id ∧ l.row < l'.row := by
  show (List.map _ _).Pairwise _
  rw [List.pairwise_map]
  apply ((pairwise_sortBy (s.pairwise_row_listedFor user)).filter _).imp
  rintro l l' (hrank | ⟨hrank, hrow⟩)
  · exact Or.inl (lastBefore_of_rank_lt hrank)
  · exact Or.inr ⟨sameLast_of_rank_eq hrank, hrow⟩

/-- The roles of a workspace are those of its members, in the order in which they joined. -/
theorem rolesIn_spec (s : Store) (workspace : ℕ) :
    ∃ members : List (Membership × User),
      s.rolesIn workspace = members.map (fun (m, u) => m.shown u) ∧
        (members.Pairwise fun x y => x.1.id < y.1.id) ∧
          ∀ m u, (m, u) ∈ members ↔ m ∈ s.memberships.rows ∧ m.workspace = workspace ∧
            u ∈ s.users.rows ∧ u.id = m.user := by
  refine ⟨(s.memberships.rows.filter fun m => m.workspace == workspace).filterMap fun m =>
    (s.users.find? m.user).map fun u => (m, u), ?_, ?_, ?_⟩
  · rw [List.map_filterMap]
    unfold Store.rolesIn
    congr 1
    funext m
    rw [Option.map_map]
    rfl
  -- memberships have ascending ids, and choosing some of them keeps the order
  · rw [List.pairwise_filterMap]
    apply (s.memberships.ascending.filter _).imp
    intro m n hmn x hx y hy
    obtain ⟨u, -, rfl⟩ := Option.map_eq_some_iff.mp hx
    obtain ⟨v, -, rfl⟩ := Option.map_eq_some_iff.mp hy
    exact hmn
  · intro m u
    simp only [List.mem_filterMap, List.mem_filter, beq_iff_eq, Option.map_eq_some_iff,
      Table.find?_eq_some_iff, Prod.mk.injEq]
    constructor
    · rintro ⟨n, ⟨hn, hw⟩, v, ⟨hv, hid⟩, rfl, rfl⟩
      exact ⟨hn, hw, hv, hid⟩
    · rintro ⟨hm, hw, hu, hid⟩
      exact ⟨m, ⟨hm, hw⟩, u, ⟨hu, hid⟩, rfl, rfl⟩

/-! ### The whole -/

theorem arranged_groups (h : s.WellShaped user recentWorkspaces recentApplications)
    {g : WorkspaceGroup} (hg : g ∈ arranged s user recentWorkspaces recentApplications) :
    g.IsExact s recentApplications := by
  obtain ⟨w, hw, rfl⟩ := List.mem_map.mp hg
  have hmember := ((mem_orderedWorkspaces (scalars_of_isScalar h.workspaceIds)).mp hw).2
  exact
    { sound := fun l hl => groupOf_sound hl
      complete := fun a ha => groupOf_complete h hmember ha
      once := nodup_row_groupOf w
      order := pairwise_groupOf w
      roles := rolesIn_spec s w.id }

theorem arranged_isExact (h : s.WellShaped user recentWorkspaces recentApplications) :
    IsExact s user recentWorkspaces recentApplications
      (arranged s user recentWorkspaces recentApplications) := by
  have hrecent := scalars_of_isScalar h.workspaceIds
  have hordered := pairwise_orderedWorkspaces s user hrecent
  refine
    { sound := ?_
      complete := ?_
      once := ?_
      order := ?_
      groups := fun g hg => arranged_groups h hg }
  · intro g hg
    obtain ⟨w, hw, rfl⟩ := List.mem_map.mp hg
    exact (mem_orderedWorkspaces hrecent).mp hw
  · intro w hw hmember
    exact ⟨_, List.mem_map.mpr ⟨w, (mem_orderedWorkspaces hrecent).mpr ⟨hw, hmember⟩, rfl⟩, rfl⟩
  -- the workspaces are in the order of their first places, which is irreflexive and so without
  -- repetition
  · unfold arranged
    rw [List.map_map]
    refine List.pairwise_map.mpr (hordered.imp ?_)
    intro v w hvw heq
    have heq : v.id = w.id := heq
    rw [heq] at hvw
    exact FirstBefore.irrefl hvw
  · unfold arranged
    refine List.pairwise_map.mpr (hordered.imp ?_)
    intro v w hvw
    rcases hvw.of_append with hbefore | ⟨hv, hw, hjoined⟩
    · exact Or.inl hbefore
    · exact Or.inr ⟨hv, hw, joinedBefore_of_firstBefore hjoined⟩

/-- **Every homepage is exact**: for a store of the right shape it is built, whatever the feed, the
cache and the clock are like, and shows what it has to. -/
theorem build_exact (site : Site) (u : User)
    (h : site.store.WellShaped u.id recentWorkspaces recentApplications) (url : Option String) :
    ∃ homepage site', (build (.user u) url).exec site = (.ok homepage, site') ∧
      homepage.user = u ∧
        IsExact site.store u.id recentWorkspaces recentApplications homepage.groups := by
  obtain ⟨homepage, site', hbuild, huser, hgroups⟩ := build_ok site h url
  refine ⟨homepage, site', hbuild, huser, ?_⟩
  rw [hgroups]
  exact arranged_isExact h

theorem build_exact_sample :
    Store.sample.WellShaped 1 [.int 2] [.text "main"] ∧
      ∃ homepage site', (build (.user { id := 1, username := "ada" }) none).exec
          { store := Store.sample } = (.ok homepage, site') ∧
        homepage.user = { id := 1, username := "ada" } ∧
          IsExact Store.sample 1 [.int 2] [.text "main"] homepage.groups :=
  ⟨Store.sample_wellShaped,
    build_exact { store := Store.sample } { id := 1, username := "ada" } Store.sample_wellShaped
      none⟩

end Homepage

end WorkspaceHome
