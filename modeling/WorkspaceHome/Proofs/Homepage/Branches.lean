import WorkspaceHome.Proofs.Homepage.Opening

/-!
# The branches of an application on Git

An application on Git has a row for each of its branches, which name one id for clients and one
default branch (`Store.AreBranches`). A homepage lists the row of the default branch and no other
(`IsExact.filter_branches`); recording any of the rows is the same operation
(`AreBranches.recordRecent_eq`), also for those that are not listed, and moves the listed one to the
front (`branches_opened`).
-/

namespace WorkspaceHome

/-! ### Names of branches -/

namespace Json

/-- A text that is not empty; it may be torn. -/
def IsName (v : Json) : Prop := (∃ s, s ≠ "" ∧ v = .text s) ∨ ∃ codes, v = .torn codes

variable {v w : Json}

theorem IsName.truthy (h : v.IsName) : v.truthy = true := by
  rcases h with ⟨s, hs, rfl⟩ | ⟨codes, rfl⟩
  · simp [Json.truthy, hs]
  · rfl

/-- Names are equal as values only if they are the same. -/
theorem IsName.same_iff (hv : v.IsName) (hw : w.IsName) : v.same w = true ↔ v = w := by
  rcases hv with ⟨s, -, rfl⟩ | ⟨codes, rfl⟩ <;> rcases hw with ⟨t, -, rfl⟩ | ⟨codes', rfl⟩
  · simp [same, sameScalar]
  · simp [same, sameScalar, number?]
  · simp [same, sameScalar, number?]
  · simp [same, sameScalar]

end Json

namespace GitMetadata

variable {own metadata id b d : Json}

/-- An id that the metadata name is the one for clients. -/
theorem clientId_of_member (h : metadata.member "defaultApplicationId" = .ok id)
    (hid : id.truthy = true) : clientId own metadata = .ok id := by
  cases metadata with
  | object members =>
    have htruthy : (Json.object members).truthy = true := by
      cases members with
      | nil =>
        obtain rfl : Json.null = id := Except.ok.inj h
        cases hid
      | cons m rest => rfl
    unfold clientId
    rw [if_pos htruthy, h]
    show Except.ok ((nonEmpty id).getD own) = .ok id
    rw [nonEmpty, if_pos hid, Option.getD_some]
  | _ => cases h

/-- A row that names its branch and the default one is shown exactly if they are the same. -/
theorem isVisible_of_names (hbranch : metadata.member "branchName" = .ok b) (hb : b.IsName)
    (hdefault : metadata.member "defaultBranchName" = .ok d) (hd : d.IsName) :
    isVisible metadata = .ok (b.same d) := by
  cases metadata with
  | object members =>
    unfold isVisible branch defaultBranch
    rw [hbranch, hdefault]
    simp only [Functor.map, Except.map, nonEmpty, hb.truthy, hd.truthy, if_true]
    rfl
  | _ => cases hbranch

end GitMetadata

/-! ### Branches -/

/-- Rows of a workspace that are branches of one application on Git: they name one id for clients
and one default branch, and every one has a branch of its own. -/
structure Store.AreBranches (s : Store) (workspace : ℕ) (id main : Json)
    (branches : List Application) : Prop where
  row : ∀ a ∈ branches, a ∈ s.applications.rows
  within : ∀ a ∈ branches, a.workspace = workspace
  named : ∀ a ∈ branches, a.gitMetadata.member "defaultApplicationId" = .ok id
  truthy : id.truthy = true
  default : ∀ a ∈ branches, a.gitMetadata.member "defaultBranchName" = .ok main
  mainName : main.IsName
  branch : ∀ a ∈ branches, ∃ b, a.gitMetadata.member "branchName" = .ok b ∧ b.IsName
  distinct : ∀ a ∈ branches, ∀ b ∈ branches,
    a.gitMetadata.member "branchName" = b.gitMetadata.member "branchName" → a = b

/-- A row is on a branch. -/
def Application.IsOn (a : Application) (branch : Json) : Prop :=
  a.gitMetadata.member "branchName" = .ok branch

namespace Store.AreBranches

variable {s : Store} {workspace : ℕ} {id main : Json} {branches : List Application}
  {a b : Application}

theorem clientId (h : s.AreBranches workspace id main branches) (ha : a ∈ branches) :
    GitMetadata.clientId (.int a.id) a.gitMetadata = .ok id :=
  GitMetadata.clientId_of_member (h.named a ha) h.truthy

/-- Of the branches the one that is shown is the default one. -/
theorem isVisible_iff (h : s.AreBranches workspace id main branches) (ha : a ∈ branches) :
    GitMetadata.isVisible a.gitMetadata = .ok true ↔ a.IsOn main := by
  obtain ⟨b, hbranch, hb⟩ := h.branch a ha
  rw [GitMetadata.isVisible_of_names hbranch hb (h.default a ha) h.mainName, Except.ok.injEq,
    hb.same_iff h.mainName, Application.IsOn, hbranch, Except.ok.injEq]

/-- **Recording one branch is recording any other one.** -/
theorem recordRecent_eq (h : s.AreBranches workspace id main branches) (ha : a ∈ branches)
    (hb : b ∈ branches) (viewer : Viewer) :
    Remembrance.recordRecent viewer a = Remembrance.recordRecent viewer b := by
  unfold Remembrance.recordRecent
  rw [h.clientId ha, h.clientId hb, h.within a ha, h.within b hb]

end Store.AreBranches

/-! ### Homepages -/

/-- What a listed application has from the row that it stands for. -/
theorem ListedApplication.Shows.spec {s : Store} {l : ListedApplication} {a : Application}
    (h : l.Shows s a) :
    GitMetadata.clientId (.int a.id) a.gitMetadata = .ok l.id ∧ l.row = a.id ∧
      l.workspace = a.workspace := by
  obtain ⟨plain, hplain, rfl⟩ := h
  have hspec := ofApplication_spec hplain
  exact hspec

namespace Homepage

open Recency

variable {s : Store} {user : ℕ} {recentWorkspaces recentApplications : List Json}
  {groups : List WorkspaceGroup}

/-- No row is listed twice on a homepage. -/
theorem IsExact.nodup_row (h : IsExact s user recentWorkspaces recentApplications groups) :
    ((groups.flatMap (·.applications)).map (·.row)).Nodup := by
  rw [List.map_flatMap, List.nodup_flatMap]
  refine ⟨fun g hg => (h.groups g hg).once, ?_⟩
  refine (List.pairwise_map.mp h.once).imp_of_mem fun {g g'} hg hg' hdiffer => ?_
  intro row hrow hrow'
  obtain ⟨l, hl, rfl⟩ := List.mem_map.mp hrow
  obtain ⟨l', hl', heq⟩ := List.mem_map.mp hrow'
  obtain ⟨a, ⟨ha, haw, -⟩, hshows⟩ := (h.groups g hg).sound l hl
  obtain ⟨a', ⟨ha', haw', -⟩, hshows'⟩ := (h.groups g' hg').sound l' hl'
  -- the row is in the workspace of both groups
  have hid : a'.id = a.id := by rw [← hshows.spec.2.1, ← hshows'.spec.2.1, heq]
  obtain rfl : a' = a := Table.eq_of_id_eq ha' ha hid
  exact hdiffer (haw.symm.trans haw')

/-- The listed applications that stand for branches. -/
def listedAmong (branches : List Application) (groups : List WorkspaceGroup) :
    List ListedApplication :=
  (groups.flatMap (·.applications)).filter fun l => branches.any fun a => a.id == l.row

/-- Of the branches of an application the default one is listed, once, under the id for clients and
in the group of a workspace, and none is listed if there is no default one. -/
structure ListsMain (w : Workspace) (id main : Json) (branches : List Application)
    (groups : List WorkspaceGroup) : Prop where
  once : ∀ a ∈ branches, a.IsOn main → ∃ g ∈ groups, g.workspace = w ∧ ∃ l ∈ g.applications,
    l.row = a.id ∧ l.id = id ∧ listedAmong branches groups = [l]
  none : (∀ a ∈ branches, ¬ a.IsOn main) → listedAmong branches groups = []

/-- The first group is the one of a workspace, and in it the applications with an id come first,
with the default branch among them if there is one. -/
def BeginsWith (w : Workspace) (id main : Json) (branches : List Application)
    (groups : List WorkspaceGroup) : Prop :=
  ∃ g others front rest, groups = g :: others ∧ g.workspace = w ∧
    g.applications = front ++ rest ∧ (∀ l ∈ front, l.id.same id = true) ∧
      (∀ l ∈ rest, l.id.same id = false) ∧
        ∀ a ∈ branches, a.IsOn main → ∃ l ∈ front, l.row = a.id

section branches

variable {w : Workspace} {id main : Json} {branches : List Application}

/-- **An application on Git is listed once**, by its default branch. -/
theorem IsExact.listsMain (h : IsExact s user recentWorkspaces recentApplications groups)
    (hw : w ∈ s.workspaces.rows) (hmember : s.isMember w.id user = true)
    (hbranches : s.AreBranches w.id id main branches) : ListsMain w id main branches groups := by
  -- a listed application among the branches stands for the default one
  have hdefault : ∀ l ∈ groups.flatMap (·.applications),
      (branches.any fun a => a.id == l.row) = true →
        ∃ a ∈ branches, a.IsOn main ∧ l.row = a.id := by
    intro l hl hany
    obtain ⟨g, hg, hl⟩ := List.mem_flatMap.mp hl
    obtain ⟨a, ⟨ha, -, hvisible⟩, hshows⟩ := (h.groups g hg).sound l hl
    obtain ⟨b, hb, hrow⟩ := List.any_eq_true.mp hany
    have hid : b.id = a.id := (beq_iff_eq.mp hrow).trans hshows.spec.2.1
    obtain rfl : b = a := Table.eq_of_id_eq (hbranches.row b hb) ha hid
    exact ⟨b, hb, (hbranches.isVisible_iff hb).mp hvisible, hshows.spec.2.1⟩
  -- if the default branch is there it is listed and alone; otherwise none is listed
  constructor
  · intro a ha hon
    obtain ⟨g, hg, rfl⟩ := h.complete w hw hmember
    obtain ⟨l, hl, hshows⟩ := (h.groups g hg).complete a
      ⟨hbranches.row a ha, hbranches.within a ha, (hbranches.isVisible_iff ha).mpr hon⟩
    obtain ⟨hid, hrow, -⟩ := hshows.spec
    refine ⟨g, hg, rfl, l, hl, hrow, ?_, ?_⟩
    · exact Except.ok.inj (hid.symm.trans (hbranches.clientId ha))
    · refine filter_eq_singleton h.nodup_row (List.mem_flatMap.mpr ⟨g, hg, hl⟩) ?_ ?_
      · exact List.any_eq_true.mpr ⟨a, ha, by simp [hrow]⟩
      · intro l' hl' hany
        obtain ⟨b, hb, hon', hrow'⟩ := hdefault l' hl' hany
        rw [hrow', hrow, hbranches.distinct b hb a ha (hon'.trans hon.symm)]
  · intro hnone
    refine List.filter_eq_nil_iff.mpr fun l hl hany => ?_
    obtain ⟨a, ha, hon, -⟩ := hdefault l hl hany
    exact hnone a ha hon

/-- A row on the default branch is listed in its workspace, whatever the order is. -/
theorem exists_mem_shownGroup (h : s.WellShaped user recentWorkspaces recentApplications)
    (hmember : s.isMember w.id user = true) (hbranches : s.AreBranches w.id id main branches)
    {a : Application} (ha : a ∈ branches) (hon : a.IsOn main) (recent : List Json) :
    ∃ l ∈ (shownGroup s user recent w).applications, l.row = a.id ∧ l.id = id := by
  have hwithin := hbranches.within a ha
  rw [← hwithin] at hmember
  obtain ⟨plain, hlisted⟩ := h.ofApplication_ok (hbranches.row a ha) hmember
  obtain ⟨hid, hrow, hworkspace⟩ := ListedApplication.ofApplication_spec hlisted
  have hplain : plain ∈ s.listedFor user := Store.mem_listedFor.mpr
    ⟨a, hbranches.row a ha, hmember, (hbranches.isVisible_iff ha).mpr hon, hlisted⟩
  refine ⟨_, mem_shownGroup.mpr ⟨plain, hplain, hworkspace.trans hwithin, rfl⟩, hrow, ?_⟩
  exact Except.ok.inj (hid.symm.trans (hbranches.clientId ha))

/-- The group of a workspace with the id for clients of an application moved to its front. -/
theorem beginsWith_promote (h : s.WellShaped user recentWorkspaces recentApplications)
    (hmember : s.isMember w.id user = true) (hbranches : s.AreBranches w.id id main branches)
    (hid : id.IsScalar) (recent : List Json) (others : List WorkspaceGroup) :
    BeginsWith w id main branches ((shownGroup s user recent w).promote id :: others) := by
  refine ⟨_, others, _, _, rfl, rfl, rfl, ?_, ?_, ?_⟩
  · exact fun l hl => (List.mem_filter.mp hl).2
  · intro l hl
    simpa using (List.mem_filter.mp hl).2
  · intro a ha hon
    obtain ⟨l, hl, hrow, rfl⟩ := exists_mem_shownGroup h hmember hbranches ha hon recent
    exact ⟨l, List.mem_filter.mpr ⟨hl, hid.same_self⟩, hrow⟩

/-- **Any branch stands for the application**: whatever the recency lists of a user hold, the
homepage lists of the branches of an application on Git the default one and no other; recording any
of them is recording any other one; and once any of them has been recorded, be it listed or not, the
homepage begins with the workspace of the application, and there with what is listed under its
id. -/
theorem branches_opened (site : Site) (u : User)
    (h : site.store.WellShaped u.id recentWorkspaces recentApplications)
    (hw : w ∈ site.store.workspaces.rows) (hmember : site.store.isMember w.id u.id = true)
    (hbranches : site.store.AreBranches w.id id main branches) (url url' : Option String) :
    (∃ homepage site', (build (.user u) url).exec site = (.ok homepage, site') ∧
        ListsMain w id main branches homepage.groups) ∧
      (∀ a ∈ branches, ∀ b ∈ branches, ∀ viewer s,
        (Remembrance.recordRecent viewer a).exec s = (Remembrance.recordRecent viewer b).exec s) ∧
        (1 ≤ site.settings.recentLimit → ∀ a ∈ branches, ∃ data site₁ after site₂,
          (Remembrance.recordRecent (.user u) a).exec site = (.ok data, site₁) ∧
            (build (.user u) url').exec site₁ = (.ok after, site₂) ∧
              BeginsWith w id main branches after.groups) := by
  refine ⟨?_, ?_, ?_⟩
  · obtain ⟨homepage, site', hbuild, -, hexact⟩ := build_exact site u h url
    exact ⟨homepage, site', hbuild, hexact.listsMain hw hmember hbranches⟩
  -- what is recorded is the id of the application, which all branches share
  · intro a ha b hb viewer s
    rw [hbranches.recordRecent_eq ha hb]
  · intro hlimit a ha
    -- also a hidden branch is known by the id, under which the default branch is listed
    have hwithin := hbranches.within a ha
    obtain ⟨id', hid', hscalar⟩ := GitMetadata.clientId_ok (Json.isScalar_int a.id)
      (h.metadata a (hbranches.row a ha) (by rw [hwithin]; exact hmember))
    obtain rfl : id' = id := Except.ok.inj (hid'.symm.trans (hbranches.clientId ha))
    obtain ⟨store, hrecord, hrow, hsame⟩ :=
      Remembrance.exec_recordRecent_ok (recordable h hid' hscalar)
    rw [hwithin] at hrow
    obtain ⟨after, site₂, hafter, kept, rest, hgroups⟩ := build_touched h.showable hscalar
      (Store.mem_workspacesOf.mpr ⟨hw, hmember⟩) hlimit ({ site with store }.noting
        (Remembrance.creation site.store u.id ++
          [Event.recentApplicationRecorded u.id id' a.workspace])) hsame hrow rfl rfl url'
    refine ⟨_, _, after, site₂, hrecord, hafter, ?_⟩
    rw [hgroups]
    exact beginsWith_promote h hmember hbranches hscalar kept rest

end branches

/-- The rows of the application on Git of the small store: the default branch, then another one. -/
def sampleBranches : List Application := Store.sample.applications.rows.tail

theorem sample_areBranches :
    Store.sample.AreBranches 2 (.text "main") (.text "main") sampleBranches where
  row a ha := List.mem_of_mem_tail ha
  within a ha := by
    rcases ha with _ | ⟨_, _ | ⟨_, ⟨⟩⟩⟩ <;> rfl
  named a ha := by
    rcases ha with _ | ⟨_, _ | ⟨_, ⟨⟩⟩⟩ <;> rfl
  truthy := by decide
  default a ha := by
    rcases ha with _ | ⟨_, _ | ⟨_, ⟨⟩⟩⟩ <;> rfl
  mainName := Or.inl ⟨"main", by decide, rfl⟩
  branch a ha := by
    rcases ha with _ | ⟨_, _ | ⟨_, ⟨⟩⟩⟩
    · exact ⟨_, rfl, Or.inl ⟨"main", by decide, rfl⟩⟩
    · exact ⟨_, rfl, Or.inl ⟨"next", by decide, rfl⟩⟩
  distinct a ha b hb h := by
    rcases ha with _ | ⟨_, _ | ⟨_, ⟨⟩⟩⟩ <;> rcases hb with _ | ⟨_, _ | ⟨_, ⟨⟩⟩⟩
    · rfl
    · exact absurd (Json.text.inj (Except.ok.inj h)) (by decide)
    · exact absurd (Json.text.inj (Except.ok.inj h)) (by decide)
    · rfl

theorem branches_opened_sample :
    Store.sample.AreBranches 2 (.text "main") (.text "main") sampleBranches ∧
      (∃ homepage site', (build (.user { id := 1, username := "ada" }) none).exec
          { store := Store.sample } = (.ok homepage, site') ∧
        ∃ l, l.row = 2 ∧ l.id = .text "main" ∧ listedAmong sampleBranches homepage.groups = [l]) ∧
      ∃ hidden ∈ sampleBranches, hidden.id = 3 ∧ ∃ data site₁ after site₂,
        (Remembrance.recordRecent (.user { id := 1, username := "ada" }) hidden).exec
            { store := Store.sample } = (.ok data, site₁) ∧
          (build (.user { id := 1, username := "ada" }) none).exec site₁ = (.ok after, site₂) ∧
            BeginsWith ⟨2, "Two", "two", ⟨0⟩, ⟨0⟩⟩ (.text "main") (.text "main") sampleBranches
              after.groups := by
  obtain ⟨⟨homepage, site', hbuild, hlists⟩, -, hrecorded⟩ :=
    branches_opened { store := Store.sample } { id := 1, username := "ada" }
      Store.sample_wellShaped (w := ⟨2, "Two", "two", ⟨0⟩, ⟨0⟩⟩)
      (List.Mem.tail _ (List.Mem.head _)) rfl sample_areBranches none none
  obtain ⟨g, -, -, l, -, hrow, hid, honly⟩ := hlists.once _ (List.Mem.head _) rfl
  refine ⟨sample_areBranches, ⟨homepage, site', hbuild, l, hrow, hid, honly⟩, ?_⟩
  exact ⟨_, List.Mem.tail _ (List.Mem.head _), rfl,
    hrecorded (by decide) _ (List.Mem.tail _ (List.Mem.head _))⟩

end Homepage

end WorkspaceHome
