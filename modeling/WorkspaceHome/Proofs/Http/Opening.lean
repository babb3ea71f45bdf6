import WorkspaceHome.Proofs.Homepage.Opening
import WorkspaceHome.Proofs.Http.Lookup

/-!
# The id that clients are shown

Clients are sent the id of an application as a text, and send it back as a segment of a path when
they open the application. Where the applications that a user sees are known by the ids of their
rows (`Store.KnownByOwnIds`), what is sent back finds the application that was sent, and the next
homepage begins with it (`entry_opened`).
-/

namespace WorkspaceHome

open Service

/-- The applications that a user sees are known to clients by the ids of their rows: metadata that
name an id name the one of the row, as a number or as a text. The metadata are `null` or objects,
the page references are lists of objects, and the ids are numbers that the store can hold. -/
structure Store.KnownByOwnIds (s : Store) (user : ℕ) : Prop where
  metadata : ∀ a ∈ s.applications.rows, s.isMember a.workspace user = true →
    a.gitMetadata = .null ∨ ∃ members, a.gitMetadata = .object members
  pages : ∀ a ∈ s.applications.rows, s.isMember a.workspace user = true → a.pages.IsRefList
  publishedPages : ∀ a ∈ s.applications.rows, s.isMember a.workspace user = true →
    a.publishedPages.IsRefList
  own : ∀ a ∈ s.applications.rows, s.isMember a.workspace user = true →
    GitMetadata.isVisible a.gitMetadata = .ok true →
      ∀ id, a.gitMetadata.member "defaultApplicationId" = .ok id → id.truthy = true →
        id = .int a.id ∨ id = .text (toString a.id)
  numbers : ∀ a ∈ s.applications.rows, s.isMember a.workspace user = true →
    Json.fitsStore a.id = true

/-! ### Ids of rows -/

namespace Json

/-- A value is the id of a row, as a number or as a text. -/
def IsIdOf (v : Json) (row : ℕ) : Prop := v = .int row ∨ v = .text (toString row)

variable {v w : Json} {m n : ℕ}

theorem IsIdOf.isScalar (h : v.IsIdOf n) : v.IsScalar := by
  rcases h with rfl | rfl
  · exact isScalar_int n
  · exact ⟨rfl, rfl⟩

/-- The id of a row is sent as the numeral of the id. -/
theorem IsIdOf.sentAsText (h : v.IsIdOf n) : v.sentAsText = .text (toString n) := by
  rcases h with rfl | rfl
  · rfl
  · rfl

/-- Equal ids are those of one row. -/
theorem IsIdOf.eq_of_same (hv : v.IsIdOf m) (hw : w.IsIdOf n) (h : v.same w = true) : m = n := by
  rcases hv with rfl | rfl <;> rcases hw with rfl | rfl
  · rw [same_int_int, decide_eq_true_eq] at h
    exact Int.ofNat.inj h
  · simp [same, sameScalar, number?] at h
  · simp [same, sameScalar, number?] at h
  · simp only [same, sameScalar, beq_iff_eq] at h
    exact Numeral.toString_injective h

/-- The numeral of a number that the store can hold can be read. -/
theorem length_toString_of_fitsStore (h : fitsStore n = true) :
    (toString n).length ≤ Numeral.digitLimit := by
  have hn : n < 10 ^ 19 := by
    simp only [fitsStore, Bool.and_eq_true, decide_eq_true_eq] at h
    omega
  have hlength := Nat.repr_length n 19 (by decide) hn
  exact hlength.trans (by decide)

end Json

namespace Store.KnownByOwnIds

variable {s : Store} {user : ℕ} {recentWorkspaces recentApplications : List Json}

/-- An application that the user sees is listed under the id of its row. -/
theorem ofApplication (h : s.KnownByOwnIds user) {a : Application} (ha : a ∈ s.applications.rows)
    (hmember : s.isMember a.workspace user = true)
    (hvisible : GitMetadata.isVisible a.gitMetadata = .ok true) :
    ∃ l, ListedApplication.ofApplication a = .ok l ∧ l.id.IsIdOf a.id := by
  obtain ⟨id, hid⟩ := GitMetadata.clientId_total (.int a.id) (h.metadata a ha hmember)
  obtain ⟨l, hl⟩ := ListedApplication.ofApplication_of_clientId hid (h.pages a ha hmember)
    (h.publishedPages a ha hmember)
  obtain rfl : l.id = id :=
    Except.ok.inj ((ListedApplication.ofApplication_spec hl).1.symm.trans hid)
  refine ⟨l, hl, ?_⟩
  rcases GitMetadata.clientId_cases hid with hown | ⟨hnamed, htruthy⟩
  · exact Or.inl hown
  · exact h.own a ha hmember hvisible l.id hnamed htruthy

/-- What is stored for the user can be shown. -/
theorem showable (h : s.KnownByOwnIds user)
    (hremembers : s.Remembers user recentWorkspaces recentApplications) :
    s.Showable user recentWorkspaces recentApplications where
  toRemembers := hremembers
  visible a ha hmember := GitMetadata.isVisible_total (h.metadata a ha hmember)
  listed a ha hmember hvisible := by
    obtain ⟨l, hl, hid⟩ := h.ofApplication ha hmember hvisible
    exact ⟨l, hl, hid.isScalar⟩

end Store.KnownByOwnIds

namespace Homepage

variable {s : Store} {user : ℕ} {recent kept : List Json}

/-- An application in a group stands for a row of the workspace of the group, under its id. -/
theorem row_of_mem_shownGroup (h : s.KnownByOwnIds user) {w : Workspace} {l : ListedApplication}
    (hl : l ∈ (shownGroup s user recent w).applications) :
    ∃ a ∈ s.applications.rows, a.workspace = w.id ∧ s.isMember a.workspace user = true ∧
      l.row = a.id ∧ l.id.IsIdOf a.id ∧
        GitMetadata.clientId (.int a.id) a.gitMetadata = .ok l.id := by
  obtain ⟨plain, hplain, hworkspace, rfl⟩ := mem_shownGroup.mp hl
  obtain ⟨a, ha, hmember, hvisible, hlisted⟩ := Store.mem_listedFor.mp hplain
  obtain ⟨hid, hrow, hin⟩ := ListedApplication.ofApplication_spec hlisted
  obtain ⟨plain', hlisted', hown⟩ := h.ofApplication ha hmember hvisible
  obtain rfl : plain = plain' := Except.ok.inj (hlisted.symm.trans hlisted')
  exact ⟨a, ha, hin.symm.trans hworkspace, hmember, hrow, hown, hid⟩

/-- An application whose id is moved to the front is the first one of its group, whatever the order
of the group was. -/
theorem promote_shownGroup (h : s.KnownByOwnIds user) {w : Workspace} {l : ListedApplication}
    (hl : l ∈ (shownGroup s user recent w).applications) :
    ∃ entries, ((shownGroup s user kept w).promote l.id).applications = l :: entries := by
  have hl' : l ∈ (shownGroup s user kept w).applications :=
    mem_shownGroup.mpr (mem_shownGroup.mp hl)
  obtain ⟨a, -, -, -, hrow, hid, -⟩ := row_of_mem_shownGroup h hl
  -- no other row of the group has the id
  have hfilter : ((shownGroup s user kept w).applications.filter fun l' => l'.id.same l.id) =
      [l] := by
    refine filter_eq_singleton (nodup_row_groupOf w) hl' hid.isScalar.same_self ?_
    intro l'' hl'' hsame
    obtain ⟨b, -, -, -, hrow', hid', -⟩ := row_of_mem_shownGroup h hl''
    rw [hrow, hrow', hid'.eq_of_same hid hsame]
  unfold WorkspaceGroup.promote
  dsimp only
  rw [hfilter]
  exact ⟨_, rfl⟩

end Homepage

namespace Http

open Homepage Recency

variable {u : User} {recentWorkspaces recentApplications : List Json}

/-- **Opening an application by a key that denotes its id** is answered with 204, and the
application is recorded. -/
theorem recentApplication_denoted {site : Site} {key : String}
    (hremembers : site.store.Remembers u.id recentWorkspaces recentApplications) {a : Application}
    (ha : a ∈ site.store.applications.rows)
    (hmember : site.store.isMember a.workspace u.id = true) (hkey : Key.Denotes key a.id)
    {id : Json} (hid : GitMetadata.clientId (.int a.id) a.gitMetadata = .ok id)
    (hscalar : id.IsScalar) {r : Request} (hr : r.Asks u "POST" (recentPath key)) :
    ∃ response site' d, (serve r).exec site = (.ok response, site') ∧ response.status = 204 ∧
      Store.SameBut u.id site.store site'.store ∧ site'.store.dataOf? u.id = some d ∧
        d.recentWorkspaces =
          .list (touch recentWorkspaces (.int a.workspace) site.settings.recentLimit) ∧
        d.recentApplications = .list (touch recentApplications id site.settings.recentLimit) := by
  -- decimal digits only, so the key is one segment of the path
  have hslash : '/' ∉ key.toList := fun hc => absurd (hkey.isSome_digitValue? hc) (by decide)
  have hreaches : r.reaches = some (.recentApplication key) :=
    hr.reaches (at?_recentPath hkey.nonempty hslash) rfl
  obtain ⟨outcome, hfind, hends⟩ := Applications.exec_find (.text key) u (r.within site)
  have hfound : outcome = .ok a := (hends.isExact.found a).mpr
    ⟨fun h => h.not_denotes hkey, Applications.selects_of_denotes ha hkey, hmember⟩
  rw [hfound] at hfind
  -- both lists can be touched and stored, so that recording does not fail
  have hrecordable : Remembrance.Recordable (r.within site) u a id _ _ :=
    recordable_of_remembers hremembers hid (Json.everywhere_isFinite_of_isScalar hscalar)
  obtain ⟨store, hrecord, hrow, hsame⟩ := Remembrance.exec_recordRecent_ok hrecordable
  obtain ⟨⟨response, hresponse, hstatus⟩, hstore⟩ :=
    serve_recentApplication_ok hreaches hr.viewer hr.id hfind hrecord
  rcases hserve : (serve r).exec site with ⟨outcome, site'⟩
  rw [hserve] at hresponse hstore
  obtain rfl : outcome = .ok response := hresponse
  obtain rfl : site'.store = store := hstore
  exact ⟨response, site', _, rfl, hstatus, hsame, hrow, rfl, rfl⟩

/-- **The id that clients are shown leads back to the application**: whatever the recency lists of a
user hold, sending back the id of any application on the homepage is answered with 204, and the next
homepage begins with the workspace of the application, and that group with the application. -/
theorem entry_opened (site : Site) (u : User) (h : site.store.KnownByOwnIds u.id)
    (hremembers : site.store.Remembers u.id recentWorkspaces recentApplications)
    (hlimit : 1 ≤ site.settings.recentLimit) (url url' : Option String) :
    ∃ before site₁, (build (.user u) url).exec site = (.ok before, site₁) ∧
      ∀ g ∈ before.groups, ∀ l ∈ g.applications, ∃ key, l.id.sentAsText = .text key ∧
        ∀ r : Request, r.Asks u "POST" (recentPath key) →
          ∃ response site₂ after site₃, (serve r).exec site₁ = (.ok response, site₂) ∧
            response.status = 204 ∧ (build (.user u) url').exec site₂ = (.ok after, site₃) ∧
              ∃ first others entries, after.groups = first :: others ∧
                first.workspace = g.workspace ∧ first.applications = l :: entries := by
  -- the homepage before leaves the recency lists, so they are what the recording starts from
  have hshowable := h.showable hremembers
  obtain ⟨before, site₁, hbefore, -, hgroups⟩ := build_showable site hshowable url
  obtain ⟨hsame, hremembers₁, hsettings⟩ := remembers_built hremembers hbefore
  refine ⟨before, site₁, hbefore, ?_⟩
  intro g hg l hl
  rw [hgroups] at hg
  obtain ⟨w, hw, rfl⟩ := List.mem_map.mp hg
  have hw := (mem_orderedWorkspaces fun v hv => (hremembers.workspaceIds v hv).1).mp hw
  obtain ⟨a, ha, haw, hmember, hrow, hown, hid⟩ := row_of_mem_shownGroup h hl
  -- the id that is shown is the own id of the row, as a number or as a text
  have hdenotes : Key.Denotes (toString a.id) a.id :=
    Key.denotes_toString (Json.length_toString_of_fitsStore (h.numbers a ha hmember))
  refine ⟨toString a.id, hown.sentAsText, fun r hr => ?_⟩
  obtain ⟨response, site₂, d, hserve, hstatus, hsame₂, hrow₂, hworkspaces, happlications⟩ :=
    recentApplication_denoted hremembers₁ (hsame.applications ▸ ha)
      ((hsame.isMember_eq a.workspace u.id).trans hmember) hdenotes hid hown.isScalar hr
  rw [haw, hsettings] at hworkspaces
  rw [hsettings] at happlications
  obtain ⟨after, site₃, hafter, kept, rest, hfirst⟩ := build_touched hshowable hown.isScalar
    (Store.mem_workspacesOf.mpr hw) hlimit site₂ (hsame.trans hsame₂) hrow₂ hworkspaces
    happlications url'
  -- no other entry of the group has this id, so the one in front is the entry itself
  obtain ⟨entries, hentries⟩ := promote_shownGroup h hl
  exact ⟨response, site₂, after, site₃, hserve, hstatus, hafter, _, rest, entries, hfirst, rfl,
    hentries⟩

/-- A row of the application on Git of the small store, which is known by the row of the default
branch. -/
def sampleBranch (id : ℕ) (branch : String) : Application :=
  { id, workspace := 2, name := "B", slug := "b"
    gitMetadata := .object [("branchName", .text branch), ("defaultBranchName", .text "main"),
      ("defaultApplicationId", .text "2")] }

/-- The small store with these rows. -/
def sampleOwn : Store :=
  { Store.sample with
    applications :=
      ((Table.empty.insert { id := 1, workspace := 1, name := "Own", slug := "own" } rfl).insert
        (sampleBranch 2 "main") rfl).insert (sampleBranch 3 "next") rfl }

theorem sampleOwn_knownByOwnIds : sampleOwn.KnownByOwnIds sampleMember.id := by
  have hrows : ∀ a ∈ sampleOwn.applications.rows,
      (a.gitMetadata = .null ∨ ∃ members, a.gitMetadata = .object members) ∧ a.pages = .list [] ∧
        a.publishedPages = .list [] ∧ Json.fitsStore a.id = true ∧
          (GitMetadata.isVisible a.gitMetadata = .ok true →
            ∀ id, a.gitMetadata.member "defaultApplicationId" = .ok id →
              id = .text (toString a.id)) := by
    intro a ha
    rcases ha with _ | ⟨_, _ | ⟨_, _ | ⟨_, ⟨⟩⟩⟩⟩
    · exact ⟨Or.inl rfl, rfl, rfl, by decide, nofun⟩
    · exact ⟨Or.inr ⟨_, rfl⟩, rfl, rfl, by decide, fun _ id hid => (Except.ok.inj hid).symm⟩
    · exact ⟨Or.inr ⟨_, rfl⟩, rfl, rfl, by decide, nofun⟩
  have hnone : Json.IsRefList (.list []) := ⟨[], rfl, fun _ h => absurd h List.not_mem_nil⟩
  exact
    { metadata := fun a ha _ => (hrows a ha).1
      pages := fun a ha _ => (hrows a ha).2.1 ▸ hnone
      publishedPages := fun a ha _ => (hrows a ha).2.2.1 ▸ hnone
      own := fun a ha _ hvisible id hid _ => Or.inr ((hrows a ha).2.2.2.2 hvisible id hid)
      numbers := fun a ha _ => (hrows a ha).2.2.2.1 }

/-- The group of the application on Git on the homepage of the small store. -/
def sampleGroup : WorkspaceGroup :=
  shownGroup sampleOwn sampleMember.id [.text "main"] ⟨2, "Two", "two", ⟨0⟩, ⟨0⟩⟩

/-- The row of the default branch is on the homepage. -/
theorem exists_mem_sampleGroup : ∃ l ∈ sampleGroup.applications, l.id = .text "2" := by
  have hplain : ∃ plain, ListedApplication.ofApplication (sampleBranch 2 "main") = .ok plain ∧
      plain.id = .text "2" ∧ plain.workspace = 2 := ⟨_, rfl, rfl, rfl⟩
  obtain ⟨plain, hplain, hid, hworkspace⟩ := hplain
  have hlisted : plain ∈ sampleOwn.listedFor sampleMember.id := Store.mem_listedFor.mpr
    ⟨sampleBranch 2 "main", List.Mem.tail _ (List.Mem.head _), rfl, rfl, hplain⟩
  exact ⟨_, mem_shownGroup.mpr ⟨plain, hlisted, hworkspace, rfl⟩, hid⟩

theorem entry_opened_sample :
    sampleOwn.KnownByOwnIds sampleMember.id ∧
      ∃ before site₁ response site₂ after site₃ first others l entries,
        (build (.user sampleMember) none).exec { store := sampleOwn } = (.ok before, site₁) ∧
          (serve (sampleAsking "POST" "/api/v1/applications/2/recent/")).exec site₁ =
            (.ok response, site₂) ∧ response.status = 204 ∧
          (build (.user sampleMember) none).exec site₂ = (.ok after, site₃) ∧
            after.groups = first :: others ∧ first.workspace.id = 2 ∧ l.id = .text "2" ∧
              first.applications = l :: entries := by
  have hsample := Store.sample_wellShaped.remembers
  have hremembers : sampleOwn.Remembers sampleMember.id [.int 2] [.text "main"] :=
    ⟨hsample.workspaceList, hsample.applicationList, hsample.workspaceIds, hsample.applicationIds⟩
  obtain ⟨before, site₁, hbefore, hentries⟩ := entry_opened { store := sampleOwn } sampleMember
    sampleOwn_knownByOwnIds hremembers (by decide) none none
  -- the user is a member of the second workspace, so its group is on the homepage
  have hg : sampleGroup ∈ before.groups := by
    obtain ⟨before', site₁', hbefore', -, hgroups⟩ := build_showable { store := sampleOwn }
      (sampleOwn_knownByOwnIds.showable hremembers) none
    obtain rfl : before' = before :=
      Except.ok.inj (congrArg Prod.fst (hbefore'.symm.trans hbefore))
    rw [hgroups]
    refine List.mem_map.mpr ⟨_, (mem_orderedWorkspaces ?_).mpr ⟨?_, rfl⟩, rfl⟩
    · exact fun v hv => (hremembers.workspaceIds v hv).1
    · exact List.Mem.tail _ (List.Mem.head _)
  obtain ⟨l, hl, hid⟩ := exists_mem_sampleGroup
  obtain ⟨key, hkey, hopened⟩ := hentries _ hg l hl
  obtain rfl : "2" = key := by
    rw [hid] at hkey
    exact Json.text.inj hkey
  obtain ⟨response, site₂, after, site₃, hserve, hstatus, hafter, first, others, entries, hfirst,
    hworkspace, happlications⟩ := hopened (sampleAsking "POST" "/api/v1/applications/2/recent/")
      ⟨rfl, by decide +kernel, by decide +kernel,
        Option.isNone_iff_eq_none.mp (by decide +kernel), by decide +kernel⟩
  exact ⟨sampleOwn_knownByOwnIds, before, site₁, response, site₂, after, site₃, first, others, l,
    entries, hbefore, hserve, hstatus, hafter, hfirst, by rw [hworkspace]; rfl, hid, happlications⟩

end Http

end WorkspaceHome
