import WorkspaceHome.Homepage.Basic
import WorkspaceHome.Proofs.Fallible
import WorkspaceHome.Proofs.Homepage.Shown
import WorkspaceHome.Proofs.Json.Everywhere
import WorkspaceHome.Proofs.Recency.Distinct

/-!
# Stores of the right shape

The store keeps any values in the fields for recency lists, Git metadata and page references. Where
those that concern a user are of the right shape (`Store.WellShaped`), every application of the
user's workspaces is either shown or not (`isVisible_ok`) and can be listed (`ofApplication_ok`).
-/

namespace WorkspaceHome

/-! ### Shapes of values -/

namespace Json

/-- A value of a JSON text that holds no others. -/
def IsScalar (v : Json) : Prop := v.isScalarValue = true ∧ v.isFinite = true

/-- `null`, or an object whose default application, if it names one, is a scalar. -/
def IsMetadata (v : Json) : Prop :=
  v = .null ∨ ∃ members, v = .object members ∧
    ∀ id, lookup "defaultApplicationId" members = some id → id.IsScalar

/-- A list of objects. -/
def IsRefList (v : Json) : Prop :=
  ∃ refs, v = .list refs ∧ ∀ ref ∈ refs, ∃ members, ref = .object members

theorem isScalar_int (n : ℤ) : (Json.int n).IsScalar := ⟨rfl, rfl⟩

theorem IsScalar.same_self {v : Json} (h : v.IsScalar) : v.same v = true := Json.same_self h.1 h.2

theorem everywhere_isFinite_of_isScalar {v : Json} (h : v.IsScalar) :
    v.everywhere isFinite = true := by
  obtain ⟨hscalar, hfinite⟩ := h
  cases v with
  | list items => cases hscalar
  | object members => cases hscalar
  | _ => exact hfinite

/-- A list of scalars can be stored. -/
theorem everywhereItems_isFinite {ids : List Json} (h : ∀ id ∈ ids, id.IsScalar) :
    everywhereItems isFinite ids = true :=
  everywhereItems_iff.mpr fun id hid => everywhere_isFinite_of_isScalar (h id hid)

end Json

theorem Recency.scalars_of_isScalar {ids : List Json} (h : ∀ id ∈ ids, id.IsScalar) :
    Recency.Scalars ids :=
  fun id hid => (h id hid).1

/-! ### What the shapes are good for -/

namespace GitMetadata

/-- `null` and objects settle whether a row is shown. -/
theorem isVisible_total {metadata : Json}
    (h : metadata = .null ∨ ∃ members, metadata = .object members) :
    ∃ b, isVisible metadata = .ok b := by
  rcases h with rfl | ⟨members, rfl⟩
  · exact ⟨true, rfl⟩
  · unfold isVisible branch defaultBranch Json.member
    dsimp only [Functor.map, Except.map, bind, Except.bind]
    split
    · exact ⟨true, rfl⟩
    · exact ⟨_, rfl⟩
    · exact ⟨false, rfl⟩

/-- `null` and objects give an id for clients. -/
theorem clientId_total (own : Json) {metadata : Json}
    (h : metadata = .null ∨ ∃ members, metadata = .object members) :
    ∃ id, clientId own metadata = .ok id := by
  unfold clientId
  rcases h with rfl | ⟨members, rfl⟩
  · exact ⟨own, rfl⟩
  · split_ifs
    · exact ⟨_, rfl⟩
    · exact ⟨own, rfl⟩

theorem isObject_of_isMetadata {metadata : Json} (h : metadata.IsMetadata) :
    metadata = .null ∨ ∃ members, metadata = .object members :=
  h.imp_right fun ⟨members, hobject, _⟩ => ⟨members, hobject⟩

/-- Metadata of the right shape settle whether a row is shown. -/
theorem isVisible_ok {metadata : Json} (h : metadata.IsMetadata) :
    ∃ b, isVisible metadata = .ok b :=
  isVisible_total (isObject_of_isMetadata h)

/-- Metadata of the right shape give an id for clients, which is a scalar. -/
theorem clientId_ok {own metadata : Json} (hown : own.IsScalar) (h : metadata.IsMetadata) :
    ∃ id, clientId own metadata = .ok id ∧ id.IsScalar := by
  obtain ⟨id, hid⟩ := clientId_total own (isObject_of_isMetadata h)
  refine ⟨id, hid, ?_⟩
  rcases clientId_cases hid with rfl | ⟨hmember, htruthy⟩
  · exact hown
  · rcases h with rfl | ⟨members, rfl, hscalar⟩
    · cases hmember
    · obtain rfl : (Json.lookup "defaultApplicationId" members).getD .null = id :=
        Except.ok.inj hmember
      -- a member that is missing counts as false
      cases hlookup : Json.lookup "defaultApplicationId" members with
      | none =>
        rw [hlookup] at htruthy
        cases htruthy
      | some named => exact hscalar named hlookup

end GitMetadata

/-- A list of objects can be read as page references. -/
theorem PageRef.listOfStored_ok {v : Json} (h : v.IsRefList) :
    ∃ refs, PageRef.listOfStored v = .ok refs := by
  obtain ⟨refs, rfl, hrefs⟩ := h
  unfold listOfStored
  split_ifs
  · refine ⟨_, mapM_eq_ok_filterMap ?_⟩
    intro ref href
    obtain ⟨members, rfl⟩ := hrefs ref href
    exact ⟨_, rfl⟩
  · exact ⟨[], rfl⟩

namespace ListedApplication

/-- An application with an id for clients and two lists of page references can be listed. -/
theorem ofApplication_of_clientId {a : Application} {id : Json}
    (hid : GitMetadata.clientId (.int a.id) a.gitMetadata = .ok id)
    (hpages : a.pages.IsRefList) (hpublished : a.publishedPages.IsRefList) :
    ∃ l, ofApplication a = .ok l := by
  obtain ⟨pages, hpages⟩ := PageRef.listOfStored_ok hpages
  obtain ⟨published, hpublished⟩ := PageRef.listOfStored_ok hpublished
  unfold ofApplication
  rw [hid, hpages, hpublished]
  exact ⟨_, rfl⟩

/-- An application of the right shape can be listed. -/
theorem ofApplication_ok {a : Application} (hmetadata : a.gitMetadata.IsMetadata)
    (hpages : a.pages.IsRefList) (hpublished : a.publishedPages.IsRefList) :
    ∃ l, ofApplication a = .ok l := by
  obtain ⟨id, hid, -⟩ := GitMetadata.clientId_ok (Json.isScalar_int a.id) hmetadata
  exact ofApplication_of_clientId hid hpages hpublished

/-- What a listed application has from its row. -/
theorem ofApplication_spec {a : Application} {l : ListedApplication}
    (h : ofApplication a = .ok l) :
    GitMetadata.clientId (.int a.id) a.gitMetadata = .ok l.id ∧ l.row = a.id ∧
      l.workspace = a.workspace := by
  unfold ofApplication at h
  cases hid : GitMetadata.clientId (.int a.id) a.gitMetadata with
  | error e =>
    rw [hid] at h
    cases h
  | ok id =>
    cases hpages : PageRef.listOfStored a.pages with
    | error e =>
      rw [hid, hpages] at h
      cases h
    | ok pages =>
      cases hpublished : PageRef.listOfStored a.publishedPages with
      | error e =>
        rw [hid, hpages, hpublished] at h
        cases h
      | ok published =>
        rw [hid, hpages, hpublished] at h
        cases h
        exact ⟨rfl, rfl, rfl⟩

end ListedApplication

/-! ### Shapes of stores -/

/-- What is stored for a user is of the right shape: the two recency lists, which are lists of
scalars, and the metadata and the page references of all applications in the user's workspaces. -/
structure Store.WellShaped (s : Store) (user : ℕ)
    (recentWorkspaces recentApplications : List Json) : Prop where
  workspaceList : s.recentOf user (·.recentWorkspaces) = .list recentWorkspaces
  applicationList : s.recentOf user (·.recentApplications) = .list recentApplications
  workspaceIds : ∀ id ∈ recentWorkspaces, id.IsScalar
  applicationIds : ∀ id ∈ recentApplications, id.IsScalar
  metadata : ∀ a ∈ s.applications.rows, s.isMember a.workspace user = true →
    a.gitMetadata.IsMetadata
  pages : ∀ a ∈ s.applications.rows, s.isMember a.workspace user = true → a.pages.IsRefList
  publishedPages : ∀ a ∈ s.applications.rows, s.isMember a.workspace user = true →
    a.publishedPages.IsRefList

namespace Store

variable {s : Store} {user : ℕ} {recentWorkspaces recentApplications : List Json}

theorem WellShaped.ofApplication_ok (h : s.WellShaped user recentWorkspaces recentApplications)
    {a : Application} (ha : a ∈ s.applications.rows)
    (hmember : s.isMember a.workspace user = true) :
    ∃ l, ListedApplication.ofApplication a = .ok l :=
  ListedApplication.ofApplication_ok (h.metadata a ha hmember) (h.pages a ha hmember)
    (h.publishedPages a ha hmember)

/-- The recency lists that are remembered are those that are stored. -/
theorem remembered_recent (s : Store) (user : ℕ) (now : Timestamp) :
    (s.remembered user now).recentWorkspaces = s.recentOf user (·.recentWorkspaces) ∧
      (s.remembered user now).recentApplications = s.recentOf user (·.recentApplications) := by
  unfold remembered recentOf
  cases s.dataOf? user <;> exact ⟨rfl, rfl⟩

/-- What is remembered of a user are two lists of scalars. -/
structure Remembers (s : Store) (user : ℕ) (recentWorkspaces recentApplications : List Json) :
    Prop where
  workspaceList : s.recentOf user (·.recentWorkspaces) = .list recentWorkspaces
  applicationList : s.recentOf user (·.recentApplications) = .list recentApplications
  workspaceIds : ∀ id ∈ recentWorkspaces, id.IsScalar
  applicationIds : ∀ id ∈ recentApplications, id.IsScalar

/-- What is remembered of a user are two lists of scalars if these are in the row of the user. -/
theorem remembers_of_row {d : UserData} (hrow : s.dataOf? user = some d)
    (hworkspaces : d.recentWorkspaces = .list recentWorkspaces)
    (happlications : d.recentApplications = .list recentApplications)
    (hws : ∀ id ∈ recentWorkspaces, id.IsScalar) (has : ∀ id ∈ recentApplications, id.IsScalar) :
    s.Remembers user recentWorkspaces recentApplications := by
  refine ⟨?_, ?_, hws, has⟩
  · rw [recentOf, hrow]
    exact hworkspaces
  · rw [recentOf, hrow]
    exact happlications

/-- The viewed version of a user can be fixed. -/
theorem Remembers.viewable (h : s.Remembers user recentWorkspaces recentApplications)
    (now : Timestamp) : Remembrance.Viewable (s.remembered user now) := by
  obtain ⟨hw, ha⟩ := remembered_recent s user now
  right
  rw [hw, ha, h.workspaceList, h.applicationList, isKeepable_list, isKeepable_list]
  exact ⟨Json.everywhereItems_isFinite h.workspaceIds,
    Json.everywhereItems_isFinite h.applicationIds⟩

/-- What is stored for a user can be shown: the metadata in the user's workspaces settle which rows
are shown, and these can be listed under scalars. -/
structure Showable (s : Store) (user : ℕ) (recentWorkspaces recentApplications : List Json) : Prop
    extends s.Remembers user recentWorkspaces recentApplications where
  visible : ∀ a ∈ s.applications.rows, s.isMember a.workspace user = true →
    ∃ b, GitMetadata.isVisible a.gitMetadata = .ok b
  listed : ∀ a ∈ s.applications.rows, s.isMember a.workspace user = true →
    GitMetadata.isVisible a.gitMetadata = .ok true →
      ∃ l, ListedApplication.ofApplication a = .ok l ∧ l.id.IsScalar

theorem WellShaped.remembers (h : s.WellShaped user recentWorkspaces recentApplications) :
    s.Remembers user recentWorkspaces recentApplications :=
  ⟨h.workspaceList, h.applicationList, h.workspaceIds, h.applicationIds⟩

/-- What is of the right shape can be shown. -/
theorem WellShaped.showable (h : s.WellShaped user recentWorkspaces recentApplications) :
    s.Showable user recentWorkspaces recentApplications where
  toRemembers := h.remembers
  visible a ha hmember := GitMetadata.isVisible_ok (h.metadata a ha hmember)
  listed a ha hmember _ := by
    obtain ⟨l, hl⟩ := h.ofApplication_ok ha hmember
    obtain ⟨id, hid, hscalar⟩ :=
      GitMetadata.clientId_ok (Json.isScalar_int a.id) (h.metadata a ha hmember)
    obtain rfl : id = l.id :=
      Except.ok.inj (hid.symm.trans (ListedApplication.ofApplication_spec hl).1)
    exact ⟨l, hl, hscalar⟩

theorem WellShaped.viewable (h : s.WellShaped user recentWorkspaces recentApplications)
    (now : Timestamp) : Remembrance.Viewable (s.remembered user now) :=
  h.remembers.viewable now

/-! ### A small store -/

/-- The store of one user with two workspaces: an application without Git in the first one, and in
the second one an application on its default branch, known as `main`, and on another branch. -/
def sample : Store where
  users := Table.empty.insert { id := 1, username := "ada" } rfl
  workspaces :=
    (Table.empty.insert ⟨1, "One", "one", ⟨0⟩, ⟨0⟩⟩ rfl).insert ⟨2, "Two", "two", ⟨0⟩, ⟨0⟩⟩ rfl
  memberships := (Table.empty.insert ⟨1, 1, 1, "administrator"⟩ rfl).insert ⟨2, 2, 1, "viewer"⟩ rfl
  applications :=
    ((Table.empty.insert { id := 1, workspace := 1, name := "A", slug := "a" } rfl).insert
      { id := 2, workspace := 2, name := "B", slug := "b"
        gitMetadata := .object [("branchName", .text "main"), ("defaultBranchName", .text "main"),
          ("defaultApplicationId", .text "main")] } rfl).insert
      { id := 3, workspace := 2, name := "B", slug := "b"
        gitMetadata := .object [("branchName", .text "next"), ("defaultBranchName", .text "main"),
          ("defaultApplicationId", .text "main")] } rfl
  userData := Table.empty.insert
    { id := 1, user := 1, recentWorkspaces := .list [.int 2]
      recentApplications := .list [.text "main"], createdAt := ⟨0⟩, updatedAt := ⟨0⟩ } rfl

theorem sample_wellShaped : sample.WellShaped 1 [.int 2] [.text "main"] := by
  have hrows : ∀ a ∈ sample.applications.rows, a.gitMetadata.IsMetadata ∧ a.pages = .list [] ∧
      a.publishedPages = .list [] := by
    intro a ha
    rcases ha with _ | ⟨_, _ | ⟨_, _ | ⟨_, ⟨⟩⟩⟩⟩
    · exact ⟨Or.inl rfl, rfl, rfl⟩
    · refine ⟨Or.inr ⟨_, rfl, ?_⟩, rfl, rfl⟩
      rintro id ⟨⟩
      exact ⟨rfl, rfl⟩
    · refine ⟨Or.inr ⟨_, rfl, ?_⟩, rfl, rfl⟩
      rintro id ⟨⟩
      exact ⟨rfl, rfl⟩
  exact
    { workspaceList := rfl
      applicationList := rfl
      workspaceIds := fun id hid => by rw [List.mem_singleton.mp hid]; exact ⟨rfl, rfl⟩
      applicationIds := fun id hid => by rw [List.mem_singleton.mp hid]; exact ⟨rfl, rfl⟩
      metadata := fun a ha _ => (hrows a ha).1
      pages := fun a ha _ => ⟨[], (hrows a ha).2.1, fun _ h => absurd h List.not_mem_nil⟩
      publishedPages := fun a ha _ => ⟨[], (hrows a ha).2.2, fun _ h => absurd h List.not_mem_nil⟩ }

end Store

end WorkspaceHome
