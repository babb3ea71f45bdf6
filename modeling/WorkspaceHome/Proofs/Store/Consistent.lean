import WorkspaceHome.Proofs.Store.Step

/-!
# Consistent stores

A store is consistent (`Store.Consistent`) if what its rows have to have for themselves is theirs
alone, and all rows that they refer to are there. The store without rows is, and each single change
keeps a store consistent (`Store.Step.consistent`). No change uses an id again
(`Store.Step.follows`).
-/

namespace WorkspaceHome.Store

/-- The names of users, the names and the slugs of workspaces, the memberships of a user in a
workspace and the users of whom something is remembered are pairwise distinct, and every row refers
to rows that are there. -/
structure Consistent (s : Store) : Prop where
  usernames : s.users.Distinct User.username
  names : s.workspaces.Distinct Workspace.name
  slugs : s.workspaces.Distinct Workspace.slug
  pairs : s.memberships.Distinct Membership.pair
  owners : s.userData.Distinct UserData.user
  memberWorkspaces : s.memberships.Refers Membership.workspace s.workspaces
  memberUsers : s.memberships.Refers Membership.user s.users
  applicationWorkspaces : s.applications.Refers Application.workspace s.workspaces
  pageApplications : s.pages.Refers Page.application s.applications
  dataUsers : s.userData.Refers UserData.user s.users

/-- A store comes after another one: in each table, a row with an id from before is a row from
before, and a workspace also has the date of its creation from before. -/
structure Follows (s t : Store) : Prop where
  users : Table.Follows (fun _ => ()) s.users t.users
  workspaces : Table.Follows Workspace.createdAt s.workspaces t.workspaces
  memberships : Table.Follows (fun _ => ()) s.memberships t.memberships
  applications : Table.Follows (fun _ => ()) s.applications t.applications
  pages : Table.Follows (fun _ => ()) s.pages t.pages
  userData : Table.Follows (fun _ => ()) s.userData t.userData

variable {s t u : Store}

theorem consistent_empty : Consistent {} := by
  constructor <;> exact fun _ h => absurd h List.not_mem_nil

/-! ### Deleting -/

theorem Consistent.eraseUser (h : s.Consistent) (id : ℕ) : (s.eraseUser id).Consistent :=
  { h with
    usernames := h.usernames.filter _
    pairs := h.pairs.filter _
    owners := h.owners.filter _
    memberWorkspaces := h.memberWorkspaces.filter _
    memberUsers := h.memberUsers.erase_right id
    dataUsers := h.dataUsers.erase_right id }

theorem Consistent.eraseApplication (h : s.Consistent) (id : ℕ) :
    (s.eraseApplication id).Consistent :=
  { h with
    applicationWorkspaces := h.applicationWorkspaces.filter _
    pageApplications := h.pageApplications.erase_right id }

theorem Consistent.eraseWorkspace (h : s.Consistent) (id : ℕ) :
    (s.eraseWorkspace id).Consistent := by
  refine
    { h with
      names := h.names.filter _
      slugs := h.slugs.filter _
      pairs := h.pairs.filter _
      memberWorkspaces := h.memberWorkspaces.erase_right id
      memberUsers := h.memberUsers.filter _
      applicationWorkspaces := h.applicationWorkspaces.erase_right id
      pageApplications := ?_ }
  -- a page that stays belongs to an application of another workspace, which stays as well
  intro p hp
  obtain ⟨hp, hkept⟩ := List.mem_filter.mp hp
  obtain ⟨a, ha, hid⟩ := h.pageApplications p hp
  refine ⟨a, List.mem_filter.mpr ⟨ha, ?_⟩, hid⟩
  rw [Bool.not_eq_true', List.any_eq_false] at hkept
  have hother := hkept a ha
  rw [show a.id = p.application from hid, beq_self_eq_true, Bool.true_and] at hother
  rw [bne, Bool.not_eq_true']
  simpa using hother

theorem Consistent.erase (h : s.Consistent) (table : TableName) (id : ℕ) :
    (table.erase s id).Consistent := by
  cases table with
  | workspace => exact h.eraseWorkspace id
  | membership =>
    exact
      { h with
        pairs := h.pairs.filter _
        memberWorkspaces := h.memberWorkspaces.filter _
        memberUsers := h.memberUsers.filter _ }
  | application => exact h.eraseApplication id
  | page => exact { h with pageApplications := h.pageApplications.filter _ }
  | userData => exact { h with owners := h.owners.filter _, dataUsers := h.dataUsers.filter _ }
  | user => exact h.eraseUser id

/-! ### Single changes -/

/-- **A single change keeps a store consistent.** -/
theorem Step.consistent (hstep : s.Step t) (h : s.Consistent) : t.Consistent := by
  cases hstep with
  -- a saved row keeps what refers to its table, and its own references have been looked up
  | user saved username =>
    exact
      { h with
        usernames := h.usernames.saves saved username
        memberUsers := h.memberUsers.saves_right saved
        dataUsers := h.dataUsers.saves_right saved }
  | workspace saved name slug =>
    exact
      { h with
        names := h.names.saves saved name
        slugs := h.slugs.saves saved slug
        memberWorkspaces := h.memberWorkspaces.saves_right saved
        applicationWorkspaces := h.applicationWorkspaces.saves_right saved }
  | membership saved pair workspace user =>
    exact
      { h with
        pairs := h.pairs.saves saved pair
        memberWorkspaces := h.memberWorkspaces.saves saved workspace
        memberUsers := h.memberUsers.saves saved user }
  | application saved workspace =>
    exact
      { h with
        applicationWorkspaces := h.applicationWorkspaces.saves saved workspace
        pageApplications := h.pageApplications.saves_right saved }
  | page saved application =>
    exact { h with pageApplications := h.pageApplications.saves saved application }
  | userData saved owner user =>
    exact
      { h with
        owners := h.owners.saves saved owner
        dataUsers := h.dataUsers.saves saved user }
  -- nothing refers to a membership, so fewer of them break no reference
  | removeMember =>
    exact
      { h with
        pairs := h.pairs.filter _
        memberWorkspaces := h.memberWorkspaces.filter _
        memberUsers := h.memberUsers.filter _ }
  | erase table id => exact h.erase table id

theorem Follows.refl (s : Store) : s.Follows s :=
  ⟨.refl _ _, .refl _ _, .refl _ _, .refl _ _, .refl _ _, .refl _ _⟩

theorem Follows.trans (h : s.Follows t) (h' : t.Follows u) : s.Follows u :=
  ⟨h.users.trans h'.users, h.workspaces.trans h'.workspaces, h.memberships.trans h'.memberships,
    h.applications.trans h'.applications, h.pages.trans h'.pages, h.userData.trans h'.userData⟩

theorem follows_erase (s : Store) (table : TableName) (id : ℕ) : s.Follows (table.erase s id) := by
  cases table with
  | workspace =>
    exact
      { Follows.refl s with
        workspaces := .filter _ _ _
        memberships := .filter _ _ _
        applications := .filter _ _ _
        pages := .filter _ _ _ }
  | membership => exact { Follows.refl s with memberships := .filter _ _ _ }
  | application =>
    exact { Follows.refl s with applications := .filter _ _ _, pages := .filter _ _ _ }
  | page => exact { Follows.refl s with pages := .filter _ _ _ }
  | userData => exact { Follows.refl s with userData := .filter _ _ _ }
  | user =>
    exact
      { Follows.refl s with
        users := .filter _ _ _
        memberships := .filter _ _ _
        userData := .filter _ _ _ }

/-- **A single change uses no id again.** -/
theorem Step.follows (hstep : s.Step t) : s.Follows t := by
  cases hstep with
  | user saved => exact { Follows.refl s with users := .of_saves saved }
  | workspace saved => exact { Follows.refl s with workspaces := .of_saves saved }
  | membership saved => exact { Follows.refl s with memberships := .of_saves saved }
  | application saved => exact { Follows.refl s with applications := .of_saves saved }
  | page saved => exact { Follows.refl s with pages := .of_saves saved }
  | userData saved => exact { Follows.refl s with userData := .of_saves saved }
  | removeMember => exact { Follows.refl s with memberships := .filter _ _ _ }
  | erase table id => exact follows_erase s table id

/-! ### Rows that are gone -/

/-- A row of a store is gone from another one. A row is given by its table and its id. -/
def Gone (s t : Store) (row : TableName × ℕ) : Prop :=
  row.1.holds s row.2 = true ∧ row.1.holds t row.2 = false

/-- What is there before and after is there in between. -/
theorem Follows.holds_between (h : s.Follows t) (h' : t.Follows u) {table : TableName} {id : ℕ}
    (hbefore : table.holds s id = true) (hafter : table.holds u id = true) :
    table.holds t id = true := by
  simp only [TableName.holds] at *
  cases table <;> rw [← Table.has_iff_isSome] at *
  case workspace => exact h.workspaces.has_between h'.workspaces hbefore hafter
  case membership => exact h.memberships.has_between h'.memberships hbefore hafter
  case application => exact h.applications.has_between h'.applications hbefore hafter
  case page => exact h.pages.has_between h'.pages hbefore hafter
  case userData => exact h.userData.has_between h'.userData hbefore hafter
  case user => exact h.users.has_between h'.users hbefore hafter

/-- **A row that is gone does not come back.** -/
theorem Gone.follows {row : TableName × ℕ} (hgone : s.Gone t row) (h : s.Follows t)
    (h' : t.Follows u) : s.Gone u row := by
  refine ⟨hgone.1, Bool.eq_false_iff.mpr fun hback => ?_⟩
  have hbetween := h.holds_between h' hgone.1 hback
  rw [hgone.2] at hbetween
  cases hbetween

/-! ### Changes one after another -/

/-- A consistent store comes after another one. -/
structure LeadsTo (s t : Store) : Prop where
  consistent : t.Consistent
  follows : s.Follows t

theorem Consistent.leadsTo_self (h : s.Consistent) : s.LeadsTo s := ⟨h, Follows.refl s⟩

theorem Step.leadsTo (hstep : s.Step t) (h : s.Consistent) : s.LeadsTo t :=
  ⟨hstep.consistent h, hstep.follows⟩

theorem LeadsTo.trans (h : s.LeadsTo t) (h' : t.LeadsTo u) : s.LeadsTo u :=
  ⟨h'.consistent, h.follows.trans h'.follows⟩

end WorkspaceHome.Store
