import WorkspaceHome.Operation.Amendment
import WorkspaceHome.Proofs.Store.Keys
import WorkspaceHome.Proofs.Store.Revision
import WorkspaceHome.Proofs.Store.Write

/-!
# Single changes of a store

All that can happen to a store at once is a `Store.Step`: a row is saved in one of the six tables,
where it has its keys for itself and refers to rows that are there, or rows are deleted. Every write
to the store that is allowed is such a step, if the rows that it names are there; and a row that is
saved in its place is there afterwards.
-/

namespace WorkspaceHome

/-- The workspace and the user of a membership. -/
def Membership.pair (m : Membership) : ℕ × ℕ := (m.workspace, m.user)

namespace Store

/-- A single change of a store. A workspace that is saved keeps the date of its creation. -/
inductive Step (s : Store) : Store → Prop where
  | user {u : User} {users : Table User} (saved : s.users.Saves (fun _ => ()) u users)
      (username : s.users.Free User.username u) : Step s { s with users }
  | workspace {w : Workspace} {workspaces : Table Workspace}
      (saved : s.workspaces.Saves Workspace.createdAt w workspaces)
      (name : s.workspaces.Free Workspace.name w) (slug : s.workspaces.Free Workspace.slug w) :
      Step s { s with workspaces }
  | membership {m : Membership} {memberships : Table Membership}
      (saved : s.memberships.Saves (fun _ => ()) m memberships)
      (pair : s.memberships.Free Membership.pair m) (workspace : s.workspaces.Has m.workspace)
      (user : s.users.Has m.user) : Step s { s with memberships }
  | application {a : Application} {applications : Table Application}
      (saved : s.applications.Saves (fun _ => ()) a applications)
      (workspace : s.workspaces.Has a.workspace) : Step s { s with applications }
  | page {p : Page} {pages : Table Page} (saved : s.pages.Saves (fun _ => ()) p pages)
      (application : s.applications.Has p.application) : Step s { s with pages }
  | userData {d : UserData} {userData : Table UserData}
      (saved : s.userData.Saves (fun _ => ()) d userData) (owner : s.userData.Free UserData.user d)
      (user : s.users.Has d.user) : Step s { s with userData }
  | removeMember (workspace user : ℕ) : Step s (s.removeMember workspace user).2
  | erase (table : TableName) (id : ℕ) : Step s (table.erase s id)

variable {s s' : Store} {now : Timestamp}

/-! ### Users -/

theorem step_addUser {username email firstName lastName : String} {u : User}
    (h : s.addUser username email firstName lastName = .ok (u, s')) : s.Step s' := by
  obtain ⟨_, hfree, h⟩ := bind_eq_ok_iff.mp h
  cases h
  refine .user (Table.saves_insert _ rfl) fun v hv _ => ?_
  simpa using allow_not_any_iff.mp hfree v hv

theorem step_saveUser {id : ℕ} {fields : UserFields} (h : s.saveUser id fields = .ok s') :
    s.Step s' := by
  obtain ⟨u, hfound, h⟩ := bind_eq_ok_iff.mp h
  obtain ⟨hu, rfl⟩ := Table.find?_eq_some_iff.mp (existing_eq_ok_iff.mp hfound)
  obtain ⟨_, hfree, h⟩ := bind_eq_ok_iff.mp h
  cases h
  refine .user (Table.saves_modify hu _ rfl) fun v hv hne => ?_
  have hother := allow_not_any_iff.mp hfree v hv
  rw [Bool.and_eq_false_imp] at hother
  simpa using hother (bne_iff_ne.mpr hne)

/-! ### Workspaces -/

/-- A workspace has a name and a slug for itself if they are free for its id. -/
theorem free_of_isFree {w : Workspace} (h : s.isFree w.id w.name w.slug = true) :
    s.workspaces.Free Workspace.name w ∧ s.workspaces.Free Workspace.slug w := by
  rw [isFree_iff] at h
  exact ⟨fun v hv hne hname => hne (h v hv (Or.inl hname)),
    fun v hv hne hslug => hne (h v hv (Or.inr hslug))⟩

theorem step_addWorkspace {name slug : Option String} {w : Workspace}
    (h : s.addWorkspace name slug now = .ok (w, s')) : s.Step s' := by
  obtain ⟨name, -, h⟩ := bind_eq_ok_iff.mp h
  obtain ⟨_, hfree, h⟩ := bind_eq_ok_iff.mp h
  cases h
  obtain ⟨hname, hslug⟩ := free_of_isFree (allow_eq_ok_iff.mp hfree)
  exact .workspace (Table.saves_insert _ rfl) hname hslug

theorem step_saveWorkspace {id : ℕ} {fields : WorkspaceFields}
    (h : s.saveWorkspace id fields now = .ok s') : s.Step s' ∧ s'.workspaces.Has id := by
  obtain ⟨w, hfound, h⟩ := bind_eq_ok_iff.mp h
  obtain ⟨hw, rfl⟩ := Table.find?_eq_some_iff.mp (existing_eq_ok_iff.mp hfound)
  obtain ⟨name, -, h⟩ := bind_eq_ok_iff.mp h
  obtain ⟨_, hfree, h⟩ := bind_eq_ok_iff.mp h
  cases h
  have hkeys := free_of_isFree (w := { w with
    name, slug := savedSlug (fields.slug.getD (some w.slug)) name }) (allow_eq_ok_iff.mp hfree)
  exact ⟨.workspace (Table.saves_modify hw _ rfl) hkeys.1 hkeys.2,
    Table.has_of_rows_map hw rfl rfl⟩

/-! ### Memberships -/

theorem pair_ne_of_any {m n : Membership}
    (h : (n.workspace == m.workspace && n.user == m.user) = false) : n.pair ≠ m.pair := by
  intro hpair
  obtain ⟨hworkspace, huser⟩ := Prod.mk.inj hpair
  rw [hworkspace, huser] at h
  simp at h

theorem step_addMember {workspace user : ℕ} {role : Option String} {m : Membership}
    (h : s.addMember workspace user role = .ok (m, s')) (hworkspace : s.workspaces.Has workspace)
    (huser : s.users.Has user) : s.Step s' := by
  obtain ⟨role, -, h⟩ := bind_eq_ok_iff.mp h
  obtain ⟨_, hfree, h⟩ := bind_eq_ok_iff.mp h
  cases h
  refine .membership (Table.saves_insert _ rfl) (fun n hn _ => ?_) hworkspace huser
  exact pair_ne_of_any (allow_not_any_iff.mp hfree n hn)

/-- A field that is assigned refers to a row that is there if the value that is given does, or else
the value from before. -/
theorem has_getD {α : Type} [Row α] {t : Table α} {given : Option ℕ} {old : ℕ}
    (hgiven : ∀ n, given = some n → t.Has n) (hold : t.Has old) : t.Has (given.getD old) := by
  cases given with
  | none => exact hold
  | some n => exact hgiven n rfl

theorem step_saveMember {id : ℕ} {fields : MembershipFields}
    (h : s.saveMember id fields = .ok s')
    (hworkspaces : s.memberships.Refers Membership.workspace s.workspaces)
    (husers : s.memberships.Refers Membership.user s.users)
    (hworkspace : ∀ n, fields.workspace = some n → s.workspaces.Has n)
    (huser : ∀ n, fields.user = some n → s.users.Has n) :
    s.Step s' ∧ s'.memberships.Has id := by
  obtain ⟨m, hfound, h⟩ := bind_eq_ok_iff.mp h
  obtain ⟨hm, rfl⟩ := Table.find?_eq_some_iff.mp (existing_eq_ok_iff.mp hfound)
  obtain ⟨role, -, h⟩ := bind_eq_ok_iff.mp h
  obtain ⟨_, hfree, h⟩ := bind_eq_ok_iff.mp h
  cases h
  refine ⟨.membership (Table.saves_modify hm _ rfl) (fun n hn hne => ?_)
    (has_getD hworkspace (hworkspaces m hm)) (has_getD huser (husers m hm)),
    Table.has_of_rows_map hm rfl rfl⟩
  have hother := allow_not_any_iff.mp hfree n hn
  rw [Bool.and_assoc, Bool.and_eq_false_imp] at hother
  exact pair_ne_of_any (hother (bne_iff_ne.mpr hne))

/-! ### Applications -/

/-- An application stays in its workspace unless it is given another one. -/
theorem workspace_of_applyTo {fields : ApplicationFields} {a a' : Application}
    (h : fields.applyTo a = .ok a') : a'.workspace = fields.workspace.getD a.workspace := by
  obtain ⟨name, -, h⟩ := bind_eq_ok_iff.mp h
  obtain ⟨isPublic, -, h⟩ := bind_eq_ok_iff.mp h
  obtain ⟨_, -, h⟩ := bind_eq_ok_iff.mp h
  obtain ⟨_, -, h⟩ := bind_eq_ok_iff.mp h
  cases h
  rfl

theorem step_addApplication {workspace : ℕ} {fields : ApplicationFields} {a : Application}
    (h : s.addApplication workspace fields = .ok (a, s')) (hnone : fields.workspace = none)
    (hworkspace : s.workspaces.Has workspace) : s.Step s' := by
  obtain ⟨a, ha, h⟩ := bind_eq_ok_iff.mp h
  cases h
  have hkept := workspace_of_applyTo ha
  rw [hnone] at hkept
  exact .application (Table.saves_insert _ rfl) (hkept ▸ hworkspace)

theorem step_saveApplication {id : ℕ} {fields : ApplicationFields}
    (h : s.saveApplication id fields = .ok s')
    (hworkspaces : s.applications.Refers Application.workspace s.workspaces)
    (hworkspace : ∀ n, fields.workspace = some n → s.workspaces.Has n) :
    s.Step s' ∧ s'.applications.Has id := by
  obtain ⟨old, hfound, h⟩ := bind_eq_ok_iff.mp h
  obtain ⟨hold, rfl⟩ := Table.find?_eq_some_iff.mp (existing_eq_ok_iff.mp hfound)
  obtain ⟨a, ha, h⟩ := bind_eq_ok_iff.mp h
  cases h
  refine ⟨.application (Table.saves_modify hold _ rfl) ?_, Table.has_of_rows_map hold rfl rfl⟩
  rw [workspace_of_applyTo ha]
  exact has_getD hworkspace (hworkspaces old hold)

/-! ### Pages -/

/-- Fields that are assigned to a page leave it in its application. -/
theorem application_of_applyTo {fields : PageFields} {p p' : Page}
    (h : fields.applyTo p = .ok p') : p'.application = p.application := by
  obtain ⟨name, -, h⟩ := bind_eq_ok_iff.mp h
  cases h
  rfl

theorem step_addPage {application : ℕ} {fields : PageFields} {p : Page}
    (h : s.addPage application fields = .ok (p, s'))
    (happlication : s.applications.Has application) : s.Step s' := by
  obtain ⟨p, hp, h⟩ := bind_eq_ok_iff.mp h
  cases h
  exact .page (Table.saves_insert _ rfl) (application_of_applyTo hp ▸ happlication)

theorem step_savePage {id : ℕ} {fields : PageFields} (h : s.savePage id fields = .ok s')
    (happlications : s.pages.Refers Page.application s.applications) :
    s.Step s' ∧ s'.pages.Has id := by
  obtain ⟨old, hfound, h⟩ := bind_eq_ok_iff.mp h
  obtain ⟨hold, rfl⟩ := Table.find?_eq_some_iff.mp (existing_eq_ok_iff.mp hfound)
  obtain ⟨p, hp, h⟩ := bind_eq_ok_iff.mp h
  cases h
  refine ⟨.page (Table.saves_modify hold _ rfl) ?_, Table.has_of_rows_map hold rfl rfl⟩
  rw [application_of_applyTo hp]
  exact happlications old hold

theorem step_movePage {id application : ℕ} (h : s.movePage id application = .ok s')
    (happlication : s.applications.Has application) : s.Step s' ∧ s'.pages.Has id := by
  obtain ⟨p, hfound, h⟩ := bind_eq_ok_iff.mp h
  obtain ⟨hp, rfl⟩ := Table.find?_eq_some_iff.mp (existing_eq_ok_iff.mp hfound)
  cases h
  exact ⟨.page (Table.saves_modify hp _ rfl) happlication, Table.has_of_rows_map hp rfl rfl⟩

/-! ### What is remembered of users -/

/-- A revision is a step, whether it makes the row of the user or changes it. -/
theorem step_revise {user : ℕ} (hdistinct : s.userData.Distinct UserData.user)
    (huser : s.users.Has user) (r : Revision) : s.Step (s.revise user now r) := by
  cases hrow : s.dataOf? user with
  | none =>
    rw [revise_of_none hrow]
    refine .userData (Table.saves_insert _ _) (fun d hd _ => ?_) ?_
    · rw [r.user_eq]
      have hother := List.find?_eq_none.mp hrow d hd
      exact fun heq => hother (beq_iff_eq.mpr heq)
    · rw [r.user_eq]
      exact huser
  | some old =>
    rw [revise_of_some hrow]
    have hold := List.mem_of_find?_eq_some hrow
    refine .userData (Table.saves_modify hold _ rfl) (fun d hd hne heq => ?_) ?_
    · rw [r.user_eq] at heq
      rw [r.id_eq] at hne
      exact hne (congrArg Row.id (hdistinct d hd old hold heq))
    · rw [r.user_eq, user_of_dataOf? hrow]
      exact huser

theorem step_saveUserData {user : ℕ} {fields : UserDataFields}
    (h : s.saveUserData user fields now = .ok s')
    (hdistinct : s.userData.Distinct UserData.user) (huser : s.users.Has user) : s.Step s' := by
  cases happly : fields.applyTo (s.remembered user now) with
  | error e =>
    rw [saveUserData_error happly] at h
    cases h
  | ok d =>
    rw [saveUserData_eq happly] at h
    cases h
    exact step_revise hdistinct huser _

theorem step_handOver {id user : ℕ} (h : s.handOver id user now = .ok s')
    (huser : s.users.Has user) : s.Step s' := by
  obtain ⟨d, hfound, h⟩ := bind_eq_ok_iff.mp h
  obtain ⟨hd, rfl⟩ := Table.find?_eq_some_iff.mp (existing_eq_ok_iff.mp hfound)
  obtain ⟨_, hfree, h⟩ := bind_eq_ok_iff.mp h
  cases h
  refine .userData (Table.saves_modify hd _ rfl) (fun d' hd' hne => ?_) huser
  have hother := allow_not_any_iff.mp hfree d' hd'
  rw [Bool.and_eq_false_imp] at hother
  simpa using hother (bne_iff_ne.mpr hne)

end Store

end WorkspaceHome
