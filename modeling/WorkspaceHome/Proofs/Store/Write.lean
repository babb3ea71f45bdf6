import Mathlib.Data.Nat.Notation
import WorkspaceHome.Proofs.Fallible
import WorkspaceHome.Store.Write

/-!
# Which table a write changes

Every write to the store but the deletions changes a single table. A new workspace and a new
membership are added to theirs as they are told.
-/

namespace WorkspaceHome

/-! ### Guards -/

theorem allow_eq_ok_iff {allowed : Bool} : allow allowed = .ok () ↔ allowed = true := by
  cases allowed <;> simp [allow]

/-- What no row may be. -/
theorem allow_not_any_iff {α : Type} {rows : List α} {p : α → Bool} :
    allow (!rows.any p) = .ok () ↔ ∀ r ∈ rows, p r = false := by
  rw [allow_eq_ok_iff, Bool.not_eq_true', List.any_eq_false]
  simp only [Bool.not_eq_true]

theorem existing_eq_ok_iff {α : Type} {row : Option α} {r : α} :
    existing row = .ok r ↔ row = some r := by
  cases row <;> simp [existing]

namespace Store

variable {s s' : Store} {now : Timestamp}

/-- A name and a slug are free if only a workspace of the given id has one of them. -/
theorem isFree_iff {id : ℕ} {name slug : String} : s.isFree id name slug = true ↔
    ∀ v ∈ s.workspaces.rows, v.name = name ∨ v.slug = slug → v.id = id := by
  unfold isFree
  simp only [Bool.not_eq_true', List.any_eq_false, Bool.and_eq_true, Bool.or_eq_true, bne_iff_ne,
    beq_iff_eq, not_and', Decidable.not_not]

/-! ### Tables -/

theorem eq_of_addUser {username email firstName lastName : String} {u : User}
    (h : s.addUser username email firstName lastName = .ok (u, s')) :
    ∃ users, s' = { s with users } := by
  obtain ⟨-, -, h⟩ := bind_eq_ok_iff.mp h
  cases h
  exact ⟨_, rfl⟩

theorem eq_insert_of_addWorkspace {name slug : Option String} {w : Workspace}
    (h : s.addWorkspace name slug now = .ok (w, s')) :
    ∃ hw, s' = { s with workspaces := s.workspaces.insert w hw } := by
  obtain ⟨name, -, h⟩ := bind_eq_ok_iff.mp h
  obtain ⟨-, -, h⟩ := bind_eq_ok_iff.mp h
  cases h
  exact ⟨rfl, rfl⟩

theorem eq_of_addWorkspace {name slug : Option String} {w : Workspace}
    (h : s.addWorkspace name slug now = .ok (w, s')) :
    ∃ workspaces, s' = { s with workspaces } := by
  obtain ⟨_, rfl⟩ := eq_insert_of_addWorkspace h
  exact ⟨_, rfl⟩

theorem eq_of_saveWorkspace {id : ℕ} {fields : WorkspaceFields}
    (h : s.saveWorkspace id fields now = .ok s') : ∃ workspaces, s' = { s with workspaces } := by
  obtain ⟨w, -, h⟩ := bind_eq_ok_iff.mp h
  obtain ⟨name, -, h⟩ := bind_eq_ok_iff.mp h
  obtain ⟨-, -, h⟩ := bind_eq_ok_iff.mp h
  cases h
  exact ⟨_, rfl⟩

theorem eq_insert_of_addMember {workspace user : ℕ} {role : Option String} {m : Membership}
    (h : s.addMember workspace user role = .ok (m, s')) :
    m.workspace = workspace ∧ m.user = user ∧
      ∃ hm, s' = { s with memberships := s.memberships.insert m hm } := by
  obtain ⟨role, -, h⟩ := bind_eq_ok_iff.mp h
  obtain ⟨-, -, h⟩ := bind_eq_ok_iff.mp h
  cases h
  exact ⟨rfl, rfl, rfl, rfl⟩

theorem eq_of_addMember {workspace user : ℕ} {role : Option String} {m : Membership}
    (h : s.addMember workspace user role = .ok (m, s')) :
    ∃ memberships, s' = { s with memberships } := by
  obtain ⟨-, -, _, rfl⟩ := eq_insert_of_addMember h
  exact ⟨_, rfl⟩

theorem eq_of_addApplication {workspace : ℕ} {fields : ApplicationFields} {a : Application}
    (h : s.addApplication workspace fields = .ok (a, s')) :
    ∃ applications, s' = { s with applications } := by
  obtain ⟨a, -, h⟩ := bind_eq_ok_iff.mp h
  cases h
  exact ⟨_, rfl⟩

theorem eq_of_saveApplication {id : ℕ} {fields : ApplicationFields}
    (h : s.saveApplication id fields = .ok s') : ∃ applications, s' = { s with applications } := by
  obtain ⟨old, -, h⟩ := bind_eq_ok_iff.mp h
  obtain ⟨a, -, h⟩ := bind_eq_ok_iff.mp h
  cases h
  exact ⟨_, rfl⟩

theorem eq_of_addPage {application : ℕ} {fields : PageFields} {p : Page}
    (h : s.addPage application fields = .ok (p, s')) : ∃ pages, s' = { s with pages } := by
  obtain ⟨p, -, h⟩ := bind_eq_ok_iff.mp h
  cases h
  exact ⟨_, rfl⟩

theorem eq_of_savePage {id : ℕ} {fields : PageFields} (h : s.savePage id fields = .ok s') :
    ∃ pages, s' = { s with pages } := by
  obtain ⟨old, -, h⟩ := bind_eq_ok_iff.mp h
  obtain ⟨p, -, h⟩ := bind_eq_ok_iff.mp h
  cases h
  exact ⟨_, rfl⟩

theorem eq_of_saveUserData {user : ℕ} {fields : UserDataFields}
    (h : s.saveUserData user fields now = .ok s') : ∃ userData, s' = { s with userData } := by
  unfold saveUserData at h
  cases hrow : s.userData.rows.find? fun d => d.user == user with
  | none =>
    rw [hrow] at h
    obtain ⟨d, -, h⟩ := bind_eq_ok_iff.mp h
    cases h
    exact ⟨_, rfl⟩
  | some d =>
    rw [hrow] at h
    obtain ⟨new, -, h⟩ := bind_eq_ok_iff.mp h
    cases h
    exact ⟨_, rfl⟩

end Store

end WorkspaceHome
