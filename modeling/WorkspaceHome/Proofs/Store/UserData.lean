import Mathlib.Data.List.Find
import WorkspaceHome.Proofs.Store.Table
import WorkspaceHome.Store.Query
import WorkspaceHome.Store.Write

/-!
# What is remembered of a user

A user of whom nothing is stored is treated as if a fresh row were (`Store.remembered`). Two stores
may differ in what is remembered of one user alone (`Store.SameBut`): then all other tables are the
same, and so are the rows of all other users.
-/

namespace WorkspaceHome

/-- What follows a permission happens if it is given. -/
theorem allow_bind {α : Type} (allowed : Bool) (f : Unit → Except Failure α) :
    (allow allowed >>= f) = if allowed = true then f () else .error .constraint := by
  cases allowed <;> rfl

/-! ### Values that can be saved -/

/-- A value that the store can keep as a recency list. -/
def isKeepable (v : Json) : Bool := !(v matches .null) && isStorable v

theorem isKeepable_list {items : List Json} :
    isKeepable (.list items) = Json.everywhereItems Json.isFinite items := by
  simp [isKeepable, isStorable, Json.everywhere, Json.isFinite]

namespace UserDataFields

variable {fields : UserDataFields} {d d' : UserData}

/-- What is remembered of a user with fields assigned, whether or not it can be saved. -/
def assignedTo (fields : UserDataFields) (d : UserData) : UserData :=
  { d with
    recentWorkspaces := fields.recentWorkspaces.getD d.recentWorkspaces
    recentApplications := fields.recentApplications.getD d.recentApplications
    viewedVersion := fields.viewedVersion.getD d.viewedVersion }

theorem applyTo_eq (fields : UserDataFields) (d : UserData) :
    fields.applyTo d =
      if isKeepable (fields.assignedTo d).recentWorkspaces = true ∧
          isKeepable (fields.assignedTo d).recentApplications = true then
        .ok (fields.assignedTo d)
      else .error .constraint := by
  unfold applyTo isKeepable
  simp only [allow_bind, assignedTo, Bool.and_eq_true]
  split_ifs with hnull hstorable hboth hboth hboth
  · rfl
  · exact absurd ⟨⟨hnull.1, hstorable.1⟩, hnull.2, hstorable.2⟩ hboth
  · exact absurd ⟨hboth.1.2, hboth.2.2⟩ hstorable
  · rfl
  · exact absurd ⟨hboth.1.1, hboth.2.1⟩ hnull
  · rfl

theorem applyTo_ok (hw : isKeepable (fields.assignedTo d).recentWorkspaces = true)
    (ha : isKeepable (fields.assignedTo d).recentApplications = true) :
    fields.applyTo d = .ok (fields.assignedTo d) := by
  rw [applyTo_eq, if_pos ⟨hw, ha⟩]

theorem eq_of_applyTo (h : fields.applyTo d = .ok d') : d' = fields.assignedTo d := by
  rw [applyTo_eq] at h
  split_ifs at h
  exact (Except.ok.inj h).symm

end UserDataFields

/-! ### The row of a user -/

/-- What is remembered, apart from the id of the row. -/
def UserData.content (d : UserData) : UserData := { d with id := 0 }

namespace Store

/-- What is remembered of a user, or would be in a new row. -/
def remembered (s : Store) (user : ℕ) (now : Timestamp) : UserData :=
  (s.dataOf? user).getD (freshData s.userData.next user now)

theorem user_of_dataOf? {s : Store} {user : ℕ} {d : UserData} (h : s.dataOf? user = some d) :
    d.user = user := by
  simpa using List.find?_some h

theorem remembered_user (s : Store) (user : ℕ) (now : Timestamp) :
    (s.remembered user now).user = user := by
  unfold remembered
  cases h : s.dataOf? user with
  | none => rfl
  | some d => exact user_of_dataOf? h

theorem remembered_of_dataOf? {s : Store} {user : ℕ} {d : UserData} (h : s.dataOf? user = some d)
    (now : Timestamp) : s.remembered user now = d := by
  rw [remembered, h, Option.getD_some]

/-- Two stores differ at most in what is remembered of a user. -/
structure SameBut (user : ℕ) (s s' : Store) : Prop where
  users : s'.users = s.users
  workspaces : s'.workspaces = s.workspaces
  memberships : s'.memberships = s.memberships
  applications : s'.applications = s.applications
  pages : s'.pages = s.pages
  others : (s'.userData.rows.filter fun d => d.user != user) =
    s.userData.rows.filter fun d => d.user != user

namespace SameBut

variable {user : ℕ} {s s' s'' : Store}

theorem refl (user : ℕ) (s : Store) : SameBut user s s := ⟨rfl, rfl, rfl, rfl, rfl, rfl⟩

theorem trans (h : SameBut user s s') (h' : SameBut user s' s'') : SameBut user s s'' :=
  ⟨h'.users.trans h.users, h'.workspaces.trans h.workspaces, h'.memberships.trans h.memberships,
    h'.applications.trans h.applications, h'.pages.trans h.pages, h'.others.trans h.others⟩

/-- The memberships are the same. -/
theorem isMember_eq (h : SameBut user s s') (workspace member : ℕ) :
    s'.isMember workspace member = s.isMember workspace member := by
  unfold isMember
  rw [h.memberships]

/-- What is remembered of other users is the same. -/
theorem dataOf?_eq (h : SameBut user s s') {other : ℕ} (hne : other ≠ user) :
    s'.dataOf? other = s.dataOf? other := by
  have hfind (t : Store) : t.dataOf? other =
      (t.userData.rows.filter fun d => d.user != user).find? fun d => d.user == other := by
    unfold dataOf?
    rw [List.find?_filter]
    congr 1
    funext d
    by_cases hd : d.user = other
    · simp [hd, hne]
    · simp [hd]
  rw [hfind, hfind, h.others]

end SameBut

end Store

end WorkspaceHome
