import Mathlib.Logic.Relation
import WorkspaceHome.Proofs.Store.Consistent

/-!
# What is deleted with a row

A row refers to the rows whose ids it holds (`Store.targets`), and it belongs to all rows that it
refers to, directly or through others, and to itself (`Store.BelongsTo`). Deleting a row deletes
what belongs to it and nothing else (`Store.erase_without`), and ending a membership is deleting its
row (`Store.removeMember_eq`).
-/

namespace WorkspaceHome.Store

variable {s : Store}

/-! ### What belongs to a row -/

/-- The rows to which a row refers. A row is given by its table and its id. -/
def targets (s : Store) : TableName × ℕ → List (TableName × ℕ)
  | (.workspace, _) | (.user, _) => []
  | (.membership, id) =>
    (s.memberships.find? id).elim [] fun m => [(.workspace, m.workspace), (.user, m.user)]
  | (.application, id) => (s.applications.find? id).elim [] fun a => [(.workspace, a.workspace)]
  | (.page, id) => (s.pages.find? id).elim [] fun p => [(.application, p.application)]
  | (.userData, id) => (s.userData.find? id).elim [] fun d => [(.user, d.user)]

/-- A row belongs to itself and to all rows to which it refers, directly or through others. -/
def BelongsTo (s : Store) : TableName × ℕ → TableName × ℕ → Prop :=
  Relation.ReflTransGen fun row target => target ∈ s.targets row

variable {row owner : TableName × ℕ}

theorem belongsTo_iff :
    s.BelongsTo row owner ↔ row = owner ∨ ∃ next ∈ s.targets row, s.BelongsTo next owner :=
  Relation.ReflTransGen.cases_head_iff

/-- A row that refers to nothing belongs to itself alone. -/
theorem belongsTo_iff_of_nil (h : s.targets row = []) : s.BelongsTo row owner ↔ row = owner := by
  rw [belongsTo_iff, h]
  simp

theorem belongsTo_user_iff {id : ℕ} : s.BelongsTo (.user, id) owner ↔ (.user, id) = owner :=
  belongsTo_iff_of_nil rfl

theorem belongsTo_workspace_iff {id : ℕ} :
    s.BelongsTo (.workspace, id) owner ↔ (.workspace, id) = owner :=
  belongsTo_iff_of_nil rfl

theorem belongsTo_membership_iff {m : Membership} (hm : m ∈ s.memberships.rows) :
    s.BelongsTo (.membership, m.id) owner ↔
      (.membership, m.id) = owner ∨ (.workspace, m.workspace) = owner ∨
        (.user, m.user) = owner := by
  have hfound : s.memberships.find? m.id = some m := Table.find?_eq_some_iff.mpr ⟨hm, rfl⟩
  rw [belongsTo_iff]
  simp [targets, hfound, belongsTo_workspace_iff, belongsTo_user_iff]

theorem belongsTo_application_iff {a : Application} (ha : a ∈ s.applications.rows) :
    s.BelongsTo (.application, a.id) owner ↔
      (.application, a.id) = owner ∨ (.workspace, a.workspace) = owner := by
  have hfound : s.applications.find? a.id = some a := Table.find?_eq_some_iff.mpr ⟨ha, rfl⟩
  rw [belongsTo_iff]
  simp [targets, hfound, belongsTo_workspace_iff]

/-- What an id of an application belongs to, whether or not there is such an application. -/
theorem belongsTo_application_id_iff {id : ℕ} :
    s.BelongsTo (.application, id) owner ↔ (.application, id) = owner ∨
      ∃ a ∈ s.applications.rows, a.id = id ∧ (.workspace, a.workspace) = owner := by
  cases hfound : s.applications.find? id with
  | some a =>
    obtain ⟨ha, rfl⟩ := Table.find?_eq_some_iff.mp hfound
    refine (belongsTo_application_iff ha).trans (or_congr_right ⟨fun h => ⟨a, ha, rfl, h⟩, ?_⟩)
    rintro ⟨a', ha', hid, h⟩
    rwa [← Table.eq_of_id_eq ha' ha hid]
  | none =>
    have hnil : s.targets (.application, id) = [] := by simp [targets, hfound]
    rw [belongsTo_iff_of_nil hnil]
    refine (or_iff_left ?_).symm
    rintro ⟨a, ha, hid, -⟩
    rw [Table.find?_eq_some_iff.mpr ⟨ha, hid⟩] at hfound
    cases hfound

/-- A page belongs to its application, and with it to a workspace. -/
theorem belongsTo_page_iff {p : Page} (hp : p ∈ s.pages.rows) :
    s.BelongsTo (.page, p.id) owner ↔
      (.page, p.id) = owner ∨ (.application, p.application) = owner ∨
        ∃ a ∈ s.applications.rows, a.id = p.application ∧ (.workspace, a.workspace) = owner := by
  have hfound : s.pages.find? p.id = some p := Table.find?_eq_some_iff.mpr ⟨hp, rfl⟩
  rw [belongsTo_iff]
  simp [targets, hfound, belongsTo_application_id_iff]

theorem belongsTo_userData_iff {d : UserData} (hd : d ∈ s.userData.rows) :
    s.BelongsTo (.userData, d.id) owner ↔
      (.userData, d.id) = owner ∨ (.user, d.user) = owner := by
  have hfound : s.userData.find? d.id = some d := Table.find?_eq_some_iff.mpr ⟨hd, rfl⟩
  rw [belongsTo_iff]
  simp [targets, hfound, belongsTo_user_iff]

/-! ### Deleting a row -/

/-- What is left of a store without some of its rows. -/
structure Without (s : Store) (gone : TableName × ℕ → Prop) (t : Store) : Prop where
  users : ∀ u, u ∈ t.users.rows ↔ u ∈ s.users.rows ∧ ¬ gone (.user, u.id)
  workspaces : ∀ w, w ∈ t.workspaces.rows ↔ w ∈ s.workspaces.rows ∧ ¬ gone (.workspace, w.id)
  memberships : ∀ m, m ∈ t.memberships.rows ↔
    m ∈ s.memberships.rows ∧ ¬ gone (.membership, m.id)
  applications : ∀ a, a ∈ t.applications.rows ↔
    a ∈ s.applications.rows ∧ ¬ gone (.application, a.id)
  pages : ∀ p, p ∈ t.pages.rows ↔ p ∈ s.pages.rows ∧ ¬ gone (.page, p.id)
  userData : ∀ d, d ∈ t.userData.rows ↔ d ∈ s.userData.rows ∧ ¬ gone (.userData, d.id)

/-- **Deleting a row deletes all that belongs to it and nothing else.** -/
theorem erase_without (s : Store) (table : TableName) (id : ℕ) :
    s.Without (s.BelongsTo · (table, id)) (table.erase s id) where
  users u := by
    rw [belongsTo_user_iff]
    cases table <;> simp [TableName.erase, eraseUser, eraseWorkspace, eraseApplication, Row.id]
  workspaces w := by
    rw [belongsTo_workspace_iff]
    cases table <;> simp [TableName.erase, eraseUser, eraseWorkspace, eraseApplication, Row.id]
  memberships m := by
    rw [and_congr_right fun hm => not_congr (belongsTo_membership_iff hm)]
    cases table <;> simp [TableName.erase, eraseUser, eraseWorkspace, eraseApplication, Row.id]
  applications a := by
    rw [and_congr_right fun ha => not_congr (belongsTo_application_iff ha)]
    cases table <;> simp [TableName.erase, eraseUser, eraseWorkspace, eraseApplication, Row.id]
  pages p := by
    rw [and_congr_right fun hp => not_congr (belongsTo_page_iff hp)]
    cases table <;> simp [TableName.erase, eraseUser, eraseWorkspace, eraseApplication, Row.id]
  userData d := by
    rw [and_congr_right fun hd => not_congr (belongsTo_userData_iff hd)]
    cases table <;> simp [TableName.erase, eraseUser, eraseWorkspace, eraseApplication, Row.id]

/-- Ending a membership is deleting its row. -/
theorem removeMember_eq (hpairs : s.memberships.Distinct Membership.pair) {m : Membership}
    (hm : m ∈ s.memberships.rows) :
    (s.removeMember m.workspace m.user).2 = TableName.membership.erase s m.id := by
  unfold removeMember TableName.erase
  dsimp only
  congr 1
  refine Table.eq_of_rows_eq (List.filter_congr fun n hn => ?_) rfl
  rw [Bool.eq_iff_iff, Bool.not_eq_true', bne_iff_ne, ← Bool.not_eq_true, Bool.and_eq_true,
    beq_iff_eq, beq_iff_eq]
  refine not_congr ⟨?_, ?_⟩
  · rintro ⟨hworkspace, huser⟩
    rw [hpairs n hn m hm (Prod.ext hworkspace huser)]
    rfl
  · intro hid
    rw [Table.eq_of_id_eq hn hm hid]
    exact ⟨rfl, rfl⟩

end WorkspaceHome.Store
