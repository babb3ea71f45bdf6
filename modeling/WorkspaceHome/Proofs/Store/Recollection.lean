import Mathlib.Logic.Function.Basic
import WorkspaceHome.Proofs.Store.Alike

/-!
# What a store remembers

What is remembered of a user consists of two recency lists and a viewed version, whatever the row is
in which it stands; without a row it is that of a fresh one (`Store.recollection`). A revision
changes it for one user alone (`recollection_revise`).

The outlook of a store is all that can be seen of it: what it remembers, and its other tables. A row
with nothing in it makes no difference to it (`outlook_of_fresh`), and stores of one outlook have
one outlook after revisions that make the same of what is remembered (`outlook_revise`).
-/

namespace WorkspaceHome

/-- What is remembered of a user, apart from the row in which it stands. -/
structure Recollection where
  workspaces : Json := .list []
  applications : Json := .list []
  viewedVersion : Option String := none

/-- What a row tells of its user. -/
def UserData.recollection (d : UserData) : Recollection :=
  ⟨d.recentWorkspaces, d.recentApplications, d.viewedVersion⟩

/-- What a row tells that may be missing. -/
def recollectionOf (data : Option UserData) : Recollection :=
  (data.map UserData.recollection).getD {}

section recollectionOf

variable (data : Option UserData)

theorem recentWorkspaces_eq :
    (data.map (·.recentWorkspaces)).getD (.list []) = (recollectionOf data).workspaces := by
  cases data <;> rfl

theorem recentApplications_eq :
    (data.map (·.recentApplications)).getD (.list []) = (recollectionOf data).applications := by
  cases data <;> rfl

theorem viewedVersion_eq :
    data.bind (·.viewedVersion) = (recollectionOf data).viewedVersion := by
  cases data <;> rfl

end recollectionOf

namespace Store

variable {s t : Store} {user : ℕ} {now : Timestamp}

/-- What a store remembers of a user. -/
def recollection (s : Store) (user : ℕ) : Recollection := recollectionOf (s.dataOf? user)

/-- What is remembered of a user or would be in a new row. -/
theorem recollection_remembered (s : Store) (user : ℕ) (now : Timestamp) :
    (s.remembered user now).recollection = s.recollection user := by
  unfold remembered recollection recollectionOf
  cases s.dataOf? user <;> rfl

theorem recollection_revise (s : Store) (user : ℕ) (now : Timestamp) (r : Revision) :
    (s.revise user now r).recollection =
      Function.update s.recollection user (r.change (s.remembered user now)).recollection := by
  funext x
  by_cases hx : x = user
  · rw [hx, Function.update_self, recollection, dataOf?_revise]
    rfl
  · rw [Function.update_of_ne hx, recollection, (sameBut_revise s user now r).dataOf?_eq hx]
    rfl

/-! ### The outlook -/

/-- All that can be seen of a store: its other tables, and what it remembers of users. -/
def outlook (s : Store) : Store × (ℕ → Recollection) :=
  ({ s with userData := .empty }, s.recollection)

theorem outlook_eq_iff : s.outlook = t.outlook ↔ Beside s t ∧ s.recollection = t.recollection := by
  unfold outlook
  rw [Prod.mk.injEq]
  refine and_congr_left fun _ => ⟨fun h => ?_, fun h => ?_⟩
  · calc t = { ({ t with userData := .empty } : Store) with userData := t.userData } := rfl
      _ = { ({ s with userData := .empty } : Store) with userData := t.userData } := by rw [h]
  · unfold Beside at h
    rw [h]

/-- **A row with nothing in it** makes no difference to the outlook. -/
theorem outlook_of_fresh (hsame : SameBut user s t) (habsent : s.dataOf? user = none)
    {d : UserData} (hrow : t.dataOf? user = some d) (hd : d.recollection = {}) :
    s.outlook = t.outlook := by
  refine outlook_eq_iff.mpr ⟨?_, funext fun x => ?_⟩
  · obtain ⟨husers, hworkspaces, hmemberships, happlications, hpages, -⟩ := hsame
    unfold Beside
    rw [← husers, ← hworkspaces, ← hmemberships, ← happlications, ← hpages]
  · unfold recollection
    by_cases hx : x = user
    · rw [hx, habsent, hrow]
      exact hd.symm
    · rw [hsame.dataOf?_eq hx]

/-- **Revisions that make the same of what is remembered** keep the outlook the same. -/
theorem outlook_revise (h : s.outlook = t.outlook) {r r' : Revision}
    (hr : (r.change (s.remembered user now)).recollection =
      (r'.change (t.remembered user now)).recollection) :
    (s.revise user now r).outlook = (t.revise user now r').outlook := by
  obtain ⟨hbeside, hrecollection⟩ := outlook_eq_iff.mp h
  refine outlook_eq_iff.mpr ⟨?_, ?_⟩
  · exact ((beside_revise s user now r).symm.trans hbeside).trans (beside_revise t user now r')
  · rw [recollection_revise, recollection_revise, hrecollection, hr]

/-! ### Writing to other tables -/

/-- Adding a workspace has nothing to do with what is remembered. -/
theorem addWorkspace_userData (s : Store) (userData : Table UserData) (name slug : Option String)
    (now : Timestamp) :
    ({ s with userData } : Store).addWorkspace name slug now =
      (s.addWorkspace name slug now).map fun r => (r.1, { r.2 with userData }) := by
  unfold Store.addWorkspace
  cases needed name with
  | error e => rfl
  | ok text =>
    show (allow (s.isFree s.workspaces.next text (savedSlug slug text)) >>= fun _ => _) =
      (allow (s.isFree s.workspaces.next text (savedSlug slug text)) >>= fun _ => _).map _
    cases allow (s.isFree s.workspaces.next text (savedSlug slug text)) <;> rfl

/-- Adding a member has nothing to do with what is remembered. -/
theorem addMember_userData (s : Store) (userData : Table UserData) (workspace user : ℕ)
    (role : Option String) :
    ({ s with userData } : Store).addMember workspace user role =
      (s.addMember workspace user role).map fun r => (r.1, { r.2 with userData }) := by
  unfold Store.addMember
  cases needed role with
  | error e => rfl
  | ok role =>
    generalize (!s.memberships.rows.any fun m =>
      m.workspace == workspace && m.user == user) = free
    show (allow free >>= fun _ => _) = (allow free >>= fun _ => _).map _
    cases free <;> rfl

end Store

end WorkspaceHome
