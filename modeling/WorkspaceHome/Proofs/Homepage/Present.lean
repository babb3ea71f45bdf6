import WorkspaceHome.Operation.Rows
import WorkspaceHome.Proofs.Homepage.Exact
import WorkspaceHome.Proofs.Homepage.Isolation
import WorkspaceHome.Proofs.Homepage.Unaffected

/-!
# A homepage shows what is there

Whatever values are stored, the groups of a homepage that is built are arranged like those of a
store of the right shape, by some recency list of workspaces and with some listed applications
(`shownTo_eq_ok`). So they show no row that is not in the store, and no workspace twice
(`build_present`).
-/

namespace WorkspaceHome.Homepage

open Recency Service

/-- Groups show rows of a store, none that is gone, and no workspace twice. -/
structure IsPresent (s : Store) (gone : TableName × ℕ → Prop) (user : ℕ)
    (groups : List WorkspaceGroup) : Prop where
  workspaces : ∀ g ∈ groups, g.workspace ∈ s.workspaces.rows ∧
    ¬ gone (.workspace, g.workspace.id) ∧ s.isMember g.workspace.id user = true
  applications : ∀ g ∈ groups, ∀ l ∈ g.applications, ∃ a ∈ s.applications.rows,
    ¬ gone (.application, a.id) ∧ a.workspace = g.workspace.id ∧ l.Shows s a
  members : ∀ g ∈ groups, ∀ role ∈ g.roles, ∃ m ∈ s.memberships.rows, ∃ u ∈ s.users.rows,
    ¬ gone (.membership, m.id) ∧ ¬ gone (.user, u.id) ∧
      m.workspace = g.workspace.id ∧ m.user = u.id ∧ role = m.shown u
  once : (groups.map (·.workspace.id)).Nodup

variable {s : Store} {user : ℕ} {groups : List WorkspaceGroup}

/-- The groups before the slugs are put in. -/
theorem groupsIn_eq_ok {recentWorkspaces recentApplications : Json}
    (h : (groupsIn s (s.workspaceIdsOf user) recentWorkspaces recentApplications).1 = .ok groups) :
    ∃ held listed, Scalars held ∧
      (∀ l ∈ listed, ∃ a ∈ s.applications.rows, ListedApplication.ofApplication a = .ok l) ∧
        groups = (orderedWorkspaces s user held).map (groupOf s listed) := by
  unfold groupsIn at h
  cases horder : prioritiseStored recentWorkspaces
      (.list ((s.workspaceIdsOf user).map fun id : ℕ => .int id)) with
  | error e =>
    rw [horder] at h
    cases h
  | ok order =>
    rw [horder] at h
    obtain ⟨listed, hlisted, rfl⟩ := map_eq_ok_iff.mp h
    obtain ⟨held, hheld, hrest⟩ := bind_eq_ok_iff.mp horder
    obtain ⟨all, hall, hprioritise⟩ := bind_eq_ok_iff.mp hrest
    obtain rfl : order = prioritise held all := (Except.ok.inj hprioritise).symm
    have hkeys := Json.ids_list (s.scalars_workspaceKeys user)
    obtain rfl : s.workspaceKeys user = all := Except.ok.inj (hkeys.symm.trans hall)
    refine ⟨held, listed, Json.scalars_of_idsIfAny hheld, fun l hl => ?_, rfl⟩
    obtain ⟨a, ha, hal⟩ := mem_listedIn hlisted hl
    exact ⟨a, (Store.mem_applicationsIn.mp ha).1, hal⟩

/-- **The groups that a user is shown** are those of the user's workspaces, in an order that some
recency list gives. -/
theorem shownTo_eq_ok (h : (shownTo s user).1 = .ok groups) :
    ∃ held listed, Scalars held ∧
      (∀ l ∈ listed, ∃ a ∈ s.applications.rows, ListedApplication.ofApplication a = .ok l) ∧
        groups = (orderedWorkspaces s user held).map fun w => (groupOf s listed w).withSlugs s := by
  unfold shownTo at h
  split_ifs at h with hnone
  · refine ⟨[], [], fun _ h => absurd h List.not_mem_nil, fun _ h => absurd h List.not_mem_nil, ?_⟩
    have hordered : orderedWorkspaces s user [] = [] := by
      rw [List.eq_nil_iff_forall_not_mem]
      intro w hw
      obtain ⟨-, hmember⟩ :=
        (mem_orderedWorkspaces fun _ h => absurd h List.not_mem_nil).mp hw
      have hkey := int_mem_workspaceKeys hmember
      rw [Store.workspaceKeys, List.isEmpty_iff.mp hnone] at hkey
      exact List.not_mem_nil hkey
    rw [hordered]
    exact (Except.ok.inj h).symm
  · rcases hplain : groupsIn s (s.workspaceIdsOf user) (s.recentOf user (·.recentWorkspaces))
        (s.recentOf user (·.recentApplications)) with ⟨e | plain, noted⟩
    · rw [hplain] at h
      cases h
    · rw [hplain] at h
      obtain rfl := (Except.ok.inj h).symm
      obtain ⟨held, listed, hheld, hlisted, rfl⟩ := groupsIn_eq_ok (congrArg Prod.fst hplain)
      exact ⟨held, listed, hheld, hlisted, List.map_map⟩

section gone

variable {gone : TableName × ℕ → Prop} (hgone : ∀ row, gone row → row.1.holds s row.2 = false)

include hgone

/-- A row that is there is not gone. -/
theorem not_gone_of_mem {α : Type} [Row α] {table : TableName} {t : Table α} {r : α}
    (hr : r ∈ t.rows) (hholds : ∀ id, table.holds s id = (t.find? id).isSome) :
    ¬ gone (table, Row.id r) := by
  intro hrow
  have hheld := hgone _ hrow
  rw [hholds, Table.find?_eq_some_iff.mpr ⟨hr, rfl⟩] at hheld
  cases hheld

/-- What a user is shown is there. -/
theorem shownTo_present (h : (shownTo s user).1 = .ok groups) : IsPresent s gone user groups := by
  -- whatever is shown comes from a row of the store, and a row that is gone is none of them
  obtain ⟨held, listed, hheld, hlisted, rfl⟩ := shownTo_eq_ok h
  refine
    { workspaces := ?_
      applications := ?_
      members := ?_
      once := ?_ }
  · intro g hg
    obtain ⟨w, hw, rfl⟩ := List.mem_map.mp hg
    obtain ⟨hrow, hmember⟩ := (mem_orderedWorkspaces hheld).mp hw
    exact ⟨hrow, not_gone_of_mem hgone hrow fun _ => rfl, hmember⟩
  · intro g hg l hl
    obtain ⟨w, -, rfl⟩ := List.mem_map.mp hg
    obtain ⟨plain, hplain, rfl⟩ := List.mem_map.mp hl
    obtain ⟨hplain, hw⟩ := List.mem_filter.mp hplain
    obtain ⟨a, ha, hal⟩ := hlisted plain hplain
    have hworkspace := (ListedApplication.ofApplication_spec hal).2.2
    have hw : plain.workspace = w.id := by simpa using hw
    exact ⟨a, ha, not_gone_of_mem hgone ha fun _ => rfl, hworkspace.symm.trans hw, plain, hal,
      rfl⟩
  · intro g hg role hrole
    obtain ⟨w, -, rfl⟩ := List.mem_map.mp hg
    obtain ⟨members, hroles, -, hmembers⟩ := rolesIn_spec s w.id
    have hrole : role ∈ s.rolesIn w.id := hrole
    rw [hroles] at hrole
    obtain ⟨⟨m, u⟩, hmu, rfl⟩ := List.mem_map.mp hrole
    obtain ⟨hm, hworkspace, hu, huser⟩ := (hmembers m u).mp hmu
    exact ⟨m, hm, u, hu, not_gone_of_mem hgone hm fun _ => rfl,
      not_gone_of_mem hgone hu fun _ => rfl, hworkspace, huser.symm, rfl⟩
  -- no workspace comes before itself, so none comes twice
  · rw [List.map_map]
    refine List.pairwise_map.mpr ((pairwise_orderedWorkspaces s user hheld).imp ?_)
    intro v w hvw hsame
    have hsame : v.id = w.id := hsame
    rw [hsame] at hvw
    exact FirstBefore.irrefl hvw

end gone

/-- **A homepage that is built shows what is there.** -/
theorem build_present {site : Site} {u : User} {url : Option String} {homepage : Homepage}
    {gone : TableName × ℕ → Prop} (hgone : ∀ row, gone row → row.1.holds site.store row.2 = false)
    (h : ((build (.user u) url).exec site).1 = .ok homepage) :
    IsPresent site.store gone u.id homepage.groups := by
  rw [(outcome_build u url site).1] at h
  obtain ⟨groups, hgroups, hbuilt⟩ := bind_eq_ok_iff.mp h
  obtain ⟨viewed, -, rfl⟩ := map_eq_ok_iff.mp hbuilt
  exact shownTo_present hgone hgroups

end WorkspaceHome.Homepage
