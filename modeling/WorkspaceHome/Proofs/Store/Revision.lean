import WorkspaceHome.Proofs.Store.UserData

/-!
# Revising what is remembered of a user

A `Revision` changes what is remembered of a user, whatever the id of the row is. `Store.revise`
makes it to the row of a user, or to a fresh row after all others if the user has none, and to
nothing else (`sameBut_revise`). One revision of a user after another is a single one
(`revise_revise`), and nothing matters of it but what it makes of the row (`revise_congr`). Saving
fields is a revision (`saveUserData_eq`).
-/

namespace WorkspaceHome

/-- A change of what is remembered of a user. It leaves the user and the id of the row, on which
nothing depends. -/
structure Revision where
  change : UserData → UserData
  renumber : ∀ d id, change { d with id } = { change d with id }
  user_eq : ∀ d, (change d).user = d.user

namespace Revision

theorem id_eq (r : Revision) (d : UserData) : Row.id (r.change d) = Row.id d := by
  have hid := congrArg UserData.id (r.renumber d d.id)
  exact hid

/-- The revision that leaves everything as it is. -/
def keep : Revision := ⟨fun d => d, fun _ _ => rfl, fun _ => rfl⟩

/-- One revision after another. -/
def andThen (r r' : Revision) : Revision where
  change d := r'.change (r.change d)
  renumber d id := by rw [r.renumber, r'.renumber]
  user_eq d := by rw [r'.user_eq, r.user_eq]

/-- Assigning fields at a moment. -/
def assign (fields : UserDataFields) (now : Timestamp) : Revision where
  change d := { fields.assignedTo d with updatedAt := now }
  renumber _ _ := rfl
  user_eq _ := rfl

end Revision

namespace Store

variable {s : Store} {user : ℕ} {now : Timestamp}

/-- A revised fresh row has the id that it was given. -/
theorem id_revised (r : Revision) (id user : ℕ) (now : Timestamp) :
    Row.id (r.change (freshData id user now)) = id := r.id_eq _

/-- Revises what is remembered of a user, in a fresh row if there is none. -/
def revise (s : Store) (user : ℕ) (now : Timestamp) (r : Revision) : Store :=
  match s.dataOf? user with
  | some d => { s with userData := s.userData.modify d.id r.change r.id_eq }
  | none =>
    { s with
      userData := s.userData.insert (r.change (freshData s.userData.next user now))
        (id_revised r _ user now) }

theorem revise_of_some {d : UserData} (h : s.dataOf? user = some d) (r : Revision) :
    s.revise user now r =
      { s with userData := s.userData.modify d.id r.change r.id_eq } := by
  rw [revise, h]

theorem revise_of_none (h : s.dataOf? user = none) (r : Revision) :
    s.revise user now r =
      { s with
        userData := s.userData.insert (r.change (freshData s.userData.next user now))
          (id_revised r _ user now) } := by
  rw [revise, h]

/-! ### The row of the user -/

/-- No other user has a row with the id of a user's row. -/
theorem user_of_id_eq {old : UserData} (hrow : s.dataOf? user = some old) {d : UserData}
    (hd : d ∈ s.userData.rows) (hid : Row.id d = old.id) : d = old :=
  Table.eq_of_id_eq hd (List.mem_of_find?_eq_some hrow) hid

/-- A row that is made for a user is found. -/
theorem dataOf?_insert (hrow : s.dataOf? user = none) {d : UserData}
    (hid : Row.id d = s.userData.next) (huser : d.user = user) :
    ({ s with userData := s.userData.insert d hid } : Store).dataOf? user = some d := by
  have hfind : (s.userData.rows.find? fun d => d.user == user) = none := hrow
  unfold dataOf? Table.insert
  rw [List.find?_append, hfind]
  simp [huser]

/-- The row of a user is found as it has been changed. -/
theorem dataOf?_modify {old : UserData} (hrow : s.dataOf? user = some old) (r : Revision) :
    ({ s with userData := s.userData.modify old.id r.change r.id_eq } : Store).dataOf? user =
      some (r.change old) := by
  have hfind : (s.userData.rows.find? fun d => d.user == user) = some old := hrow
  unfold dataOf? Table.modify
  rw [List.find?_map]
  -- no row changes hands, so the row that is looked for stays where it is
  have huser : ((fun d : UserData => d.user == user) ∘ fun d =>
      if Row.id d = old.id then r.change d else d) = fun d => d.user == user := by
    funext d
    show ((if Row.id d = old.id then r.change d else d).user == user) = (d.user == user)
    split_ifs
    · rw [r.user_eq]
    · rfl
  rw [huser, hfind]
  simp [Row.id]

/-- What is remembered after a revision. -/
theorem dataOf?_revise (s : Store) (user : ℕ) (now : Timestamp) (r : Revision) :
    (s.revise user now r).dataOf? user = some (r.change (s.remembered user now)) := by
  cases hrow : s.dataOf? user with
  | some d => rw [revise_of_some hrow, dataOf?_modify hrow, remembered_of_dataOf? hrow]
  | none =>
    rw [revise_of_none hrow, dataOf?_insert hrow (id_revised r _ user now) (r.user_eq _),
      remembered, hrow, Option.getD_none]

/-- A revision changes the row of its user and nothing else. -/
theorem sameBut_revise (s : Store) (user : ℕ) (now : Timestamp) (r : Revision) :
    SameBut user s (s.revise user now r) := by
  cases hrow : s.dataOf? user with
  | none =>
    rw [revise_of_none hrow]
    refine ⟨rfl, rfl, rfl, rfl, rfl, ?_⟩
    -- the row that is made is the user's, so it is not among the others
    have huser : (r.change (freshData s.userData.next user now)).user = user := r.user_eq _
    unfold Table.insert
    simp [List.filter_append, huser]
  | some old =>
    rw [revise_of_some hrow]
    refine ⟨rfl, rfl, rfl, rfl, rfl, ?_⟩
    have hold := user_of_dataOf? hrow
    unfold Table.modify
    rw [List.filter_map]
    -- the one row that changes is left out before and after
    calc List.map _ (s.userData.rows.filter _)
        = List.map _ (s.userData.rows.filter fun d => d.user != user) := by
          congr 1
          apply List.filter_congr
          intro d _
          show ((if Row.id d = old.id then r.change d else d).user != user) = (d.user != user)
          split_ifs
          · rw [r.user_eq]
          · rfl
      _ = List.map id (s.userData.rows.filter fun d => d.user != user) := by
          apply List.map_congr_left
          intro d hd
          obtain ⟨hd, hne⟩ := List.mem_filter.mp hd
          have hid : Row.id d ≠ old.id := by
            intro hid
            rw [user_of_id_eq hrow hd hid, hold] at hne
            simp at hne
          rw [if_neg hid, id]
      _ = _ := List.map_id _

/-! ### Revisions one after another -/

/-- Nothing matters of a revision but what it makes of the row. -/
theorem revise_congr {r r' : Revision}
    (h : r.change (s.remembered user now) = r'.change (s.remembered user now)) :
    s.revise user now r = s.revise user now r' := by
  cases hrow : s.dataOf? user with
  | none =>
    rw [remembered, hrow, Option.getD_none] at h
    rw [revise_of_none hrow, revise_of_none hrow]
    simp only [h]
  | some old =>
    rw [remembered_of_dataOf? hrow] at h
    rw [revise_of_some hrow, revise_of_some hrow]
    congr 1
    refine Table.modify_congr fun d hd hid => ?_
    rw [user_of_id_eq hrow hd hid, h]

/-- A revision that makes no difference to a row that is there leaves the store. -/
theorem revise_eq_self {d : UserData} (hrow : s.dataOf? user = some d) {r : Revision}
    (h : r.change d = d) : s.revise user now r = s := by
  have hkeep : s.userData.modify d.id r.change r.id_eq =
      s.userData.modify d.id (fun d' => d') fun _ => rfl := by
    refine Table.modify_congr fun d' hd' hid => ?_
    rw [user_of_id_eq hrow hd' hid, h]
  rw [revise_of_some hrow, hkeep, Table.modify_id]

/-- **One revision after another** is a single one. -/
theorem revise_revise (s : Store) (user : ℕ) (now : Timestamp) (r r' : Revision) :
    (s.revise user now r).revise user now r' = s.revise user now (r.andThen r') := by
  have hafter := dataOf?_revise s user now r
  cases hrow : s.dataOf? user with
  | some d =>
    rw [remembered_of_dataOf? hrow] at hafter
    -- both revisions change the row of one id
    rw [revise_of_some hafter, revise_of_some hrow, revise_of_some hrow]
    congr 1
    have hid : (r.change d).id = d.id := r.id_eq d
    refine Table.eq_of_rows_eq ?_ rfl
    simp only [Table.rows_modify, List.map_map, hid]
    apply List.map_congr_left
    intro d' _
    dsimp only [Function.comp_apply]
    by_cases hd : Row.id d' = d.id
    · rw [if_pos hd, if_pos (by rw [r.id_eq, hd]), if_pos hd]
      rfl
    · rw [if_neg hd, if_neg hd, if_neg hd]
  | none =>
    rw [remembered, hrow, Option.getD_none] at hafter
    rw [revise_of_some hafter, revise_of_none hrow, revise_of_none hrow]
    congr 1
    have hid : (r.change (freshData s.userData.next user now)).id = s.userData.next :=
      id_revised r _ user now
    refine Table.eq_of_rows_eq ?_ rfl
    simp only [Table.rows_modify, Table.rows_insert, List.map_append, List.map_singleton, hid]
    congr 1
    · -- the row that was made has an id beyond those of all others
      refine (List.map_congr_left fun d' hd' => ?_).trans (List.map_id _)
      have hbound := s.userData.bounded d' hd'
      rw [if_neg (by unfold Table.next; omega), id]
    · rw [if_pos (id_revised r _ user now)]
      rfl

/-! ### Saving fields -/

/-- The row that a change of fields is assigned to, in a store that has none for the user. -/
theorem applyTo_freshData_zero (fields : UserDataFields) (id user : ℕ) (now : Timestamp) :
    fields.applyTo (freshData 0 user now) =
      (fields.applyTo (freshData id user now)).map fun d => { d with id := 0 } := by
  rw [UserDataFields.applyTo_eq, UserDataFields.applyTo_eq]
  have hfits : (isKeepable (fields.assignedTo (freshData 0 user now)).recentWorkspaces = true ∧
      isKeepable (fields.assignedTo (freshData 0 user now)).recentApplications = true) ↔
      (isKeepable (fields.assignedTo (freshData id user now)).recentWorkspaces = true ∧
        isKeepable (fields.assignedTo (freshData id user now)).recentApplications = true) := Iff.rfl
  by_cases h : isKeepable (fields.assignedTo (freshData id user now)).recentWorkspaces = true ∧
      isKeepable (fields.assignedTo (freshData id user now)).recentApplications = true
  · rw [if_pos (hfits.mpr h), if_pos h]
    rfl
  · rw [if_neg (mt hfits.mp h), if_neg h]
    rfl

/-- **Saving fields** of what is remembered of a user is a revision. -/
theorem saveUserData_eq {fields : UserDataFields} {d : UserData}
    (h : fields.applyTo (s.remembered user now) = .ok d) :
    s.saveUserData user fields now = .ok (s.revise user now (.assign fields now)) := by
  have hd := UserDataFields.eq_of_applyTo h
  unfold saveUserData
  cases hrow : s.dataOf? user with
  | none =>
    rw [remembered, hrow, Option.getD_none] at h hd
    have hfind : (s.userData.rows.find? fun d => d.user == user) = none := hrow
    rw [hfind, revise_of_none hrow]
    simp only [applyTo_freshData_zero fields s.userData.next, h]
    subst hd
    -- a fresh row is dated from now, so saving it does not change its date
    rfl
  | some old =>
    rw [remembered, hrow, Option.getD_some] at h hd
    have hfind : (s.userData.rows.find? fun d => d.user == user) = some old := hrow
    rw [hfind, revise_of_some hrow]
    simp only [h]
    show Except.ok _ = Except.ok _
    congr 2
    refine Table.modify_congr fun d' hd' hid => ?_
    rw [user_of_id_eq hrow hd' hid, hd]
    rfl

theorem saveUserData_error {fields : UserDataFields} {e : Failure}
    (h : fields.applyTo (s.remembered user now) = .error e) :
    s.saveUserData user fields now = .error e := by
  unfold saveUserData
  cases hrow : s.dataOf? user with
  | none =>
    rw [remembered, hrow, Option.getD_none] at h
    have hfind : (s.userData.rows.find? fun d => d.user == user) = none := hrow
    rw [hfind]
    simp only [applyTo_freshData_zero fields s.userData.next, h]
    rfl
  | some old =>
    rw [remembered, hrow, Option.getD_some] at h
    have hfind : (s.userData.rows.find? fun d => d.user == user) = some old := hrow
    rw [hfind]
    simp only [h]
    rfl

end Store

end WorkspaceHome
