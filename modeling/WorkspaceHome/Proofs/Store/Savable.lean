import Mathlib.Tactic.SplitIfs
import WorkspaceHome.Proofs.Operation.Invariant

/-!
# What is stored can be stored again

A row that is remembered of a user is saved as a whole, so that saving one field depends on all
others being fit to be stored. Those of a row that is there always are (`Store.storable_invariant`):
in every store that can be reached, what is remembered of a user can be saved again
(`Store.savable_performAll`).
-/

namespace WorkspaceHome

theorem UserDataFields.isKeepable_of_applyTo {fields : UserDataFields} {d d' : UserData}
    (h : fields.applyTo d = .ok d') :
    isKeepable d'.recentWorkspaces = true ∧ isKeepable d'.recentApplications = true := by
  rw [applyTo_eq] at h
  split_ifs at h with hkeep
  obtain rfl := Except.ok.inj h
  exact hkeep

namespace Store

variable {s s' t : Store} {user : ℕ}

/-- The recency lists that are stored for a user, if any are, can be stored again. -/
def Savable (s : Store) (user : ℕ) : Prop :=
  isKeepable (s.recentOf user (·.recentWorkspaces)) = true ∧
    isKeepable (s.recentOf user (·.recentApplications)) = true

theorem Savable.congr (hs : s.Savable user) (h : t.dataOf? user = s.dataOf? user) :
    t.Savable user := by
  unfold Savable recentOf at *
  rwa [h]

theorem savable_iff_remembered (now : Timestamp) :
    s.Savable user ↔ isKeepable (s.remembered user now).recentWorkspaces = true ∧
      isKeepable (s.remembered user now).recentApplications = true := by
  obtain ⟨hws, has⟩ := s.remembered_recent user now
  rw [hws, has]
  rfl

theorem savable_of_dataOf? {d : UserData} (h : s.dataOf? user = some d)
    (hw : isKeepable d.recentWorkspaces = true) (ha : isKeepable d.recentApplications = true) :
    s.Savable user := by
  rw [savable_iff_remembered ⟨0⟩, remembered_of_dataOf? h]
  exact ⟨hw, ha⟩

/-! ### All rows -/

/-- The recency lists of all rows can be stored. -/
def Storable (s : Store) : Prop :=
  ∀ d ∈ s.userData.rows,
    isKeepable d.recentWorkspaces = true ∧ isKeepable d.recentApplications = true

theorem Storable.savable (h : s.Storable) (user : ℕ) : s.Savable user := by
  cases hrow : s.dataOf? user with
  | some d =>
    obtain ⟨hw, ha⟩ := h d (List.mem_of_find?_eq_some hrow)
    exact savable_of_dataOf? hrow hw ha
  | none =>
    unfold Savable recentOf
    rw [hrow]
    exact ⟨rfl, rfl⟩

theorem Storable.saveUserData {fields : UserDataFields} {now : Timestamp} (h : s.Storable)
    (hsave : s.saveUserData user fields now = .ok s') : s'.Storable := by
  unfold Store.saveUserData at hsave
  cases hrow : s.userData.rows.find? fun d => d.user == user with
  | none =>
    rw [hrow] at hsave
    obtain ⟨d, hd, hsave⟩ := bind_eq_ok_iff.mp hsave
    obtain ⟨hw, ha⟩ := UserDataFields.isKeepable_of_applyTo hd
    cases hsave
    intro d' hd'
    rcases List.mem_append.mp hd' with hd' | hd'
    · exact h d' hd'
    · rw [List.mem_singleton.mp hd']
      exact ⟨hw, ha⟩
  | some old =>
    rw [hrow] at hsave
    obtain ⟨d, hd, hsave⟩ := bind_eq_ok_iff.mp hsave
    obtain ⟨hw, ha⟩ := UserDataFields.isKeepable_of_applyTo hd
    cases hsave
    intro d' hd'
    obtain ⟨r, hr, rfl⟩ := List.mem_map.mp hd'
    split_ifs
    · exact ⟨hw, ha⟩
    · exact h r hr

/-- **What is stored can be stored again**, whatever is done to the store. -/
theorem storable_invariant : Invariant Storable where
  saveUserData := fun hop h => h.saveUserData hop
  erase := fun table id h => by
    cases table with
    | userData => exact fun d hd => h d (List.mem_filter.mp hd).1
    | user => exact fun d hd => h d (List.mem_filter.mp hd).1
    | _ => exact h

/-- **In every store that can be reached**, what is remembered of a user can be saved again. -/
theorem savable_performAll (operations : List Operation) {site : Site} (h : site.store.Storable)
    (user : ℕ) : (Operation.performAll operations site).2.store.Savable user :=
  (storable_invariant.performAll operations site h).savable user

end Store

end WorkspaceHome
