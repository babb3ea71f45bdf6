import WorkspaceHome.Proofs.Frame.Upheld

/-!
# Who a caller is

A caller is a user of the store, whom the name stands for alone (`Caller.eq_of_user?`), or no user;
finding out changes nothing (`Caller.exec_viewer`).
-/

namespace WorkspaceHome

open Service

theorem exec_viewer_named {username : String} {u : User} {s : Site}
    (h : s.store.userNamed? username = some u) :
    (Caller.named username).viewer.exec s = (.ok (.user u), s) := by
  unfold Caller.viewer
  rw [exec_ask_bind, h]
  rfl

namespace Caller

/-- The user behind a caller, if there is one. -/
def user? (s : Store) : Caller → Option User
  | .named username => s.userNamed? username
  | _ => none

/-- Two names stand for two users. -/
theorem eq_of_user? {s : Store} {c c' : Caller} {u u' : User} (h : c.user? s = some u)
    (h' : c'.user? s = some u') (hid : u.id = u'.id) : c = c' := by
  cases c with
  | named username =>
    cases c' with
    | named username' =>
      have huser : u = u' :=
        Table.eq_of_id_eq (List.mem_of_find?_eq_some h) (List.mem_of_find?_eq_some h') hid
      have hname : u.username = username := by simpa using List.find?_some h
      have hname' : u'.username = username' := by simpa using List.find?_some h'
      rw [← hname, ← hname', huser]
    | _ => cases h'
  | _ => cases h

/-- A caller who is a user is found to be this user. -/
theorem exec_viewer_of_user? {c : Caller} {s : Site} {u : User} (h : c.user? s.store = some u) :
    c.viewer.exec s = (.ok (.user u), s) := by
  cases c with
  | named username => exact exec_viewer_named h
  | _ => cases h

theorem exec_viewer (c : Caller) (s : Site) :
    (∃ u, c.user? s.store = some u ∧ c.viewer.exec s = (.ok (.user u), s)) ∨
      c.user? s.store = none ∧ ∀ u, (c.viewer.exec s).1 ≠ .ok (.user u) := by
  cases huser : c.user? s.store with
  | some u => exact Or.inl ⟨u, rfl, exec_viewer_of_user? huser⟩
  | none =>
    refine Or.inr ⟨rfl, fun u h => ?_⟩
    cases c with
    | named username =>
      unfold viewer at h
      rw [exec_ask_bind, show s.store.userNamed? username = none from huser] at h
      cases h
    | _ => cases h

/-- For a caller who is no user, only what is done for such a viewer matters. -/
theorem keepsAt_of_no_user {F : Frame} {α : Type} {c : Caller} {s : Site} {x : Viewer → Service α}
    (hnone : ∀ u, (c.viewer.exec s).1 ≠ .ok (.user u))
    (hx : ∀ viewer, (∀ u, viewer ≠ .user u) → F.Keeps (x viewer)) :
    F.KeepsAt (c.viewer >>= x) s := by
  refine (Frame.keeps_viewer c s).bind fun viewer t hviewer => hx viewer (fun u hu => ?_) t
  rw [hviewer, hu] at hnone
  exact hnone u rfl

end Caller

end WorkspaceHome
