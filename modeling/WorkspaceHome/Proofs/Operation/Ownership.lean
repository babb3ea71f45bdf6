import WorkspaceHome.Proofs.Homepage.Unaffected
import WorkspaceHome.Proofs.Store.Write
import WorkspaceHome.Workspaces

/-!
# What an operation writes

An operation that fails leaves the store as it was, whatever it has written before it fails. One
that succeeds writes what it owns and nothing else: recording an application revises the recency
lists of the user, fixing the viewed version and building a homepage revise the viewed version, and
creating a workspace adds the workspace and its first member. All this is `store_owned`.
-/

namespace WorkspaceHome

open Service

namespace Service

variable {α β : Type}

/-- An action leaves the store as it was if it fails; if it succeeds, its result and the store after
it are as told. -/
def Leaves (x : Service α) (s : Site) (told : α → Store → Prop) : Prop :=
  match x.exec s with
  | (.ok a, t) => told a t.store
  | (.error _, t) => t.store = s.store

namespace Leaves

variable {x : Service α} {s t : Site} {told : α → Store → Prop}

theorem of_ok {a : α} (h : x.exec s = (.ok a, t)) (ha : told a t.store) : x.Leaves s told := by
  rw [Leaves, h]
  exact ha

theorem of_error {e : Failure} (h : (x.exec s).1 = .error e) (ht : (x.exec s).2.store = s.store) :
    x.Leaves s told := by
  unfold Leaves
  rcases hrun : x.exec s with ⟨_ | a, t⟩ <;> rw [hrun] at h ht
  · exact ht
  · cases h

/-- A failure leaves the store as it was. -/
theorem store_eq (hx : x.Leaves s told) {e : Failure} (h : (x.exec s).1 = .error e) :
    (x.exec s).2.store = s.store := by
  unfold Leaves at hx
  rcases hrun : x.exec s with ⟨_ | a, t⟩ <;> rw [hrun] at hx h
  · exact hx
  · cases h

/-- Where what is told of a success cannot be, there is none. -/
theorem store_eq_of_not (hx : x.Leaves s told) (h : ∀ a store, ¬ told a store) :
    (x.exec s).2.store = s.store := by
  unfold Leaves at hx
  rcases hrun : x.exec s with ⟨_ | a, t⟩ <;> rw [hrun] at hx
  · exact hx
  · exact absurd hx (h a t.store)

/-- What is done as a whole only has to be looked at where it succeeds. -/
theorem atomically (h : ∀ a t, x.exec s = (.ok a, t) → told a t.store) :
    (Service.atomically x).Leaves s told := by
  unfold Leaves
  rw [exec_atomically]
  rcases hrun : x.exec s with ⟨e | a, t⟩
  · rfl
  · exact h a t hrun

/-- An action that does to the store what another one does, and succeeds if that one does. -/
theorem of_map {y : Service β} {f : β → α} (hy : y.Leaves s fun b store => told (f b) store)
    (houtcome : (x.exec s).1 = (y.exec s).1.map f)
    (hstore : (x.exec s).2.store = (y.exec s).2.store) : x.Leaves s told := by
  unfold Leaves at *
  rcases hx : x.exec s with ⟨e | a, t⟩ <;> rcases hrun : y.exec s with ⟨e' | b, r⟩ <;>
    rw [hx, hrun] at houtcome hstore <;> rw [hrun] at hy <;> cases houtcome <;>
    dsimp only at hstore ⊢ <;> rw [hstore] <;> exact hy

/-- What is told of a success may be told with less. -/
theorem imp {told' : α → Store → Prop} (hx : x.Leaves s told)
    (h : ∀ a store, told a store → told' a store) : x.Leaves s told' := by
  unfold Leaves at *
  rcases hrun : x.exec s with ⟨e | a, t⟩ <;> rw [hrun] at hx
  · exact hx
  · exact h a t.store hx

end Leaves

end Service

/-! ### What is remembered -/

namespace Remembrance

theorem leaves_recordRecent (viewer : Viewer) (a : Application) (s : Site) :
    (recordRecent viewer a).Leaves s fun _ store => ∃ u id applications workspaces,
      viewer = .user u ∧ Recordable s u a id applications workspaces ∧
        store = s.store.revise u.id s.clock (recording applications workspaces s.clock) := by
  rcases recordRecent_cases viewer a s with
    ⟨e, events, hexec, -⟩ | ⟨u, id, applications, workspaces, rfl, h⟩
  · exact Leaves.of_error (by rw [hexec]) (by rw [hexec]; rfl)
  · exact Leaves.of_ok (exec_recordRecent_eq h) ⟨u, id, applications, workspaces, rfl, h, rfl⟩

theorem leaves_ensureViewed (viewer : Viewer) (s : Site) :
    (ensureViewed viewer).Leaves s fun _ store => ∃ u, viewer = .user u ∧
      store = s.store.revise u.id s.clock (viewing s.settings.appVersion s.clock) := by
  rcases ensureViewed_cases viewer s with ⟨e, events, hexec⟩ | ⟨u, rfl, h⟩
  · exact Leaves.of_error (by rw [hexec]) (by rw [hexec]; rfl)
  · exact Leaves.of_ok (exec_ensureViewed_eq h) ⟨u, rfl, rfl⟩

/-- Fixing the viewed version changes nothing where there is one. -/
theorem revise_viewing_eq_self {s : Store} {user : ℕ} {d : UserData}
    (hrow : s.dataOf? user = some d) (hseen : d.viewedVersion.isSome = true) (version : String)
    (now : Timestamp) : s.revise user now (viewing version now) = s :=
  Store.revise_eq_self hrow (if_pos hseen)

end Remembrance

/-! ### Workspaces -/

namespace Workspaces

/-- Founding a workspace adds a workspace, and then its first member. -/
theorem leaves_found (name : Json) (viewer : Viewer) (s : Site) :
    (found name viewer).Leaves s fun founded store => ∃ between m,
      viewer = .user founded.2 ∧
        s.store.addWorkspace name.fieldText none s.clock = .ok (founded.1, between) ∧
          between.addMember founded.1.id founded.2.id (some administrator) = .ok (m, store) := by
  refine Leaves.atomically ?_
  rintro ⟨w, u⟩ t hrun
  rw [exec_bind, exec_write] at hrun
  -- each of the three steps has succeeded, or else the whole would have failed
  cases hadd : s.store.addWorkspace name.fieldText none s.clock with
  | error e =>
    rw [hadd] at hrun
    cases hrun
  | ok added =>
    obtain ⟨w', between⟩ := added
    rw [hadd] at hrun
    dsimp only at hrun
    cases viewer with
    | nobody => cases hrun
    | anonymous => cases hrun
    -- only a user can become the first member
    | user u' =>
      rw [show Viewer.owner (.user u') = .ok u' from rfl, exec_settle_ok_bind, exec_bind,
        exec_write] at hrun
      dsimp only at hrun
      cases hmember : between.addMember w'.id u'.id (some administrator) with
      | error e =>
        rw [hmember] at hrun
        cases hrun
      | ok added =>
        obtain ⟨m, store⟩ := added
        rw [hmember] at hrun
        cases hrun
        exact ⟨between, m, rfl, rfl, hmember⟩

/-- Creating a workspace writes what founding it does. -/
theorem leaves_create_added (name : Json) (viewer : Viewer) (s : Site) :
    (create name viewer).Leaves s fun w store => ∃ u between m, viewer = .user u ∧
      s.store.addWorkspace name.fieldText none s.clock = .ok (w, between) ∧
        between.addMember w.id u.id (some administrator) = .ok (m, store) := by
  have hfound := leaves_found name viewer s
  unfold create Leaves at *
  rw [exec_bind, exec_tryCatch]
  -- a failure is only given another name, and the log is no part of the store
  rcases hrun : (found name viewer).exec s with ⟨e | ⟨w, u⟩, t⟩ <;> rw [hrun] at hfound
  · exact hfound
  · obtain ⟨between, m, hviewer, hadd, hmember⟩ := hfound
    exact ⟨u, between, m, hviewer, hadd, hmember⟩

theorem leaves_create (name : Json) (viewer : Viewer) (s : Site) :
    (create name viewer).Leaves s fun w store => ∃ u m hw hm,
      viewer = .user u ∧ m.workspace = w.id ∧ m.user = u.id ∧
        store = { s.store with
          workspaces := s.store.workspaces.insert w hw
          memberships := s.store.memberships.insert m hm } := by
  refine (leaves_create_added name viewer s).imp ?_
  rintro w store ⟨u, between, m, hviewer, hadd, hmember⟩
  obtain ⟨hw, rfl⟩ := Store.eq_insert_of_addWorkspace hadd
  obtain ⟨hworkspace, huser, hm, rfl⟩ := Store.eq_insert_of_addMember hmember
  exact ⟨u, m, hw, hm, hviewer, hworkspace, huser, rfl⟩

end Workspaces

/-! ### Homepages -/

namespace Homepage

theorem leaves_build (viewer : Viewer) (url : Option String) (s : Site) :
    (build viewer url).Leaves s fun _ store => ∃ u, viewer = .user u ∧
      store = s.store.revise u.id s.clock (Remembrance.viewing s.settings.appVersion s.clock) := by
  cases viewer with
  | nobody => exact Leaves.of_error rfl rfl
  | anonymous => exact Leaves.of_error rfl rfl
  | user u =>
    obtain ⟨houtcome, hstore⟩ := outcome_build u url s
    cases hshown : (shownTo s.store u.id).1 with
    | error e =>
      rw [hshown] at houtcome hstore
      exact Leaves.of_error houtcome hstore
    | ok groups =>
      -- after the groups, only fixing the viewed version may still fail
      rw [hshown] at houtcome hstore
      exact Leaves.of_map (Remembrance.leaves_ensureViewed (.user u) s) houtcome hstore

end Homepage

/-! ### The four operations -/

open Homepage Remembrance Workspaces

/-- **What fails leaves the store as it was, and what succeeds writes no more than it owns**, for
any store, whatever values its fields hold. Recording an application revises the two recency lists
of the user and their date; fixing the viewed version and building a homepage revise this version
and the date, and do nothing if there is a version already; creating a workspace adds it and its
first member. A revision is made to the row of the user, or to a fresh row if there is none. -/
theorem store_owned (viewer : Viewer) (a : Application) (name : Json) (url : Option String)
    (s : Site) :
    ((recordRecent viewer a).Leaves s fun _ store => ∃ u id applications workspaces,
      viewer = .user u ∧ Recordable s u a id applications workspaces ∧
        store = s.store.revise u.id s.clock (recording applications workspaces s.clock)) ∧
    ((ensureViewed viewer).Leaves s fun _ store => ∃ u, viewer = .user u ∧
      store = s.store.revise u.id s.clock (viewing s.settings.appVersion s.clock)) ∧
    ((build viewer url).Leaves s fun _ store => ∃ u, viewer = .user u ∧
      store = s.store.revise u.id s.clock (viewing s.settings.appVersion s.clock)) ∧
    ((create name viewer).Leaves s fun w store => ∃ u m hw hm,
      viewer = .user u ∧ m.workspace = w.id ∧ m.user = u.id ∧
        store = { s.store with
          workspaces := s.store.workspaces.insert w hw
          memberships := s.store.memberships.insert m hm }) ∧
    ∀ user d, s.store.dataOf? user = some d → d.viewedVersion.isSome = true →
      s.store.revise user s.clock (viewing s.settings.appVersion s.clock) = s.store :=
  ⟨leaves_recordRecent viewer a s, leaves_ensureViewed viewer s, leaves_build viewer url s,
    leaves_create name viewer s, fun _ _ hrow hseen => revise_viewing_eq_self hrow hseen _ _⟩

/-- The small store in which the list of recent workspaces is a number. -/
def Store.malformed : Store :=
  { Store.sample with
    userData := Table.empty.insert
      { id := 1, user := 1, recentWorkspaces := .int 5, recentApplications := .list [.text "main"]
        createdAt := ⟨0⟩, updatedAt := ⟨0⟩ } rfl }

/-- With a good list of applications and a bad one of workspaces, neither is touched. -/
theorem store_owned_malformed :
    ((recordRecent (.user { id := 1, username := "ada" })
          { id := 1, workspace := 1, name := "A", slug := "a" }).exec
        { store := Store.malformed }).1 = .error .notIterable ∧
      ((recordRecent (.user { id := 1, username := "ada" })
          { id := 1, workspace := 1, name := "A", slug := "a" }).exec
        { store := Store.malformed }).2.store = Store.malformed := by
  have hfails : ((recordRecent (.user { id := 1, username := "ada" })
      { id := 1, workspace := 1, name := "A", slug := "a" }).exec
        { store := Store.malformed }).1 = .error .notIterable := rfl
  exact ⟨hfails, (store_owned _ _ .null none { store := Store.malformed }).1.store_eq hfails⟩

end WorkspaceHome
