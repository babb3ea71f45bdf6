import WorkspaceHome.Proofs.Service
import WorkspaceHome.Proofs.Store.Revision
import WorkspaceHome.Remembrance

/-!
# What an operation does to what is remembered

Each operation on what is remembered of a user is told by its outcome and by the revision that it
makes (`exec_obtain`, `exec_save`, `exec_recordRecent_eq`, `exec_ensureViewed_eq`). Nothing else of
the store changes (`exec_recordRecent_ok`, `exec_ensureViewed_ok`), and an operation that fails
leaves the store as it was (`recordRecent_cases`, `ensureViewed_cases`).
-/

namespace WorkspaceHome.Remembrance

open Service

/-- What is noted when the row of a user is made. -/
def creation (s : Store) (user : ℕ) : List Event :=
  if (s.dataOf? user).isSome then [] else [.userDataCreated user]

variable {s : Site} {u : User}

theorem keeper_user (u : User) : keeper (.user u) = .ok u := rfl

theorem keeper_nobody : keeper .nobody = .error .constraint := rfl

theorem keeper_anonymous : keeper .anonymous = .error .visitorSought := rfl

/-! ### Saving and obtaining a row -/

/-- A site on which what is remembered of a user has been revised. -/
def revised (s : Site) (u : User) (r : Revision) : Site :=
  { s with store := s.store.revise u.id s.clock r }

theorem exec_save (fields : UserDataFields) {d : UserData}
    (h : fields.applyTo (s.store.remembered u.id s.clock) = .ok d) :
    (save u fields).exec s =
      (.ok { d with updatedAt := s.clock }, revised s u (.assign fields s.clock)) := by
  have hrow := Store.dataOf?_revise s.store u.id s.clock (.assign fields s.clock)
  unfold save
  rw [exec_write, Store.saveUserData_eq h]
  simp only [bind, Except.bind, hrow]
  rw [UserDataFields.eq_of_applyTo h]
  rfl

theorem exec_save_error {fields : UserDataFields} {e : Failure}
    (h : fields.applyTo (s.store.remembered u.id s.clock) = .error e) :
    (save u fields).exec s = (.error e, s) := by
  unfold save
  rw [exec_write, Store.saveUserData_error h]
  rfl

/-- Obtaining the row of a user gives what is remembered, and makes the row if there is none. -/
theorem exec_obtain (u : User) (s : Site) :
    (obtain u).exec s =
      (.ok (s.store.remembered u.id s.clock),
        (revised s u .keep).noting (creation s.store u.id)) := by
  unfold obtain revised
  rw [exec_ask_bind]
  cases hrow : s.store.dataOf? u.id with
  | some d =>
    rw [Store.remembered_of_dataOf? hrow, Store.revise_eq_self hrow rfl]
    simp [creation, hrow]
  | none =>
    have hd : s.store.remembered u.id s.clock =
        Store.freshData s.store.userData.next u.id s.clock := by
      rw [Store.remembered, hrow, Option.getD_none]
    -- the row is made by saving no field at all
    have hsave := exec_save (u := u) (s := s) {} (d := s.store.remembered u.id s.clock)
      (by rw [hd]; rfl)
    have hkeep : s.store.revise u.id s.clock (.assign {} s.clock) =
        s.store.revise u.id s.clock .keep := Store.revise_congr (by rw [hd]; rfl)
    rw [revised, hkeep] at hsave
    rw [hd] at hsave ⊢
    simp only [exec_bind_ok hsave, exec_log_bind, exec_pure, creation, hrow]
    rfl

/-- What is remembered is the same once the row is made. -/
theorem remembered_obtained (s : Site) (u : User) :
    (s.store.revise u.id s.clock .keep).remembered u.id s.clock =
      s.store.remembered u.id s.clock :=
  Store.remembered_of_dataOf? (Store.dataOf?_revise s.store u.id s.clock .keep) s.clock

/-- Saving fields once the row is obtained. -/
theorem exec_save_obtained {fields : UserDataFields} {d : UserData}
    (h : fields.applyTo (s.store.remembered u.id s.clock) = .ok d) :
    (save u fields).exec ((revised s u .keep).noting (creation s.store u.id)) =
      (.ok { d with updatedAt := s.clock },
        (revised s u (.assign fields s.clock)).noting (creation s.store u.id)) := by
  have hsave := exec_save (u := u) (d := d)
    (s := (revised s u .keep).noting (creation s.store u.id)) fields
    (by rw [Site.noting_store, Site.noting_clock]; exact (remembered_obtained s u).symm ▸ h)
  rw [hsave]
  -- making the row and saving it are one revision
  have htwice := Store.revise_revise s.store u.id s.clock .keep (.assign fields s.clock)
  unfold revised
  simp only [Site.noting_store, Site.noting_clock, htwice]
  rfl

theorem exec_save_obtained_error {fields : UserDataFields} {e : Failure}
    (h : fields.applyTo (s.store.remembered u.id s.clock) = .error e) :
    (save u fields).exec ((revised s u .keep).noting (creation s.store u.id)) =
      (.error e, (revised s u .keep).noting (creation s.store u.id)) := by
  apply exec_save_error
  rw [Site.noting_store, Site.noting_clock]
  exact (remembered_obtained s u).symm ▸ h

theorem creation_spec {store : Store} {user : ℕ} {e : Event} (h : e ∈ creation store user) :
    e = .userDataCreated user := by
  unfold creation at h
  split_ifs at h
  · cases h
  · exact List.mem_singleton.mp h

/-! ### Recording an application -/

/-- What is remembered once an application has been recorded. -/
def recorded (d : UserData) (applications workspaces : List Json) (now : Timestamp) : UserData :=
  { d with
    recentApplications := .list applications
    recentWorkspaces := .list workspaces
    updatedAt := now }

/-- Recording an application, as a revision. -/
def recording (applications workspaces : List Json) (now : Timestamp) : Revision where
  change d := recorded d applications workspaces now
  renumber _ _ := rfl
  user_eq _ := rfl

/-- An application can be recorded for a user: it has an id for clients, and both recency lists can
be touched and kept. -/
structure Recordable (s : Site) (u : User) (a : Application) (id : Json)
    (applications workspaces : List Json) : Prop where
  clientId : GitMetadata.clientId (.int a.id) a.gitMetadata = .ok id
  touchApplications : Recency.touchStored (s.store.remembered u.id s.clock).recentApplications id
    s.settings.recentLimit = .ok applications
  touchWorkspaces : Recency.touchStored (s.store.remembered u.id s.clock).recentWorkspaces
    (.int a.workspace) s.settings.recentLimit = .ok workspaces
  keepApplications : isKeepable (.list applications) = true
  keepWorkspaces : isKeepable (.list workspaces) = true

/-- Touches both recency lists of a user. -/
def touchLists (user : User) (id : Json) (workspace : ℕ) (limit : ℤ) : Service UserData := do
  let d ← obtain user
  let applications ← settle (Recency.touchStored d.recentApplications id limit)
  let workspaces ← settle (Recency.touchStored d.recentWorkspaces (.int workspace) limit)
  save user
    { recentApplications := some (.list applications)
      recentWorkspaces := some (.list workspaces) }

theorem exec_recordRecent (viewer : Viewer) (a : Application) (s : Site) :
    (recordRecent viewer a).exec s = (do
      let id ← settle (GitMetadata.clientId (.int a.id) a.gitMetadata)
      let user ← settle (keeper viewer)
      let data ← atomically (touchLists user id a.workspace s.settings.recentLimit)
      log (.recentApplicationRecorded user.id id a.workspace)
      return data : Service UserData).exec s := by
  unfold recordRecent touchLists
  rw [exec_get_bind]

theorem exec_touchLists (u : User) (id : Json) (workspace : ℕ) (limit : ℤ) (s : Site) :
    (∃ e, (touchLists u id workspace limit).exec s =
        (.error e, (revised s u .keep).noting (creation s.store u.id))) ∨
      ∃ applications workspaces,
        Recency.touchStored (s.store.remembered u.id s.clock).recentApplications id limit =
            .ok applications ∧
          Recency.touchStored (s.store.remembered u.id s.clock).recentWorkspaces
            (.int workspace) limit = .ok workspaces ∧
          isKeepable (.list applications) = true ∧ isKeepable (.list workspaces) = true := by
  -- up to the last line of `touchLists` nothing but the new row is written, whatever fails
  unfold touchLists
  rw [exec_bind_ok (exec_obtain u s)]
  cases has : Recency.touchStored (s.store.remembered u.id s.clock).recentApplications id limit with
  | error e => exact Or.inl ⟨e, by simp⟩
  | ok applications =>
    cases hws : Recency.touchStored (s.store.remembered u.id s.clock).recentWorkspaces
        (.int workspace) limit with
    | error e => exact Or.inl ⟨e, by simp⟩
    | ok workspaces =>
      by_cases hkeep : isKeepable (.list applications) = true ∧ isKeepable (.list workspaces) = true
      · exact Or.inr ⟨applications, workspaces, rfl, rfl, hkeep⟩
      · refine Or.inl ⟨.constraint, ?_⟩
        rw [exec_settle_ok_bind, exec_settle_ok_bind, exec_save_obtained_error]
        rw [UserDataFields.applyTo_eq, if_neg]
        exact fun h => hkeep ⟨h.2, h.1⟩

/-- **Recording** revises the two recency lists. -/
theorem exec_recordRecent_eq {a : Application} {id : Json} {applications workspaces : List Json}
    (h : Recordable s u a id applications workspaces) :
    (recordRecent (.user u) a).exec s =
      (.ok (recorded (s.store.remembered u.id s.clock) applications workspaces s.clock),
        (revised s u (recording applications workspaces s.clock)).noting
          (creation s.store u.id ++ [Event.recentApplicationRecorded u.id id a.workspace])) := by
  have htouch : (touchLists u id a.workspace s.settings.recentLimit).exec s =
      (.ok (recorded (s.store.remembered u.id s.clock) applications workspaces s.clock),
        (revised s u (recording applications workspaces s.clock)).noting
          (creation s.store u.id)) := by
    have happly : UserDataFields.applyTo
        { recentApplications := some (.list applications)
          recentWorkspaces := some (.list workspaces) } (s.store.remembered u.id s.clock) = .ok _ :=
      UserDataFields.applyTo_ok h.keepWorkspaces h.keepApplications
    unfold touchLists
    rw [exec_bind_ok (exec_obtain u s), h.touchApplications, h.touchWorkspaces,
      exec_settle_ok_bind, exec_settle_ok_bind, exec_save_obtained happly]
    rfl
  have hatomic := exec_atomically (touchLists u id a.workspace s.settings.recentLimit) s
  rw [htouch] at hatomic
  rw [exec_recordRecent, h.clientId, exec_settle_ok_bind, keeper_user, exec_settle_ok_bind,
    exec_bind_ok hatomic, exec_log_bind, exec_pure, Site.noting_noting]

/-- Recording touches the two recency lists of the row and leaves all else. -/
theorem exec_recordRecent_ok {a : Application} {id : Json} {applications workspaces : List Json}
    (h : Recordable s u a id applications workspaces) :
    ∃ store, (recordRecent (.user u) a).exec s =
        (.ok (recorded (s.store.remembered u.id s.clock) applications workspaces s.clock),
          { s with store }.noting
            (creation s.store u.id ++ [Event.recentApplicationRecorded u.id id a.workspace])) ∧
      store.dataOf? u.id =
        some (recorded (s.store.remembered u.id s.clock) applications workspaces s.clock) ∧
      Store.SameBut u.id s.store store :=
  ⟨_, exec_recordRecent_eq h, Store.dataOf?_revise _ _ _ _, Store.sameBut_revise _ _ _ _⟩

/-- **An application that cannot be recorded** changes nothing but the log. -/
theorem recordRecent_cases (viewer : Viewer) (a : Application) (s : Site) :
    (∃ e events, (recordRecent viewer a).exec s = (.error e, s.noting events) ∧
        ∀ event ∈ events, ∃ user, event = .userDataCreated user) ∨
      ∃ u id applications workspaces, viewer = .user u ∧
        Recordable s u a id applications workspaces := by
  rw [exec_recordRecent]
  cases hid : GitMetadata.clientId (.int a.id) a.gitMetadata with
  | error e => exact Or.inl ⟨e, [], by simp, by simp⟩
  | ok id =>
    rw [exec_settle_ok_bind]
    cases viewer with
    | nobody => exact Or.inl ⟨.constraint, [], by simp [keeper_nobody], by simp⟩
    | anonymous => exact Or.inl ⟨.visitorSought, [], by simp [keeper_anonymous], by simp⟩
    | user u =>
      rcases exec_touchLists u id a.workspace s.settings.recentLimit s with
        ⟨e, htouch⟩ | ⟨applications, workspaces, has, hws, hka, hkw⟩
      · have hatomic := exec_atomically (touchLists u id a.workspace s.settings.recentLimit) s
        rw [htouch] at hatomic
        -- the transaction takes back a row that was made, but what was noted of it stays in the log
        refine Or.inl ⟨e, creation s.store u.id, ?_, fun event h => ⟨u.id, creation_spec h⟩⟩
        rw [keeper_user, exec_settle_ok_bind, exec_bind_error hatomic]
        rfl
      · exact Or.inr ⟨u, id, applications, workspaces, rfl, hid, has, hws, hka, hkw⟩

/-! ### Fixing the viewed version -/

/-- What is remembered once the viewed version is fixed. -/
def viewed (d : UserData) (version : String) (now : Timestamp) : UserData :=
  if d.viewedVersion.isSome then d
  else { d with viewedVersion := some version, updatedAt := now }

/-- Fixing the viewed version, as a revision. -/
def viewing (version : String) (now : Timestamp) : Revision where
  change d := viewed d version now
  renumber d id := by
    unfold viewed
    split_ifs <;> rfl
  user_eq d := by
    unfold viewed
    split_ifs <;> rfl

/-- The viewed version stays if there is one. -/
theorem viewed_viewedVersion (d : UserData) (version : String) (now : Timestamp) :
    (viewed d version now).viewedVersion = d.viewedVersion.or (some version) := by
  unfold viewed
  cases h : d.viewedVersion <;> simp [h]

/-- The recency lists stay when the viewed version is fixed. -/
theorem viewed_recent (d : UserData) (version : String) (now : Timestamp) :
    (viewed d version now).recentWorkspaces = d.recentWorkspaces ∧
      (viewed d version now).recentApplications = d.recentApplications := by
  unfold viewed
  split_ifs <;> exact ⟨rfl, rfl⟩

/-- What is noted when the viewed version is fixed. -/
def initialisation (d : UserData) (version : String) : List Event :=
  if d.viewedVersion.isSome then [] else [.viewedVersionInitialised d.user version]

/-- The viewed version is fixed already, or the row can be saved. -/
def Viewable (d : UserData) : Prop :=
  d.viewedVersion.isSome = true ∨
    isKeepable d.recentWorkspaces = true ∧ isKeepable d.recentApplications = true

/-- Gives the row of a user, with the viewed version fixed, and tells whether it is fixed now. -/
def fixVersion (user : User) (version : String) : Service (UserData × Bool) := do
  let d ← obtain user
  if d.viewedVersion.isSome then return (d, false)
  else return (← save user { viewedVersion := some (some version) }, true)

theorem exec_ensureViewed (viewer : Viewer) (s : Site) :
    (ensureViewed viewer).exec s = (do
      let user ← settle (keeper viewer)
      let (data, isNew) ← atomically (fixVersion user s.settings.appVersion)
      if isNew then log (.viewedVersionInitialised user.id s.settings.appVersion)
      return data : Service UserData).exec s := by
  unfold ensureViewed fixVersion
  rw [exec_get_bind]

theorem exec_fixVersion (version : String) (h : Viewable (s.store.remembered u.id s.clock)) :
    (fixVersion u version).exec s =
      (.ok (viewed (s.store.remembered u.id s.clock) version s.clock,
          !(s.store.remembered u.id s.clock).viewedVersion.isSome),
        (revised s u (viewing version s.clock)).noting (creation s.store u.id)) := by
  unfold fixVersion viewed
  rw [exec_bind_ok (exec_obtain u s)]
  by_cases hseen : (s.store.remembered u.id s.clock).viewedVersion.isSome = true
  · have hkeep : s.store.revise u.id s.clock .keep =
        s.store.revise u.id s.clock (viewing version s.clock) :=
      Store.revise_congr (if_pos hseen).symm
    rw [if_pos hseen, if_pos hseen, exec_pure, hseen, revised, hkeep]
    rfl
  · have happly : UserDataFields.applyTo { viewedVersion := some (some version) }
        (s.store.remembered u.id s.clock) = .ok _ :=
      UserDataFields.applyTo_ok (h.resolve_left hseen).1 (h.resolve_left hseen).2
    have hassign :
        s.store.revise u.id s.clock
            (.assign { viewedVersion := some (some version) } s.clock) =
          s.store.revise u.id s.clock (viewing version s.clock) :=
      Store.revise_congr (if_neg hseen).symm
    rw [if_neg hseen, if_neg hseen, exec_bind_ok (exec_save_obtained happly), exec_pure,
      (Bool.not_eq_true _).mp hseen, revised, hassign]
    rfl

theorem exec_fixVersion_error (version : String)
    (h : ¬ Viewable (s.store.remembered u.id s.clock)) :
    (fixVersion u version).exec s =
      (.error .constraint, (revised s u .keep).noting (creation s.store u.id)) := by
  obtain ⟨hseen, hkeep⟩ := not_or.mp h
  unfold fixVersion
  rw [exec_bind_ok (exec_obtain u s), if_neg hseen, exec_bind_error]
  apply exec_save_obtained_error
  rw [UserDataFields.applyTo_eq]
  exact if_neg hkeep

/-- **Fixing the viewed version** revises it if there is none. -/
theorem exec_ensureViewed_eq (h : Viewable (s.store.remembered u.id s.clock)) :
    (ensureViewed (.user u)).exec s =
      (.ok (viewed (s.store.remembered u.id s.clock) s.settings.appVersion s.clock),
        (revised s u (viewing s.settings.appVersion s.clock)).noting (creation s.store u.id ++
          initialisation (s.store.remembered u.id s.clock) s.settings.appVersion)) := by
  have hatomic := exec_atomically (fixVersion u s.settings.appVersion) s
  rw [exec_fixVersion _ h] at hatomic
  rw [exec_ensureViewed, keeper_user, exec_settle_ok_bind, exec_bind_ok hatomic]
  unfold initialisation
  by_cases hseen : (s.store.remembered u.id s.clock).viewedVersion.isSome = true
  · rw [if_pos hseen, hseen, List.append_nil]
    rfl
  · rw [if_neg hseen, Store.remembered_user]
    simp only [Bool.not_eq_true] at hseen
    simp only [hseen, Bool.not_false, if_true, exec_log_bind, exec_pure, Site.noting_noting]

/-- Fixing the viewed version changes it only if there is none, and leaves all else. -/
theorem exec_ensureViewed_ok (h : Viewable (s.store.remembered u.id s.clock)) :
    ∃ store, (ensureViewed (.user u)).exec s =
        (.ok (viewed (s.store.remembered u.id s.clock) s.settings.appVersion s.clock),
          { s with store }.noting (creation s.store u.id ++
            initialisation (s.store.remembered u.id s.clock) s.settings.appVersion)) ∧
      store.dataOf? u.id =
        some (viewed (s.store.remembered u.id s.clock) s.settings.appVersion s.clock) ∧
      Store.SameBut u.id s.store store :=
  ⟨_, exec_ensureViewed_eq h, Store.dataOf?_revise _ _ _ _, Store.sameBut_revise _ _ _ _⟩

theorem exec_ensureViewed_error (h : ¬ Viewable (s.store.remembered u.id s.clock)) :
    (ensureViewed (.user u)).exec s =
      (.error .constraint, s.noting (creation s.store u.id)) := by
  have hatomic := exec_atomically (fixVersion u s.settings.appVersion) s
  rw [exec_fixVersion_error _ h] at hatomic
  rw [exec_ensureViewed, keeper_user, exec_settle_ok_bind, exec_bind_error hatomic]
  rfl

/-- **A viewed version that cannot be fixed** changes nothing but the log. -/
theorem ensureViewed_cases (viewer : Viewer) (s : Site) :
    (∃ e events, (ensureViewed viewer).exec s = (.error e, s.noting events)) ∨
      ∃ u, viewer = .user u ∧ Viewable (s.store.remembered u.id s.clock) := by
  cases viewer with
  | nobody => exact Or.inl ⟨.constraint, [], by simp [exec_ensureViewed, keeper_nobody]⟩
  | anonymous => exact Or.inl ⟨.visitorSought, [], by simp [exec_ensureViewed, keeper_anonymous]⟩
  | user u =>
    by_cases h : Viewable (s.store.remembered u.id s.clock)
    · exact Or.inr ⟨u, rfl, h⟩
    · exact Or.inl ⟨.constraint, _, exec_ensureViewed_error h⟩

end WorkspaceHome.Remembrance
