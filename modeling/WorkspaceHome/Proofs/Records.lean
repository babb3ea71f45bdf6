import WorkspaceHome.Proofs.Frame.Upheld
import WorkspaceHome.Proofs.Homepage.Shape
import WorkspaceHome.Proofs.Recency.History
import WorkspaceHome.Proofs.Store.Write

/-!
# The log accounts for the recency lists

Every recorded application leaves an entry in the log. The entries of a user account for the two
recency lists of the user: both are what touching with the recorded ids makes of the lists from
before (`Store.Accounts`). Each entry names the id and the workspace that an application of the
store had (`Store.Backs`). All that the service does keeps this (`accounting_upheld`).
-/

namespace WorkspaceHome

open Recency Service

/-! ### Records -/

/-- The id and the workspace that an entry of the log tells to be recorded for a user. -/
def LogEntry.recordOf (user : ℕ) (entry : LogEntry) : Option (Json × ℕ) :=
  match entry.event with
  | .recentApplicationRecorded u id workspace => if u = user then some (id, workspace) else none
  | _ => none

/-- What a log tells to be recorded for a user, the oldest first. -/
def recordsIn (user : ℕ) (log : List LogEntry) : List (Json × ℕ) := log.filterMap (·.recordOf user)

@[simp]
theorem recordsIn_nil (user : ℕ) : recordsIn user [] = [] := rfl

theorem recordsIn_append (user : ℕ) (xs ys : List LogEntry) :
    recordsIn user (xs ++ ys) = recordsIn user xs ++ recordsIn user ys :=
  List.filterMap_append

theorem recordsIn_eq_nil {user : ℕ} {events : List Event} (h : ∀ e ∈ events, e.isRecord = false)
    (context : Context) : recordsIn user (events.map fun e => ⟨e, context⟩) = [] := by
  unfold recordsIn
  rw [List.filterMap_eq_nil_iff]
  intro entry hentry
  obtain ⟨e, he, rfl⟩ := List.mem_map.mp hentry
  have hrecord := h e he
  unfold LogEntry.recordOf
  cases e <;> first | rfl | cases hrecord

namespace Store

/-- A record is true of a store: it has an application of this id for clients and this
workspace. -/
def Backs (s : Store) (record : Json × ℕ) : Prop :=
  ∃ a ∈ s.applications.rows,
    GitMetadata.clientId (.int a.id) a.gitMetadata = .ok record.1 ∧ a.workspace = record.2

/-- Records account for what has become of the recency lists of a user. -/
structure Accounts (user : ℕ) (limit : ℤ) (records : List (Json × ℕ)) (s t : Store) : Prop where
  applications : touchAll limit (s.recentOf user (·.recentApplications)) (records.map (·.1)) =
    .ok (t.recentOf user (·.recentApplications))
  workspaces : touchAll limit (s.recentOf user (·.recentWorkspaces))
    (records.map fun r => .int r.2) = .ok (t.recentOf user (·.recentWorkspaces))
  row : records ≠ [] ∨ (s.dataOf? user).isSome = true → (t.dataOf? user).isSome = true

namespace Accounts

variable {user : ℕ} {limit : ℤ} {xs ys : List (Json × ℕ)} {s t r : Store}

/-- The recency lists stay the same. -/
theorem of_recent (ha : t.recentOf user (·.recentApplications) =
      s.recentOf user (·.recentApplications))
    (hw : t.recentOf user (·.recentWorkspaces) = s.recentOf user (·.recentWorkspaces))
    (hrow : (s.dataOf? user).isSome = true → (t.dataOf? user).isSome = true) :
    Accounts user limit [] s t := by
  refine ⟨?_, ?_, ?_⟩
  · rw [ha]
    rfl
  · rw [hw]
    rfl
  · rintro (hne | hsome)
    · exact absurd rfl hne
    · exact hrow hsome

/-- What is remembered of the user stays the same. -/
theorem of_eq (h : t.dataOf? user = s.dataOf? user) : Accounts user limit [] s t := by
  have hrecent (field : UserData → Json) : t.recentOf user field = s.recentOf user field := by
    unfold recentOf
    rw [h]
  exact of_recent (hrecent _) (hrecent _) (by rw [h]; exact id)

theorem trans (h : Accounts user limit xs s t) (h' : Accounts user limit ys t r) :
    Accounts user limit (xs ++ ys) s r := by
  refine ⟨?_, ?_, ?_⟩
  · rw [List.map_append, touchAll_append, h.applications]
    exact h'.applications
  · rw [List.map_append, touchAll_append, h.workspaces]
    exact h'.workspaces
  · rintro (hne | hrow)
    -- once there is a row, it stays
    · by_cases hxs : xs = []
      · apply h'.row
        left
        rintro rfl
        exact hne (by rw [hxs]; rfl)
      · exact h'.row (Or.inr (h.row (Or.inl hxs)))
    · exact h'.row (Or.inr (h.row (Or.inr hrow)))

end Accounts

end Store

/-! ### The frame -/

/-- The log tells what happens to the recency lists of a user; applications and the limit stay. -/
structure Site.Accounts (user : ℕ) (s t : Site) : Prop where
  limit : t.settings.recentLimit = s.settings.recentLimit
  applications : t.store.applications = s.store.applications
  log : ∃ new, t.log = s.log ++ new ∧
    Store.Accounts user s.settings.recentLimit (recordsIn user new) s.store t.store ∧
      ∀ record ∈ recordsIn user new, s.store.Backs record

namespace Site.Accounts

variable {user : ℕ} {s t r : Site}

/-- Nothing is recorded, and what is remembered of the user stays the same. -/
theorem of_eq (events : List Event) (hevents : ∀ e ∈ events, e.isRecord = false)
    (hlog : t.log = s.log ++ events.map fun e => ⟨e, s.context⟩)
    (hlimit : t.settings.recentLimit = s.settings.recentLimit)
    (happlications : t.store.applications = s.store.applications)
    (hdata : t.store.dataOf? user = s.store.dataOf? user) : Accounts user s t := by
  refine ⟨hlimit, happlications, _, hlog, ?_, ?_⟩
  · rw [recordsIn_eq_nil hevents]
    exact Store.Accounts.of_eq hdata
  · rw [recordsIn_eq_nil hevents]
    exact fun record h => absurd h List.not_mem_nil

theorem trans (h : Accounts user s t) (h' : Accounts user t r) : Accounts user s r := by
  obtain ⟨new, hlog, haccounts, hbacks⟩ := h.log
  obtain ⟨new', hlog', haccounts', hbacks'⟩ := h'.log
  refine ⟨h'.limit.trans h.limit, h'.applications.trans h.applications, new ++ new', ?_, ?_, ?_⟩
  · rw [hlog', hlog, List.append_assoc]
  · rw [recordsIn_append]
    rw [h.limit] at haccounts'
    exact haccounts.trans haccounts'
  · intro record hrecord
    rw [recordsIn_append] at hrecord
    rcases List.mem_append.mp hrecord with hrecord | hrecord
    · exact hbacks record hrecord
    · have hback := hbacks' record hrecord
      unfold Store.Backs at hback ⊢
      rwa [h.applications] at hback

/-- The log does not grow, and what is remembered of the user stays the same. -/
theorem of_log_eq (hlog : t.log = s.log)
    (hlimit : t.settings.recentLimit = s.settings.recentLimit)
    (happlications : t.store.applications = s.store.applications)
    (hdata : t.store.dataOf? user = s.store.dataOf? user) : Accounts user s t :=
  of_eq [] (fun e h => absurd h List.not_mem_nil)
    (by rw [hlog, List.map_nil, List.append_nil]) hlimit happlications hdata

end Site.Accounts

/-- The frame of accounts. -/
def accounting (user : ℕ) : Frame where
  rel := Site.Accounts user
  refl := fun _ => .of_log_eq rfl rfl rfl rfl
  trans := Site.Accounts.trans

variable {user : ℕ}

theorem accounting_lenient : (accounting user).Lenient where
  entry := fun s e he => by
    refine Site.Accounts.of_eq [e] ?_ rfl rfl rfl rfl
    intro e' he'
    rwa [List.mem_singleton.mp he']
  cache := fun _ _ => .of_log_eq rfl rfl rfl rfl
  requests := fun _ _ => .of_log_eq rfl rfl rfl rfl

/-! ### What is remembered -/

theorem isRecord_creation (s : Store) (user : ℕ) :
    ∀ e ∈ Remembrance.creation s user, e.isRecord = false := by
  intro e he
  rw [Remembrance.creation_spec he]
  rfl

theorem isRecord_initialisation (d : UserData) (version : String) :
    ∀ e ∈ Remembrance.initialisation d version, e.isRecord = false := by
  intro e he
  unfold Remembrance.initialisation at he
  split_ifs at he
  · cases he
  · rw [List.mem_singleton.mp he]
    rfl

/-- Recording an application of the store accounts for itself. -/
theorem accounting_record (viewer : Viewer) (s : Site) {a : Application}
    (ha : a ∈ s.store.applications.rows) :
    (accounting user).KeepsAt (Remembrance.recordRecent viewer a) s := by
  unfold Frame.KeepsAt
  rcases Remembrance.recordRecent_cases viewer a s with
    ⟨e, events, hexec, hevents⟩ | ⟨u, id, applications, workspaces, rfl, hrecord⟩
  -- a failure leaves no record
  · rw [hexec]
    apply accounting_lenient.noting
    intro event hevent
    obtain ⟨_, rfl⟩ := hevents event hevent
    rfl
  obtain ⟨store, hexec, hrow, hsame⟩ := Remembrance.exec_recordRecent_ok hrecord
  rw [hexec]
  obtain ⟨hws, has⟩ := s.store.remembered_recent u.id s.clock
  -- that the row was made is noted, but is no record
  have hcreation :
      recordsIn user ((Remembrance.creation s.store u.id).map fun e => ⟨e, s.context⟩) = [] :=
    recordsIn_eq_nil (isRecord_creation s.store u.id) s.context
  refine ⟨rfl, hsame.applications, _, rfl, ?_⟩
  rw [List.map_append, recordsIn_append, hcreation, List.nil_append]
  -- for another user neither the record nor the row that it changes counts
  by_cases huser : u.id = user
  · subst huser
    have hnew : recordsIn u.id
        ([Event.recentApplicationRecorded u.id id a.workspace].map fun e => ⟨e, s.context⟩) =
        [(id, a.workspace)] := by
      simp [recordsIn, LogEntry.recordOf]
    rw [hnew]
    -- both lists are touched by the one record, and the row is there afterwards
    refine ⟨⟨?_, ?_, ?_⟩, ?_⟩
    · rw [List.map_singleton, touchAll_singleton, ← has, hrecord.touchApplications, Store.recentOf,
        Site.noting_store, hrow]
      rfl
    · rw [List.map_singleton, touchAll_singleton, ← hws, hrecord.touchWorkspaces, Store.recentOf,
        Site.noting_store, hrow]
      rfl
    · intro _
      rw [Site.noting_store, hrow]
      rfl
    · intro record hmem
      rw [List.mem_singleton.mp hmem]
      exact ⟨a, ha, hrecord.clientId, rfl⟩
  · have hnew : recordsIn user
        ([Event.recentApplicationRecorded u.id id a.workspace].map fun e => ⟨e, s.context⟩) =
        [] := by
      simp [recordsIn, LogEntry.recordOf, huser]
    rw [hnew]
    refine ⟨Store.Accounts.of_eq ?_, fun record h => absurd h List.not_mem_nil⟩
    exact hsame.dataOf?_eq (Ne.symm huser)

/-- Fixing the viewed version leaves the recency lists. -/
theorem accounting_viewed (viewer : Viewer) :
    (accounting user).Keeps (Remembrance.ensureViewed viewer) := by
  intro s
  unfold Frame.KeepsAt
  cases viewer with
  | nobody => exact (accounting user).refl s
  | anonymous => exact (accounting user).refl s
  | user u =>
    by_cases hviewable : Remembrance.Viewable (s.store.remembered u.id s.clock)
    · obtain ⟨store, hexec, hrow, hsame⟩ := Remembrance.exec_ensureViewed_ok hviewable
      rw [hexec]
      obtain ⟨hws, has⟩ := s.store.remembered_recent u.id s.clock
      refine ⟨rfl, hsame.applications, _, rfl, ?_⟩
      rw [List.map_append, recordsIn_append, recordsIn_eq_nil (isRecord_creation _ _),
        recordsIn_eq_nil (isRecord_initialisation _ _)]
      refine ⟨?_, fun record h => absurd h List.not_mem_nil⟩
      -- the row of the user keeps its lists; that of another user is not looked at
      by_cases huser : u.id = user
      · subst huser
        apply Store.Accounts.of_recent
        · rw [← has, Store.recentOf, Site.noting_store, hrow]
          exact (Remembrance.viewed_recent _ _ _).2
        · rw [← hws, Store.recentOf, Site.noting_store, hrow]
          exact (Remembrance.viewed_recent _ _ _).1
        · intro _
          rw [Site.noting_store, hrow]
          rfl
      · exact Store.Accounts.of_eq (hsame.dataOf?_eq (Ne.symm huser))
    · rw [Remembrance.exec_ensureViewed_error hviewable]
      exact accounting_lenient.noting (isRecord_creation _ _) s

/-! ### Creating a workspace -/

/-- Nothing changes but tables other than those of applications and of what is remembered. -/
def aside : Frame where
  rel s t := ∃ store : Store, t = { s with store } ∧ store.applications = s.store.applications ∧
    store.userData = s.store.userData
  refl := fun s => ⟨s.store, rfl, rfl, rfl⟩
  trans := by
    rintro s _ _ ⟨store, rfl, ha, hd⟩ ⟨store', rfl, ha', hd'⟩
    exact ⟨store', rfl, ha'.trans ha, hd'.trans hd⟩

theorem accounts_of_aside {s t : Site} (h : aside.rel s t) : Site.Accounts user s t := by
  obtain ⟨store, rfl, ha, hd⟩ := h
  refine .of_log_eq rfl rfl ha ?_
  unfold Store.dataOf?
  rw [hd]

theorem keeps_aside_write {α : Type} {op : Store → Timestamp → Except Failure (α × Store)}
    (h : ∀ s now a s', op s now = .ok (a, s') →
      s'.applications = s.applications ∧ s'.userData = s.userData) : aside.Keeps (write op) :=
  fun _ => Frame.keepsAt_write fun _ store hop => ⟨store, rfl, h _ _ _ _ hop⟩

theorem keeps_aside_found (name : Json) (viewer : Viewer) :
    aside.Keeps (Workspaces.found name viewer) := by
  intro s
  unfold Frame.KeepsAt Workspaces.found
  rw [exec_atomically]
  -- neither of the two writes touches applications or what is remembered
  have hsteps : aside.Keeps (do
      let workspace ← write fun s now => s.addWorkspace name.fieldText none now
      let owner ← settle viewer.owner
      let _ ← write fun s _ => s.addMember workspace.id owner.id (some Workspaces.administrator)
      return (workspace, owner) : Service (Workspace × User)) := by
    refine (keeps_aside_write ?_).bind fun workspace => (Frame.keeps_settle _).bind fun owner =>
      (keeps_aside_write ?_).bind fun _ => Frame.keeps_pure _
    · intro s now w s' h
      obtain ⟨workspaces, rfl⟩ := Store.eq_of_addWorkspace h
      exact ⟨rfl, rfl⟩
    · intro s now m s' h
      obtain ⟨memberships, rfl⟩ := Store.eq_of_addMember h
      exact ⟨rfl, rfl⟩
  have hrel := hsteps s
  unfold Frame.KeepsAt at hrel
  -- a workspace that is made before its owner turns out to be missing is taken back
  rcases hrun : Service.exec _ s with ⟨e | found, t⟩
  · rw [hrun] at hrel
    obtain ⟨store, rfl, -, -⟩ := hrel
    exact ⟨s.store, rfl, rfl, rfl⟩
  · rw [hrun] at hrel
    exact hrel

/-- Creating a workspace leaves what is remembered. -/
theorem accounting_create (name : Json) (viewer : Viewer) :
    (accounting user).Keeps (Workspaces.create name viewer) := by
  have hfound : (accounting user).Keeps (Workspaces.found name viewer) :=
    fun s => accounts_of_aside (keeps_aside_found name viewer s)
  unfold Workspaces.create
  refine Frame.Keeps.bind ?_ fun result =>
    (accounting_lenient.log (by rfl)).bind fun _ => Frame.keeps_pure _
  exact hfound.tryCatch fun e => Frame.keeps_throw _

/-- **The log accounts for the recency lists** of every user, whatever the service does. -/
theorem accounting_upheld : (accounting user).Upheld where
  toLenient := accounting_lenient
  record := fun viewer s _ ha => accounting_record viewer s ha
  viewed := accounting_viewed
  create := accounting_create

end WorkspaceHome
