import WorkspaceHome.Operation.Basic
import WorkspaceHome.Proofs.Frame.Lenient

/-!
# Frames that the service keeps

A lenient frame is upheld if it is kept by the three operations on which it may depend: recording an
application of the store, fixing the viewed version and creating a workspace. Then it is kept by all
that the service can be called for (`Upheld.call`). The calls that cannot fix a viewed version, or
that do not get the release notes, ask less of the frame (`Lenient.call`, `Mild.call`), and what
happens around the service asks nothing about the store (`keeps_surroundings`).
-/

namespace WorkspaceHome.Service.Frame

/-- A lenient frame that the three operations keep that write to the store. -/
structure Upheld (F : Frame) : Prop extends F.Lenient where
  record : ∀ viewer s, ∀ a ∈ s.store.applications.rows,
    F.KeepsAt (Remembrance.recordRecent viewer a) s
  viewed : ∀ viewer, F.Keeps (Remembrance.ensureViewed viewer)
  create : ∀ name viewer, F.Keeps (Workspaces.create name viewer)

variable {F : Frame} {α : Type}

/-! ### Reading -/

theorem keeps_viewer (caller : Caller) : F.Keeps caller.viewer := by
  cases caller with
  | nobody => exact keeps_pure _
  | anonymous => exact keeps_pure _
  | named username =>
    exact (keeps_ask _).bind fun found => (keeps_settle _).bind fun user => keeps_pure _

theorem keeps_of (viewer : Viewer) : F.Keeps (Remembrance.of viewer) := by
  unfold Remembrance.of
  refine (keeps_settle _).bind fun sought => ?_
  cases sought with
  | none => exact keeps_pure none
  | some u => exact keeps_ask _

theorem keeps_admits (workspace : ℕ) (viewer : Viewer) :
    F.Keeps (Workspaces.admits workspace viewer) := by
  unfold Workspaces.admits
  refine (keeps_settle _).bind fun sought => ?_
  cases sought with
  | none => exact keeps_pure false
  | some u => exact keeps_ask _

theorem keeps_findWorkspace (key : Json) (viewer : Viewer) :
    F.Keeps (Workspaces.find key viewer) := by
  unfold Workspaces.find
  refine (keeps_settle _).bind fun id => (keeps_ask _).bind fun found => ?_
  cases found with
  | none => exact keeps_throw _
  | some workspace =>
    refine (keeps_admits _ _).bind fun admitted => ?_
    cases admitted with
    | false => exact keeps_throw _
    | true => exact keeps_pure workspace

theorem keeps_findApplication (key : Json) (viewer : Viewer) :
    F.Keeps (Applications.find key viewer) := by
  unfold Applications.find
  refine (keeps_settle _).bind fun id => (keeps_ask _).bind fun found => ?_
  cases found with
  | none => exact keeps_throw _
  | some application =>
    refine (keeps_admits _ _).bind fun admitted => ?_
    cases admitted with
    | false => exact keeps_throw _
    | true => exact keeps_pure application

theorem keeps_storedId (table : TableName) (id : Json) :
    F.Keeps (RowOperation.storedId table id) := by
  unfold RowOperation.storedId
  refine (keeps_settle _).bind fun n => (keeps_ask _).bind fun held => ?_
  cases held with
  | false => exact keeps_throw _
  | true => exact keeps_pure n

theorem keeps_shown (toJson : α → Json) (find : Store → Option α) :
    F.Keeps (RowOperation.shown toJson find) :=
  (keeps_ask _).bind fun _ => (keeps_settle _).bind fun _ => keeps_pure _

/-- The frame of doing nothing. -/
def unchanged : Frame := ⟨fun s t => t = s, fun _ => rfl, fun h h' => h'.trans h⟩

/-- An application that is found is one of the store, and finding it changes nothing. -/
theorem mem_of_findApplication {key : Json} {viewer : Viewer} {s t : Site} {a : Application}
    (h : (Applications.find key viewer).exec s = (.ok a, t)) :
    t = s ∧ a ∈ s.store.applications.rows := by
  have hkeep := keeps_findApplication (F := unchanged) key viewer s
  unfold KeepsAt at hkeep
  rw [h] at hkeep
  refine ⟨hkeep, ?_⟩
  -- every way out but the last is a failure
  unfold Applications.find at h
  dsimp only at h
  cases hid : keyNumber key.display with
  | error e =>
    rw [hid] at h
    cases h
  | ok id =>
    rw [hid, exec_settle_ok_bind, exec_ask_bind] at h
    cases hfound : s.store.applications.rows.find? fun a => id == some (a.id : ℤ) with
    | none =>
      rw [hfound] at h
      cases h
    | some application =>
      rw [hfound] at h
      dsimp only at h
      rw [exec_bind] at h
      rcases hadmits : (Workspaces.admits application.workspace viewer).exec s with
        ⟨e | admitted, r⟩
      · rw [hadmits] at h
        cases h
      · rw [hadmits] at h
        cases admitted with
        | false => cases h
        | true =>
          cases h
          exact List.mem_of_find?_eq_some hfound

/-! ### Calls -/

/-- Whether a call may fix the viewed version. -/
def fixesVersion : ServiceCall → Bool
  | .ensureViewed _ | .homepage .. => true
  | _ => false

/-- Whether a call may get the release notes. -/
def getsNews : ServiceCall → Bool
  | .homepage .. | .releaseNotes _ => true
  | _ => false

/-- Whether a call may write to the store. -/
def writes : ServiceCall → Bool
  | .recordRecent .. | .ensureViewed _ | .createWorkspace .. | .homepage .. => true
  | _ => false

/-- A call that only reads keeps a mild frame if getting the release notes does in so far as the
call may do so. -/
theorem Mild.call_of_reading (hF : F.Mild) {c : ServiceCall} (hreads : writes c = false)
    (news : getsNews c = true → ∀ url, F.Keeps (ReleaseNotes.nodesAt url)) :
    F.Keeps c.perform := by
  unfold ServiceCall.perform
  -- these calls look things up and end
  cases c with
  | userData user =>
    exact (keeps_viewer user).bind fun viewer => (keeps_of viewer).bind fun data => keeps_pure _
  | findWorkspace key user =>
    exact (keeps_viewer user).bind fun viewer =>
      (keeps_findWorkspace key viewer).bind fun w => keeps_pure _
  | findApplication key user =>
    exact (keeps_viewer user).bind fun viewer =>
      (keeps_findApplication key viewer).bind fun a => keeps_pure _
  | workspaceIds user =>
    refine (keeps_viewer user).bind fun viewer => (keeps_settle _).bind fun sought => ?_
    cases sought with
    | none => exact keeps_pure _
    | some u => exact (keeps_ask _).bind fun ids => keeps_pure _
  | workspaces ids =>
    exact (keeps_settle _).bind fun numbers => (keeps_ask _).bind fun found => keeps_pure _
  | roles ids =>
    exact (keeps_settle _).bind fun numbers => (keeps_ask _).bind fun found => keeps_pure _
  | visibleApplications ids =>
    exact (keeps_settle _).bind fun numbers => (hF.visibleIn numbers).bind fun found => keeps_pure _
  | pages ids =>
    exact (keeps_settle _).bind fun numbers => (keeps_ask _).bind fun found => keeps_pure _
  | releaseNotes url =>
    exact keeps_get.bind fun s => (news rfl _).bind fun nodes =>
      keeps_pure _
  | _ => cases hreads

/-- **The service keeps a mild frame**, whatever it is called for, if recording an application and
creating a workspace keep it, and fixing the viewed version and getting the release notes in so far
as the call may do so. -/
theorem Mild.call (hF : F.Mild)
    (record : ∀ viewer s, ∀ a ∈ s.store.applications.rows,
      F.KeepsAt (Remembrance.recordRecent viewer a) s)
    (create : ∀ name viewer, F.Keeps (Workspaces.create name viewer)) (c : ServiceCall)
    (viewed : fixesVersion c = true → ∀ viewer, F.Keeps (Remembrance.ensureViewed viewer))
    (news : getsNews c = true → ∀ url, F.Keeps (ReleaseNotes.nodesAt url)) :
    F.Keeps c.perform := by
  cases c with
  | recordRecent user application =>
    intro s
    refine (keeps_viewer user s).bind fun viewer t _ => ?_
    refine (keeps_settle _ t).bind fun id t _ => ?_
    refine (keeps_ask _ t).bind fun found r hfound => ?_
    rw [exec_ask] at hfound
    cases hfound
    cases hrow : t.store.applications.find? id with
    | none => exact keeps_throw _ t
    | some a =>
      -- what is recorded is an application of the store
      have ha := (Table.find?_eq_some_iff.mp hrow).1
      exact (record viewer t a ha).bind fun data t _ => keeps_pure _ t
  | ensureViewed user =>
    exact (keeps_viewer user).bind fun viewer => (viewed rfl viewer).bind fun data => keeps_pure _
  | createWorkspace name user =>
    exact (keeps_viewer user).bind fun viewer => (create name viewer).bind fun w => keeps_pure _
  | homepage user url =>
    exact (keeps_viewer user).bind fun viewer =>
      (hF.build (news rfl) (viewed rfl) viewer url).bind fun homepage => keeps_pure _
  | _ => exact hF.call_of_reading rfl news

/-- **The service keeps a lenient frame**, whatever it is called for, if recording an application
and creating a workspace keep it, and fixing the viewed version in so far as the call may do so. -/
theorem Lenient.call (hF : F.Lenient)
    (record : ∀ viewer s, ∀ a ∈ s.store.applications.rows,
      F.KeepsAt (Remembrance.recordRecent viewer a) s)
    (create : ∀ name viewer, F.Keeps (Workspaces.create name viewer)) (c : ServiceCall)
    (viewed : fixesVersion c = true → ∀ viewer, F.Keeps (Remembrance.ensureViewed viewer)) :
    F.Keeps c.perform :=
  hF.toMild.call record create c viewed fun _ url =>
    (ReleaseNotes.detached_nodesAt url).keeps hF.distant

/-- **The service keeps an upheld frame**, whatever it is called for. -/
theorem Upheld.call (hF : F.Upheld) (c : ServiceCall) : F.Keeps c.perform :=
  hF.toLenient.call hF.record hF.create c fun _ => hF.viewed

/-! ### The surroundings -/

/-- What happens around the service keeps a frame that does not mind it; that somebody writes to the
cache has to be minded only where it may happen. -/
theorem keeps_surroundings
    (around : ∀ s clock values feed mode,
      F.rel s { s with
        clock, feed
        settings := s.settings.assignAll values
        cache := { s.cache with mode } })
    (operation : Surroundings)
    (written : ∀ value lifetime, operation = .writeCache value lifetime →
      ∀ s cache, F.rel s { s with cache }) :
    F.Keeps operation.perform := by
  unfold Surroundings.perform
  intro s
  cases operation with
  | changeSettings values => exact around s s.clock values s.feed s.cache.mode
  | moveClock moment micros => exact around s _ [] s.feed s.cache.mode
  | changeFeed feed => exact around s s.clock [] feed s.cache.mode
  | changeCache mode => exact around s s.clock [] s.feed mode
  | writeCache value lifetime =>
    unfold KeepsAt Surroundings.access
    rw [exec_get_bind]
    dsimp only
    cases s.cache.put s.clock (ReleaseNotes.cacheKey s.settings) value lifetime with
    | error fault => exact F.refl s
    | ok cache => exact written value lifetime rfl s cache
  | readCache =>
    exact (keeps_get.bind fun s => (keeps_settle _).bind fun v => keeps_pure _) s

end WorkspaceHome.Service.Frame
