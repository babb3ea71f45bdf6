import WorkspaceHome.Proofs.Frame.Rows

/-!
# Frames and single writes

A frame is writable if it is kept by every single write to the store, by taking back what has been
written, and by entries of the log. Then it is kept by all operations that write: those on what is
remembered (`Writable.recordRecent`, `Writable.ensureViewed`), creating a workspace
(`Writable.create`) and what an administrator does (`Writable.rows`). A frame that does not mind the
store is writable (`Writable.of_store`), such as one that fixes a view of the rest of the site
(`fixing_writable`).
-/

namespace WorkspaceHome.Service.Frame

/-- A frame that the single writes keep. -/
structure Writable (F : Frame) : Prop where
  entry : ∀ s e, F.rel s (s.noting [e])
  atomically : ∀ {α : Type} {x : Service α}, F.Keeps x → F.Keeps (Service.atomically x)
  addUser : ∀ username email firstName lastName,
    F.Keeps (write fun s _ => s.addUser username email firstName lastName)
  addWorkspace : ∀ name slug, F.Keeps (write fun s now => s.addWorkspace name slug now)
  saveWorkspace : ∀ id fields,
    F.Keeps (RowOperation.save fun s now => s.saveWorkspace id fields now)
  addMember : ∀ workspace user role, F.Keeps (write fun s _ => s.addMember workspace user role)
  removeMember : ∀ workspace user, F.Keeps (write fun s _ => .ok (s.removeMember workspace user))
  addApplication : ∀ workspace fields, F.Keeps (write fun s _ => s.addApplication workspace fields)
  saveApplication : ∀ id fields, F.Keeps (RowOperation.save fun s _ => s.saveApplication id fields)
  addPage : ∀ application fields, F.Keeps (write fun s _ => s.addPage application fields)
  savePage : ∀ id fields, F.Keeps (RowOperation.save fun s _ => s.savePage id fields)
  saveUserData : ∀ user fields, F.Keeps (Remembrance.save user fields)
  erase : ∀ (table : TableName) id, F.Keeps (update (table.erase · id))

namespace Writable

variable {F : Frame} {α : Type}

/-- A frame that minds neither the store nor the log is writable. -/
theorem of_store (store : ∀ s store, F.rel s { s with store })
    (entry : ∀ s e, F.rel s (s.noting [e])) : F.Writable := by
  have hwrite {α : Type} (op : Store → Timestamp → Except Failure (α × Store)) :
      F.Keeps (write op) := fun s => keepsAt_write fun _ after _ => store s after
  have hupdate (change : Store → Store) : F.Keeps (update change) := fun s => store s _
  exact
    { entry := entry
      atomically := fun hx => keeps_get.bind fun s =>
        hx.tryCatch fun e => (hupdate _).bind fun _ => keeps_throw e
      addUser := fun _ _ _ _ => hwrite _
      addWorkspace := fun _ _ => hwrite _
      saveWorkspace := fun _ _ => hwrite _
      addMember := fun _ _ _ => hwrite _
      removeMember := fun _ _ => hwrite _
      addApplication := fun _ _ => hwrite _
      saveApplication := fun _ _ => hwrite _
      addPage := fun _ _ => hwrite _
      savePage := fun _ _ => hwrite _
      saveUserData := fun _ _ => hwrite _
      erase := fun _ _ => hupdate _ }

variable (hF : F.Writable)

include hF

theorem log (e : Event) : F.Keeps (log e) := fun s => hF.entry s e

/-! ### What is remembered -/

theorem obtain (user : User) : F.Keeps (Remembrance.obtain user) := by
  unfold Remembrance.obtain
  refine (keeps_ask _).bind fun found => ?_
  cases found with
  | some d => exact keeps_pure d
  | none =>
    exact (hF.saveUserData user {}).bind fun d => (hF.log _).bind fun _ => keeps_pure d

theorem recordRecent (viewer : Viewer) (a : Application) :
    F.Keeps (Remembrance.recordRecent viewer a) := by
  unfold Remembrance.recordRecent
  refine keeps_get.bind fun s => (keeps_settle _).bind fun id => (keeps_settle _).bind fun user =>
    (hF.atomically ?_).bind fun data => (hF.log _).bind fun _ => keeps_pure data
  exact (hF.obtain user).bind fun d => (keeps_settle _).bind fun applications =>
    (keeps_settle _).bind fun workspaces => hF.saveUserData user _

theorem ensureViewed (viewer : Viewer) : F.Keeps (Remembrance.ensureViewed viewer) := by
  have hfix (user : User) (version : String) :
      F.Keeps (Remembrance.fixVersion user version) := by
    refine (hF.obtain user).bind fun d => ?_
    split
    · exact keeps_pure _
    · exact (hF.saveUserData user _).bind fun _ => keeps_pure _
  intro s
  unfold KeepsAt
  rw [Remembrance.exec_ensureViewed]
  refine Keeps.bind (keeps_settle _) (fun user =>
    (hF.atomically (hfix user _)).bind fun result => ?_) s
  obtain ⟨data, isNew⟩ := result
  cases isNew with
  | false => exact keeps_pure data
  | true => exact (hF.log _).bind fun _ => keeps_pure data

/-! ### Workspaces -/

theorem create (name : Json) (viewer : Viewer) : F.Keeps (Workspaces.create name viewer) := by
  have hfound : F.Keeps (Workspaces.found name viewer) :=
    hF.atomically ((hF.addWorkspace _ _).bind fun workspace => (keeps_settle _).bind fun owner =>
      (hF.addMember _ _ _).bind fun _ => keeps_pure _)
  unfold Workspaces.create
  refine Keeps.bind ?_ fun result => (hF.log _).bind fun _ => keeps_pure _
  exact hfound.tryCatch fun e => keeps_throw _

/-! ### Rows -/

theorem rows (operation : RowOperation) : F.Keeps operation.perform := by
  intro s
  refine keepsAt_rows ?_
  cases operation with
  | addUser username email firstName lastName => exact hF.addUser _ _ _ _ s
  | addWorkspace name slug => exact hF.addWorkspace _ _ s
  | saveWorkspace id fields => exact fun n _ => hF.saveWorkspace n fields s
  | addMember workspace user role => exact fun n u => hF.addMember n u role s
  | removeMember workspace user => exact fun n u => hF.removeMember n u s
  | addApplication workspace fields => exact fun n => hF.addApplication n _ s
  | saveApplication id workspace fields => exact fun n w _ => hF.saveApplication n _ s
  | addPage application fields => exact fun n => hF.addPage n fields s
  | savePage id fields => exact fun n _ => hF.savePage n fields s
  | saveUserData user fields => exact fun u _ => hF.saveUserData u fields s
  | delete table id => exact fun n _ => hF.erase table n s
  | showLine table id => trivial
  | showForm form table id => trivial

/-- A writable frame is kept by recording any application, one of the store in particular. -/
theorem record (viewer : Viewer) (s : Site) :
    ∀ a ∈ s.store.applications.rows, F.KeepsAt (Remembrance.recordRecent viewer a) s :=
  fun a _ => hF.recordRecent viewer a s

/-- A lenient frame that is writable is upheld. -/
theorem upheld (hlenient : F.Lenient) : F.Upheld where
  toLenient := hlenient
  record := hF.record
  viewed := hF.ensureViewed
  create := hF.create

end Writable

/-! ### Fixing a view -/

section fixing

variable {γ : Type} {view : Site → γ}

/-- A view that shows neither the store nor what is noted is fixed by all that is noted. -/
theorem fixing_mild (h : ∀ s store log context, view { s with store, log, context } = view s) :
    (fixing view).Mild where
  entry := fun s e _ => h s s.store (s.noting [e]).log s.context

/-- A view that shows neither the store nor what is noted is fixed by all that is written. -/
theorem fixing_writable (h : ∀ s store log context, view { s with store, log, context } = view s) :
    (fixing view).Writable :=
  Writable.of_store (fun s store => h s store s.log s.context) fun s e =>
    h s s.store (s.noting [e]).log s.context

end fixing

end WorkspaceHome.Service.Frame
