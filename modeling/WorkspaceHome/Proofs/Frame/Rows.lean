import WorkspaceHome.Proofs.Fallible
import WorkspaceHome.Proofs.Operation.Caller

/-!
# Operations on rows and their single writes

An administrator's operation on rows finds out what it is about, writes once, and shows what came of
it. Only the write can break a frame, so an operation keeps a frame on a site if its write does
(`KeepsWriteOf`, `keepsAt_rows`); the write may be taken to be about the rows that are named.
-/

namespace WorkspaceHome

open Service

/-- An id that is found is the id of a row. -/
theorem storedId_spec {table : TableName} {id : Json} {s t : Site} {n : ℕ}
    (h : (RowOperation.storedId table id).exec s = (.ok n, t)) :
    t = s ∧ id.rowId = .ok n ∧ table.holds s.store n = true := by
  unfold RowOperation.storedId at h
  cases hid : id.rowId with
  | error e =>
    rw [hid] at h
    cases h
  | ok m =>
    rw [hid, exec_settle_ok_bind, exec_ask_bind] at h
    cases hheld : table.holds s.store m with
    | false =>
      rw [hheld] at h
      cases h
    | true =>
      rw [hheld] at h
      cases h
      exact ⟨rfl, rfl, hheld⟩

namespace Service.Frame

variable {F : Frame} {α β : Type} {s : Site}

/-! ### Before a write, and in it -/

/-- What changes nothing may come first. -/
theorem keepsAt_bind_unchanged {x : Service β} {f : β → Service α} (hx : unchanged.Keeps x)
    (hf : ∀ b, x.exec s = (.ok b, s) → F.KeepsAt (f b) s) : F.KeepsAt (x >>= f) s := by
  have hsame : (x.exec s).2 = s := hx s
  have hkept : F.KeepsAt x s := by
    unfold KeepsAt
    rw [hsame]
    exact F.refl s
  refine hkept.bind fun b t hb => ?_
  obtain rfl : t = s := by rwa [hb] at hsame
  exact hf b hb

theorem keepsAt_bind_settle {r : Except Failure β} {f : β → Service α}
    (hf : ∀ b, r = .ok b → F.KeepsAt (f b) s) : F.KeepsAt (settle r >>= f) s := by
  refine keepsAt_bind_unchanged (keeps_settle r) fun b hb => hf b ?_
  rw [exec_settle] at hb
  exact congrArg Prod.fst hb

/-- Saving keeps a frame that relates the store to what is saved. -/
theorem keepsAt_save {op : Store → Timestamp → Except Failure Store}
    (h : ∀ store, op s.store s.clock = .ok store → F.rel s { s with store }) :
    F.KeepsAt (RowOperation.save op) s := by
  refine keepsAt_write fun _ store hop => ?_
  obtain ⟨saved, hsaved, heq⟩ := bind_eq_ok_iff.mp hop
  cases heq
  exact h store hsaved

/-! ### Operations on rows -/

/-- The single write of an operation keeps a frame on a site. -/
def KeepsWriteOf (F : Frame) (s : Site) : RowOperation → Prop
  | .addUser username email firstName lastName =>
    F.KeepsAt (write fun s _ => s.addUser username email firstName lastName) s
  | .addWorkspace name slug => F.KeepsAt (write fun s now => s.addWorkspace name slug now) s
  | .saveWorkspace id fields => ∀ n, id.rowId = .ok n →
    F.KeepsAt (RowOperation.save fun s now => s.saveWorkspace n fields now) s
  | .addMember _ _ role => ∀ workspace user,
    F.KeepsAt (write fun s _ => s.addMember workspace user role) s
  | .removeMember .. => ∀ workspace user,
    F.KeepsAt (write fun s _ => .ok (s.removeMember workspace user)) s
  | .addApplication _ fields => ∀ workspace,
    F.KeepsAt (write fun s _ => s.addApplication workspace { fields with workspace := none }) s
  | .saveApplication id _ fields => ∀ n workspace, id.rowId = .ok n →
    F.KeepsAt (RowOperation.save fun s _ => s.saveApplication n { fields with workspace }) s
  | .addPage _ fields => ∀ application, F.KeepsAt (write fun s _ => s.addPage application fields) s
  | .savePage id fields => ∀ n, id.rowId = .ok n →
    F.KeepsAt (RowOperation.save fun s _ => s.savePage n fields) s
  | .saveUserData caller fields => ∀ u, caller.user? s.store = some u →
    F.KeepsAt (Remembrance.save u fields) s
  | .delete table id => ∀ n, id.rowId = .ok n → F.KeepsAt (update (table.erase · n)) s
  | .showLine .. => True
  | .showForm .. => True

/-- **An operation on rows keeps a frame if its write does.** -/
theorem keepsAt_rows {operation : RowOperation} (h : F.KeepsWriteOf s operation) :
    F.KeepsAt operation.perform s := by
  unfold RowOperation.perform
  cases operation with
  -- everything but the write looks things up, and changes nothing
  | addUser username email firstName lastName => exact h.bind fun u t _ => keeps_pure _ t
  | addWorkspace name slug => exact h.bind fun w t _ => keeps_pure _ t
  | saveWorkspace id fields =>
    exact keepsAt_bind_settle fun n hn => (h n hn).bind fun _ t _ => keeps_shown _ _ t
  | addMember workspace user role =>
    exact keepsAt_bind_unchanged (keeps_storedId _ _) fun n _ =>
      keepsAt_bind_unchanged (keeps_viewer user) fun viewer _ =>
        keepsAt_bind_settle fun u _ => (h n u.id).bind fun m t _ => keeps_pure _ t
  | removeMember workspace user =>
    refine keepsAt_bind_settle fun n _ => keepsAt_bind_unchanged (keeps_viewer user) fun viewer _ =>
      keepsAt_bind_settle fun sought _ => ?_
    cases sought with
    | none => exact keeps_pure _ s
    | some u => exact (h n u.id).bind fun gone t _ => keeps_pure _ t
  | addApplication workspace fields =>
    exact keepsAt_bind_unchanged (keeps_storedId _ _) fun n _ =>
      (h n).bind fun a t _ => keeps_pure _ t
  | saveApplication id workspace fields =>
    -- a new workspace is looked up only if one is given
    refine keepsAt_bind_unchanged (keeps_storedId _ _) fun n hn =>
      keepsAt_bind_unchanged ?_ fun w _ =>
        (h n w (storedId_spec hn).2.1).bind fun _ t _ => keeps_shown _ _ t
    cases workspace with
    | none => exact keeps_pure none
    | some workspace => exact (keeps_storedId _ workspace).map
  | addPage application fields =>
    exact keepsAt_bind_unchanged (keeps_storedId _ _) fun n _ =>
      (h n).bind fun p t _ => keeps_pure _ t
  | savePage id fields =>
    exact keepsAt_bind_settle fun n hn => (h n hn).bind fun _ t _ => keeps_shown _ _ t
  | saveUserData caller fields =>
    refine keepsAt_bind_unchanged (keeps_viewer caller) fun viewer hviewer =>
      keepsAt_bind_settle fun u hu => (h u ?_).bind fun data t _ => keeps_pure _ t
    -- the owner is a user, whom the caller stands for
    cases viewer with
    | user v =>
      obtain rfl := Except.ok.inj hu
      rcases caller.exec_viewer s with ⟨u, huser, hexec⟩ | ⟨-, hnone⟩
      · rw [hexec] at hviewer
        cases hviewer
        exact huser
      · exact absurd (congrArg Prod.fst hviewer) (hnone v)
    | _ => cases hu
  | delete table id =>
    exact keepsAt_bind_unchanged (keeps_storedId _ _) fun n hn =>
      (h n (storedId_spec hn).2.1).bind fun _ t _ =>
        keeps_get.bind (fun r => keeps_pure _) t
  | showLine table id =>
    exact (keeps_settle _).bind (fun id => keeps_get.bind fun site =>
      (keeps_settle _).bind fun line => keeps_pure _) s
  | showForm form table id =>
    refine Keeps.bind ?_ (fun id => keeps_pure _) s
    cases id with
    | none => exact keeps_pure none
    | some id => exact (keeps_storedId _ id).map

end Service.Frame

end WorkspaceHome
