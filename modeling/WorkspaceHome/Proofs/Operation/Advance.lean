import WorkspaceHome.Proofs.Operation.History
import WorkspaceHome.Proofs.Operation.Ownership
import WorkspaceHome.Proofs.Store.Consistent

/-!
# What an administrator does advances a store

An action advances a store (`Service.Advances`) if it leads to a consistent store that comes after
it, and leaves it as it was when it fails. From a consistent store on, this is so
of every operation on rows (`RowOperation.advances`) and of every amendment (`Amendment.advances`):
the rows that are named have to be there, and the store sees to the rest.
-/

namespace WorkspaceHome

namespace Service

variable {α β γ : Type} {s t : Site} {x : Service α} {told : α → Store → Prop}

/-! ### Actions in sequence -/

namespace Leaves

/-- An action that leaves the store. -/
theorem of_store_eq (h : (x.exec s).2.store = s.store) (htold : ∀ a, told a s.store) :
    x.Leaves s told := by
  unfold Leaves
  rcases hrun : x.exec s with ⟨e | a, t⟩ <;> rw [hrun] at h
  · exact h
  · have hstore : t.store = s.store := h
    dsimp only
    rw [hstore]
    exact htold a

/-- What changes nothing may come first. -/
theorem bind_unchanged {y : Service β} {f : β → Service α} (hy : Frame.unchanged.Keeps y)
    (hf : ∀ b, y.exec s = (.ok b, s) → (f b).Leaves s told) : (y >>= f).Leaves s told := by
  have hsame : (y.exec s).2 = s := hy s
  unfold Leaves
  rw [exec_bind]
  rcases hrun : y.exec s with ⟨e | b, t⟩ <;> rw [hrun] at hsame
  · exact congrArg Site.store hsame
  · obtain rfl : t = s := hsame
    exact hf b hrun

theorem bind_settle {r : Except Failure β} {f : β → Service α}
    (hf : ∀ b, r = .ok b → (f b).Leaves s told) : (settle r >>= f).Leaves s told := by
  cases r with
  | error e => exact of_error rfl rfl
  | ok b => exact hf b rfl

/-- An optional value for which something is looked up, if it is given. -/
theorem bind_mapM {o : Option β} {f : β → Service γ} {g : Option γ → Service α}
    (hf : ∀ b, Frame.unchanged.Keeps (f b))
    (hg : ∀ c, (∀ n, c = some n → ∃ b, (f b).exec s = (.ok n, s)) → (g c).Leaves s told) :
    (o.mapM f >>= g).Leaves s told := by
  cases o with
  | none => exact hg none fun n hn => by cases hn
  | some b =>
    refine bind_unchanged (y := some <$> f b) (hf b).map fun c hc => hg c fun n hn => ⟨b, ?_⟩
    rw [exec_map] at hc
    obtain ⟨houtcome, hsite⟩ := Prod.mk.inj hc
    obtain ⟨n', hn', rfl⟩ := map_eq_ok_iff.mp houtcome
    obtain rfl := Option.some.inj hn
    exact Prod.ext hn' hsite

/-- What cannot fail and changes nothing may follow. -/
theorem bind_sure {told' : β → Store → Prop} {y : Service β} {f : β → Service α}
    (hy : y.Leaves s told')
    (hf : ∀ b t, told' b t.store → ∃ a, (f b).exec t = (.ok a, t) ∧ told a t.store) :
    (y >>= f).Leaves s told := by
  unfold Leaves at *
  rw [exec_bind]
  rcases hrun : y.exec s with ⟨e | b, t⟩ <;> rw [hrun] at hy
  · exact hy
  · obtain ⟨a, hrest, ha⟩ := hf b t hy
    dsimp only
    rw [hrest]
    exact ha

/-! ### Writing -/

theorem write {op : Store → Timestamp → Except Failure (α × Store)}
    (h : ∀ a store, op s.store s.clock = .ok (a, store) → told a store) :
    (Service.write op).Leaves s told := by
  unfold Leaves
  rw [exec_write]
  rcases hop : op s.store s.clock with e | ⟨a, store⟩
  · rfl
  · exact h a store hop

/-- Writing, and giving a result. -/
theorem write_pure {P : Store → Prop} {op : Store → Timestamp → Except Failure (β × Store)}
    {f : β → α} (h : ∀ b store, op s.store s.clock = .ok (b, store) → P store) :
    (Service.write op >>= fun b => pure (f b)).Leaves s fun _ store => P store :=
  bind_sure (write h) fun b _ hb => ⟨f b, rfl, hb⟩

theorem save {P : Store → Prop} {op : Store → Timestamp → Except Failure Store}
    (h : ∀ store, op s.store s.clock = .ok store → P store) :
    (RowOperation.save op).Leaves s fun _ store => P store := by
  refine write fun _ store hop => ?_
  obtain ⟨saved, hsaved, heq⟩ := bind_eq_ok_iff.mp hop
  cases heq
  exact h store hsaved

/-- Saving a row, and showing it. -/
theorem save_shown {P : Store → Prop} {op : Store → Timestamp → Except Failure Store}
    {toJson : β → Json} {find : Store → Option β}
    (h : ∀ store, op s.store s.clock = .ok store → P store ∧ (find store).isSome = true) :
    (RowOperation.save op >>= fun _ => RowOperation.shown toJson find).Leaves s
      fun _ store => P store := by
  refine bind_sure (save h) fun _ t ⟨hstore, hthere⟩ => ?_
  obtain ⟨b, hb⟩ := Option.isSome_iff_exists.mp hthere
  refine ⟨toJson b, ?_, hstore⟩
  unfold RowOperation.shown
  rw [exec_ask_bind, hb]
  rfl

end Leaves

/-- An action leads to a consistent store that comes after the one before, and leaves the store as
it was if it fails. -/
structure Advances (x : Service α) (s : Site) : Prop where
  leadsTo : s.store.LeadsTo (x.exec s).2.store
  store_eq : ∀ {e}, (x.exec s).1 = .error e → (x.exec s).2.store = s.store

theorem Leaves.advances (h : s.store.Consistent)
    (hx : x.Leaves s fun _ store => s.store.LeadsTo store) : x.Advances s := by
  refine ⟨?_, hx.store_eq⟩
  unfold Leaves at hx
  rcases hrun : x.exec s with ⟨e | a, t⟩ <;> rw [hrun] at hx
  · have hstore : t.store = s.store := hx
    dsimp only
    rw [hstore]
    exact h.leadsTo_self
  · exact hx

namespace Advances

theorem leaves (hx : x.Advances s) : x.Leaves s fun _ store => s.store.LeadsTo store := by
  have hleads := hx.leadsTo
  unfold Leaves
  rcases hrun : x.exec s with ⟨e | a, t⟩
  · have hstore := hx.store_eq (congrArg Prod.fst hrun)
    rw [hrun] at hstore
    exact hstore
  · rw [hrun] at hleads
    exact hleads

/-- What keeps the store advances it. -/
theorem of_keeps (h : s.store.Consistent) (hx : (Frame.fixing Site.store).Keeps x) :
    x.Advances s :=
  Leaves.advances h (Leaves.of_store_eq (hx s) fun _ => h.leadsTo_self)

theorem bind_unchanged {y : Service β} {f : β → Service α} (h : s.store.Consistent)
    (hy : Frame.unchanged.Keeps y) (hf : ∀ b, y.exec s = (.ok b, s) → (f b).Advances s) :
    (y >>= f).Advances s :=
  Leaves.advances h (Leaves.bind_unchanged hy fun b hb => (hf b hb).leaves)

theorem bind_settle {r : Except Failure β} {f : β → Service α} (h : s.store.Consistent)
    (hf : ∀ b, r = .ok b → (f b).Advances s) : (settle r >>= f).Advances s :=
  Leaves.advances h (Leaves.bind_settle fun b hb => (hf b hb).leaves)

/-- A result may be made of another one. -/
theorem bind_pure (h : s.store.Consistent) (hx : x.Advances s) (f : α → β) :
    (x >>= fun a => pure (f a)).Advances s :=
  Leaves.advances h (hx.leaves.bind_sure fun a _ hstore => ⟨f a, rfl, hstore⟩)

end Advances

end Service

open Service

/-! ### Who acts -/

/-- A user who does something is a user of the store. -/
def Viewer.IsIn (viewer : Viewer) (s : Store) : Prop := ∀ u, viewer = .user u → s.users.Has u.id

theorem Viewer.IsIn.has_owner {viewer : Viewer} {s : Store} {u : User} (h : viewer.IsIn s)
    (hu : viewer.owner = .ok u) : s.users.Has u.id := by
  cases viewer with
  | user v =>
    obtain rfl := Except.ok.inj hu
    exact h v rfl
  | _ => cases hu

/-- A caller who is found to be a user is a user of the store. -/
theorem Caller.isIn_of_exec_viewer {c : Caller} {viewer : Viewer} {s t : Site}
    (h : c.viewer.exec s = (.ok viewer, t)) : viewer.IsIn s.store := by
  rintro u rfl
  rcases c.exec_viewer s with ⟨v, hv, hexec⟩ | ⟨-, hnone⟩
  · rw [hexec] at h
    cases h
    cases c with
    | named username => exact Table.has_of_mem (List.mem_of_find?_eq_some hv)
    | _ => cases hv
  · rw [h] at hnone
    exact absurd rfl (hnone u)

/-- An id that is found is the id of a row of the store. -/
theorem holds_of_storedId {table : TableName} {id : Json} {s t : Site} {n : ℕ}
    (h : (RowOperation.storedId table id).exec s = (.ok n, t)) : table.holds s.store n = true :=
  (storedId_spec h).2.2

/-- A workspace that is given and found is a workspace of the store. -/
theorem has_of_storedIds {s : Site} {w : Option ℕ}
    (h : ∀ n, w = some n →
      ∃ id, (RowOperation.storedId .workspace id).exec s = (.ok n, s)) :
    ∀ n, w = some n → s.store.workspaces.Has n := by
  intro n hn
  obtain ⟨id, hid⟩ := h n hn
  exact Table.has_iff_isSome.mpr (holds_of_storedId hid)

/-! ### What an administrator does -/

namespace RowOperation

variable {s : Site}

theorem leaves_saveData (u : User) (fields : UserDataFields) :
    (Remembrance.save u fields).Leaves s fun _ store =>
      s.store.saveUserData u.id fields s.clock = .ok store := by
  refine Leaves.write fun d store hop => ?_
  obtain ⟨saved, hsaved, hop⟩ := bind_eq_ok_iff.mp hop
  cases hrow : saved.dataOf? u.id with
  | none =>
    rw [hrow] at hop
    cases hop
  | some d' =>
    rw [hrow] at hop
    cases hop
    exact hsaved

/-- **What an administrator does advances a consistent store.** -/
theorem advances (operation : RowOperation) (h : s.store.Consistent) :
    operation.perform.Advances s := by
  refine Leaves.advances h ?_
  unfold RowOperation.perform
  cases operation with
  | addUser username email firstName lastName =>
    -- what is looked up before the write is what makes the single change of the store a valid one
    exact Leaves.write_pure fun u store hop => (Store.step_addUser hop).leadsTo h
  | addWorkspace name slug =>
    exact Leaves.write_pure fun w store hop => (Store.step_addWorkspace hop).leadsTo h
  | saveWorkspace id fields =>
    refine Leaves.bind_settle fun n _ => Leaves.save_shown fun store hop => ?_
    obtain ⟨hstep, hthere⟩ := Store.step_saveWorkspace hop
    exact ⟨hstep.leadsTo h, Table.has_iff_isSome.mp hthere⟩
  | addMember workspace user role =>
    refine Leaves.bind_unchanged (Frame.keeps_storedId _ _) fun w hw => ?_
    refine Leaves.bind_unchanged (Frame.keeps_viewer user) fun viewer hviewer => ?_
    refine Leaves.bind_settle fun u hu => Leaves.write_pure fun m store hop => ?_
    -- a new row refers to rows that have just been found, so all references have their targets
    have hworkspace := Table.has_iff_isSome.mpr (holds_of_storedId hw)
    have huser := (Caller.isIn_of_exec_viewer hviewer).has_owner hu
    exact (Store.step_addMember hop hworkspace huser).leadsTo h
  | removeMember workspace user =>
    refine Leaves.bind_settle fun w _ => ?_
    refine Leaves.bind_unchanged (Frame.keeps_viewer user) fun viewer _ => ?_
    refine Leaves.bind_settle fun sought _ => ?_
    cases sought with
    -- a viewer who is nobody has no membership that could be removed
    | none => exact Leaves.of_ok rfl h.leadsTo_self
    | some u =>
      refine Leaves.write_pure fun gone store hop => ?_
      cases hop
      exact (Store.Step.removeMember w u.id).leadsTo h
  | addApplication workspace fields =>
    refine Leaves.bind_unchanged (Frame.keeps_storedId _ _) fun w hw => ?_
    refine Leaves.write_pure fun a store hop => ?_
    have hworkspace := Table.has_iff_isSome.mpr (holds_of_storedId hw)
    exact (Store.step_addApplication hop rfl hworkspace).leadsTo h
  | saveApplication id workspace fields =>
    refine Leaves.bind_unchanged (Frame.keeps_storedId _ _) fun n _ => ?_
    refine Leaves.bind_mapM (Frame.keeps_storedId _) fun w hw => Leaves.save_shown ?_
    intro store hop
    obtain ⟨hstep, hthere⟩ :=
      Store.step_saveApplication hop h.applicationWorkspaces (has_of_storedIds hw)
    exact ⟨hstep.leadsTo h, Table.has_iff_isSome.mp hthere⟩
  | addPage application fields =>
    refine Leaves.bind_unchanged (Frame.keeps_storedId _ _) fun a ha => ?_
    refine Leaves.write_pure fun p store hop => ?_
    have happlication := Table.has_iff_isSome.mpr (holds_of_storedId ha)
    exact (Store.step_addPage hop happlication).leadsTo h
  | savePage id fields =>
    refine Leaves.bind_settle fun n _ => Leaves.save_shown fun store hop => ?_
    obtain ⟨hstep, hthere⟩ := Store.step_savePage hop h.pageApplications
    exact ⟨hstep.leadsTo h, Table.has_iff_isSome.mp hthere⟩
  | saveUserData user fields =>
    refine Leaves.bind_unchanged (Frame.keeps_viewer user) fun viewer hviewer => ?_
    refine Leaves.bind_settle fun u hu => ?_
    refine (leaves_saveData u fields).bind_sure fun d t hop => ⟨_, rfl, ?_⟩
    have huser := (Caller.isIn_of_exec_viewer hviewer).has_owner hu
    exact (Store.step_saveUserData hop h.owners huser).leadsTo h
  | delete table id =>
    refine Leaves.bind_unchanged (Frame.keeps_storedId _ _) fun n _ => ?_
    exact Leaves.of_ok rfl ((Store.Step.erase table n).leadsTo h)
  | showLine table id =>
    -- a line may fail for a row that is not there, but nothing is written for it
    refine Leaves.bind_settle fun n _ => Leaves.of_store_eq ?_ fun _ => h.leadsTo_self
    rw [exec_get_bind, exec_bind, exec_settle]
    cases table.line s.store n <;> rfl
  | showForm form table id =>
    exact Leaves.bind_mapM (Frame.keeps_storedId _) fun n _ => Leaves.of_ok rfl h.leadsTo_self

end RowOperation

namespace Amendment

variable {s : Site}

theorem keeps_owner (caller : Caller) : Frame.unchanged.Keeps (owner caller) :=
  (Frame.keeps_viewer caller).bind fun _ => (Frame.keeps_settle _).bind fun _ =>
    Frame.keeps_pure _

/-- The user that a caller has to be is a user of the store. -/
theorem has_of_exec_owner {caller : Caller} {t : Site} {n : ℕ}
    (h : (owner caller).exec s = (.ok n, t)) : s.store.users.Has n := by
  unfold owner at h
  rw [exec_bind] at h
  rcases hviewer : caller.viewer.exec s with ⟨e | viewer, r⟩ <;> rw [hviewer] at h
  · cases h
  · dsimp only at h
    cases howner : viewer.owner with
    | error e =>
      rw [howner] at h
      cases h
    | ok u =>
      rw [howner] at h
      cases h
      exact (Caller.isIn_of_exec_viewer hviewer).has_owner howner

/-- **An amendment advances a consistent store.** -/
theorem advances (edit : Amendment) (h : s.store.Consistent) : edit.perform.Advances s := by
  refine Leaves.advances h ?_
  unfold Amendment.perform
  cases edit with
  | saveUser id fields =>
    refine Leaves.bind_unchanged (Frame.keeps_storedId _ _) fun n _ => ?_
    refine (Leaves.save fun store hop => ?_).bind_sure fun _ _ hstore => ⟨_, rfl, hstore⟩
    exact (Store.step_saveUser hop).leadsTo h
  | saveMember id workspace user role =>
    refine Leaves.bind_unchanged (Frame.keeps_storedId _ _) fun n _ => ?_
    refine Leaves.bind_mapM (Frame.keeps_storedId _) fun w hw => ?_
    refine Leaves.bind_mapM keeps_owner fun u hu => Leaves.save_shown fun store hop => ?_
    -- a new owner is a user of the store, also when it is given as a caller
    have huser : ∀ n, u = some n → s.store.users.Has n := fun n hn => by
      obtain ⟨caller, hcaller⟩ := hu n hn
      exact has_of_exec_owner hcaller
    obtain ⟨hstep, hthere⟩ :=
      Store.step_saveMember hop h.memberWorkspaces h.memberUsers (has_of_storedIds hw) huser
    exact ⟨hstep.leadsTo h, Table.has_iff_isSome.mp hthere⟩
  | movePage id application =>
    refine Leaves.bind_unchanged (Frame.keeps_storedId _ _) fun n _ => ?_
    refine Leaves.bind_unchanged (Frame.keeps_storedId _ _) fun a ha => ?_
    refine Leaves.save_shown fun store hop => ?_
    have happlication := Table.has_iff_isSome.mpr (holds_of_storedId ha)
    obtain ⟨hstep, hthere⟩ := Store.step_movePage hop happlication
    exact ⟨hstep.leadsTo h, Table.has_iff_isSome.mp hthere⟩
  | handOver id user =>
    refine Leaves.bind_unchanged (Frame.keeps_storedId _ _) fun n _ => ?_
    refine Leaves.bind_unchanged (keeps_owner user) fun u hu => ?_
    refine (Leaves.save fun store hop => ?_).bind_sure fun _ _ hstore => ⟨_, rfl, hstore⟩
    exact (Store.step_handOver hop (has_of_exec_owner hu)).leadsTo h

end Amendment

end WorkspaceHome
