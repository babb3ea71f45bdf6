import WorkspaceHome.Proofs.Frame.Writing
import WorkspaceHome.Proofs.Operation.History

/-!
# What holds of every store that can be reached

An invariant is a property of a store that each single write keeps (`Store.Invariant`). Then each
operation of the service keeps it (`Store.Invariant.perform`), whoever does it and whether or not it
succeeds, since what is undone when an operation fails leads back to the store before it. So an
invariant that holds at the start of a run holds all along (`Store.Invariant.performAll`).
-/

namespace WorkspaceHome

open Service

/-- **An operation keeps an upheld frame** that does not mind what happens around the service, if it
does so where it is one on rows. -/
theorem Service.Frame.Upheld.act {F : Frame} (hF : F.Upheld) (hcontext : F.IgnoresContext)
    (haround : ∀ operation : Surroundings, F.Keeps operation.perform) {operation : Operation}
    {s : Site} (hrows : ∀ row, operation = .rows row → F.KeepsAt row.perform s) :
    F.KeepsAt operation.act s := by
  cases operation with
  | rows operation => exact hrows operation rfl
  | call operation => exact hF.call operation s
  | surroundings operation => exact haround operation s
  | request message caller =>
    exact (keeps_viewer caller).bind (fun viewer => (hF.serve hcontext _).bind fun response =>
      keeps_pure _) s

/-- A property of a store that every write keeps. Where the property does not look at the table to
which something is written, nothing needs to be said. -/
structure Store.Invariant (I : Store → Prop) : Prop where
  addUser : ∀ {s username email firstName lastName u s'},
      s.addUser username email firstName lastName = .ok (u, s') → I s → I s' := by
    intro s _ _ _ _ _ s' hop h
    obtain ⟨_, rfl⟩ := Store.eq_of_addUser hop
    exact h
  addWorkspace : ∀ {s name slug now w s'},
      s.addWorkspace name slug now = .ok (w, s') → I s → I s' := by
    intro s _ _ _ _ s' hop h
    obtain ⟨_, rfl⟩ := Store.eq_of_addWorkspace hop
    exact h
  saveWorkspace : ∀ {s id fields now s'},
      s.saveWorkspace id fields now = .ok s' → I s → I s' := by
    intro s _ _ _ s' hop h
    obtain ⟨_, rfl⟩ := Store.eq_of_saveWorkspace hop
    exact h
  addMember : ∀ {s workspace user role m s'},
      s.addMember workspace user role = .ok (m, s') → I s → I s' := by
    intro s _ _ _ _ s' hop h
    obtain ⟨_, rfl⟩ := Store.eq_of_addMember hop
    exact h
  removeMember : ∀ {s} workspace user, I s → I (s.removeMember workspace user).2 := by
    exact fun _ _ h => h
  addApplication : ∀ {s workspace fields a s'},
      s.addApplication workspace fields = .ok (a, s') → I s → I s' := by
    intro s _ _ _ s' hop h
    obtain ⟨_, rfl⟩ := Store.eq_of_addApplication hop
    exact h
  saveApplication : ∀ {s id fields s'}, s.saveApplication id fields = .ok s' → I s → I s' := by
    intro s _ _ s' hop h
    obtain ⟨_, rfl⟩ := Store.eq_of_saveApplication hop
    exact h
  addPage : ∀ {s application fields p s'},
      s.addPage application fields = .ok (p, s') → I s → I s' := by
    intro s _ _ _ s' hop h
    obtain ⟨_, rfl⟩ := Store.eq_of_addPage hop
    exact h
  savePage : ∀ {s id fields s'}, s.savePage id fields = .ok s' → I s → I s' := by
    intro s _ _ s' hop h
    obtain ⟨_, rfl⟩ := Store.eq_of_savePage hop
    exact h
  saveUserData : ∀ {s user fields now s'},
      s.saveUserData user fields now = .ok s' → I s → I s' := by
    intro s _ _ _ s' hop h
    obtain ⟨_, rfl⟩ := Store.eq_of_saveUserData hop
    exact h
  erase : ∀ {s} (table : TableName) id, I s → I (table.erase s id)

/-- What holds of the store before holds of the store after. -/
def upholding (I : Store → Prop) : Frame where
  rel s t := I s.store → I t.store
  refl := fun _ => id
  trans := fun h h' => h' ∘ h

namespace Store.Invariant

variable {I : Store → Prop} {α : Type}

/-! ### Actions that write -/

theorem keeps_write {op : Store → Timestamp → Except Failure (α × Store)}
    (h : ∀ s now a s', op s now = .ok (a, s') → I s → I s') : (upholding I).Keeps (write op) :=
  fun _ => Frame.keepsAt_write fun _ _ hop => h _ _ _ _ hop

theorem keeps_saveRow {op : Store → Timestamp → Except Failure Store}
    (h : ∀ s now s', op s now = .ok s' → I s → I s') :
    (upholding I).Keeps (RowOperation.save op) :=
  fun _ => Frame.keepsAt_save fun _ hop => h _ _ _ hop

/-- An operation that is done as a whole, or else undone. -/
theorem keeps_atomically {x : Service α} (hx : (upholding I).Keeps x) :
    (upholding I).Keeps (atomically x) := by
  intro s
  have hkeep := hx s
  unfold Frame.KeepsAt at *
  rw [exec_atomically]
  rcases hrun : x.exec s with ⟨e | a, t⟩ <;> rw [hrun] at hkeep
  · exact (upholding I).refl s
  · exact hkeep

theorem lenient : (upholding I).Lenient :=
  ⟨⟨fun _ _ _ => id⟩, fun _ _ => id, fun _ _ => id⟩

variable (hI : Store.Invariant I)

include hI

theorem keeps_save (user : User) (fields : UserDataFields) :
    (upholding I).Keeps (Remembrance.save user fields) := by
  apply keeps_write
  intro s now d s' hop
  obtain ⟨saved, hsaved, hrow⟩ := bind_eq_ok_iff.mp hop
  cases hdata : saved.dataOf? user.id with
  | none =>
    rw [hdata] at hrow
    cases hrow
  | some row =>
    rw [hdata] at hrow
    cases hrow
    exact hI.saveUserData hsaved

theorem writable : (upholding I).Writable where
  entry := fun _ _ => id
  atomically := keeps_atomically
  addUser := fun _ _ _ _ => keeps_write fun _ _ _ _ hop => hI.addUser hop
  addWorkspace := fun _ _ => keeps_write fun _ _ _ _ hop => hI.addWorkspace hop
  saveWorkspace := fun _ _ => keeps_saveRow fun _ _ _ hop => hI.saveWorkspace hop
  addMember := fun _ _ _ => keeps_write fun _ _ _ _ hop => hI.addMember hop
  removeMember := fun workspace user => keeps_write fun _ _ _ _ hop => by
    cases hop
    exact hI.removeMember workspace user
  addApplication := fun _ _ => keeps_write fun _ _ _ _ hop => hI.addApplication hop
  saveApplication := fun _ _ => keeps_saveRow fun _ _ _ hop => hI.saveApplication hop
  addPage := fun _ _ => keeps_write fun _ _ _ _ hop => hI.addPage hop
  savePage := fun _ _ => keeps_saveRow fun _ _ _ hop => hI.savePage hop
  saveUserData := hI.keeps_save
  erase := fun table id s => hI.erase table id

/-! ### Runs -/

/-- **Every operation keeps an invariant**, whoever does it and whether or not it succeeds. -/
theorem perform (operation : Operation) (s : Site) (h : I s.store) :
    I (operation.perform s).2.store := by
  refine (hI.writable.upheld lenient).act (fun _ _ => id) (fun around t ht => ?_)
    (fun row _ => hI.writable.rows row _) h
  rwa [(undisturbed_surroundings around t).2]

/-- **An invariant holds all along a run** if it holds at the start. -/
theorem performAll (operations : List Operation) (s : Site) (h : I s.store) :
    I (Operation.performAll operations s).2.store := by
  induction operations generalizing s with
  | nil => exact h
  | cons operation rest ih => exact ih _ (hI.perform operation s h)

end Store.Invariant

end WorkspaceHome
