import WorkspaceHome.Proofs.Operation.Invariant
import WorkspaceHome.Proofs.Store.Step

/-!
# Distinct workspaces

No two workspaces of a store have one name or one slug (`Store.DistinctWorkspaces`). Whatever is
done to a store, this stays so (`Store.distinctWorkspaces_invariant`).
-/

namespace WorkspaceHome.Store

/-- Two workspaces of one name or one slug are one workspace. -/
def DistinctWorkspaces (s : Store) : Prop :=
  ∀ v ∈ s.workspaces.rows, ∀ w ∈ s.workspaces.rows, v.name = w.name ∨ v.slug = w.slug → v = w

variable {s s' : Store}

/-- Workspaces are distinct if their names are and their slugs are. -/
theorem distinctWorkspaces_iff : s.DistinctWorkspaces ↔
    s.workspaces.Distinct Workspace.name ∧ s.workspaces.Distinct Workspace.slug := by
  constructor
  · exact fun h => ⟨fun v hv w hw hname => h v hv w hw (Or.inl hname),
      fun v hv w hw hslug => h v hv w hw (Or.inr hslug)⟩
  · rintro ⟨hname, hslug⟩ v hv w hw (hsame | hsame)
    · exact hname v hv w hw hsame
    · exact hslug v hv w hw hsame

/-- A single change keeps workspaces distinct. -/
theorem Step.distinctWorkspaces (hstep : s.Step s') (h : s.DistinctWorkspaces) :
    s'.DistinctWorkspaces := by
  rw [distinctWorkspaces_iff] at *
  cases hstep with
  | workspace saved name slug => exact ⟨h.1.saves saved name, h.2.saves saved slug⟩
  | erase table id =>
    cases table with
    | workspace => exact ⟨h.1.filter _, h.2.filter _⟩
    | _ => exact h
  | _ => exact h

/-- **Workspaces stay distinct**, whatever is done to the store. -/
theorem distinctWorkspaces_invariant : Invariant DistinctWorkspaces where
  addWorkspace := fun hop => (step_addWorkspace hop).distinctWorkspaces
  saveWorkspace := fun hop => (step_saveWorkspace hop).1.distinctWorkspaces
  erase := fun table id => (Step.erase table id).distinctWorkspaces

end WorkspaceHome.Store
