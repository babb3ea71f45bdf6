import WorkspaceHome.Proofs.Homepage.Shape
import WorkspaceHome.Proofs.Store.Alike

/-!
# Stores of the right shape for all users

A store is regular if the recency lists of all users are lists of scalars and all applications have
metadata and page references of the right shape (`Store.Regular`). It is then of the right shape for
every user (`Regular.wellShaped`), and stays regular under revisions that leave lists of scalars
(`Regular.revise`).
-/

namespace WorkspaceHome

/-- Both recency lists are lists of scalars. -/
def UserData.HasScalarLists (d : UserData) : Prop :=
  ∃ workspaces applications, d.recentWorkspaces = .list workspaces ∧
    d.recentApplications = .list applications ∧
    (∀ id ∈ workspaces, id.IsScalar) ∧ ∀ id ∈ applications, id.IsScalar

/-- What is stored is of the right shape, whomever it concerns. -/
structure Store.Regular (s : Store) : Prop where
  recent : ∀ user d, s.dataOf? user = some d → d.HasScalarLists
  metadata : ∀ a ∈ s.applications.rows, a.gitMetadata.IsMetadata
  pages : ∀ a ∈ s.applications.rows, a.pages.IsRefList
  publishedPages : ∀ a ∈ s.applications.rows, a.publishedPages.IsRefList

namespace Store.Regular

variable {s : Store}

theorem remembered (h : s.Regular) (user : ℕ) (now : Timestamp) :
    (s.remembered user now).HasScalarLists := by
  unfold Store.remembered
  cases hrow : s.dataOf? user with
  | some d => exact h.recent user d hrow
  | none => exact ⟨[], [], rfl, rfl, fun _ hid => absurd hid List.not_mem_nil,
      fun _ hid => absurd hid List.not_mem_nil⟩

theorem wellShaped (h : s.Regular) (user : ℕ) :
    ∃ workspaces applications, s.WellShaped user workspaces applications := by
  obtain ⟨workspaces, applications, hws, has, hwids, haids⟩ := h.remembered user ⟨0⟩
  obtain ⟨hw, ha⟩ := s.remembered_recent user ⟨0⟩
  exact ⟨workspaces, applications,
    { workspaceList := by rw [← hw, hws]
      applicationList := by rw [← ha, has]
      workspaceIds := hwids
      applicationIds := haids
      metadata := fun a ha _ => h.metadata a ha
      pages := fun a ha _ => h.pages a ha
      publishedPages := fun a ha _ => h.publishedPages a ha }⟩

/-- A revision that leaves lists of scalars leaves a store of the right shape. -/
theorem revise (h : s.Regular) (user : ℕ) (now : Timestamp) {r : Revision}
    (hr : ∀ d : UserData, d.HasScalarLists → (r.change d).HasScalarLists) :
    (s.revise user now r).Regular := by
  have happlications := (Store.beside_revise s user now r).applications
  refine ⟨fun other d hrow => ?_, ?_, ?_, ?_⟩
  · by_cases hother : other = user
    · rw [hother, Store.dataOf?_revise] at hrow
      obtain rfl := Option.some.inj hrow
      exact hr _ (h.remembered user now)
    · rw [(Store.sameBut_revise s user now r).dataOf?_eq hother] at hrow
      exact h.recent other d hrow
  · rw [happlications]
    exact h.metadata
  · rw [happlications]
    exact h.pages
  · rw [happlications]
    exact h.publishedPages

end Store.Regular

/-- The small store is regular. -/
theorem Store.sample_regular : Store.sample.Regular where
  recent := by
    intro user d hrow
    obtain rfl := List.mem_singleton.mp (List.mem_of_find?_eq_some hrow)
    exact ⟨[.int 2], [.text "main"], rfl, rfl, sample_wellShaped.workspaceIds,
      sample_wellShaped.applicationIds⟩
  metadata := fun a ha => sample_wellShaped.metadata a ha (by
    rcases ha with _ | ⟨_, _ | ⟨_, _ | ⟨_, ⟨⟩⟩⟩⟩ <;> rfl)
  pages := fun a ha => sample_wellShaped.pages a ha (by
    rcases ha with _ | ⟨_, _ | ⟨_, _ | ⟨_, ⟨⟩⟩⟩⟩ <;> rfl)
  publishedPages := fun a ha => sample_wellShaped.publishedPages a ha (by
    rcases ha with _ | ⟨_, _ | ⟨_, _ | ⟨_, ⟨⟩⟩⟩⟩ <;> rfl)

end WorkspaceHome
