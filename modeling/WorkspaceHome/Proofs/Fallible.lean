import Mathlib.Data.List.Forall2
import WorkspaceHome.Failure
import WorkspaceHome.Proofs.Except

/-!
# Computations on lists that may fail

Where no item makes a computation fail, mapping and filtering by it are the plain mapping and
filtering (`mapM_eq_ok`, `filterM_eq_ok`). What they give at all comes from the items
(`exists_of_mapM_ok`, `mem_of_filterM_ok`).
-/

namespace WorkspaceHome

variable {α β ε : Type}

/-- Whether a computation gives `true`. -/
def holds (r : Except Failure Bool) : Bool :=
  match r with
  | .ok b => b
  | .error _ => false

theorem holds_eq_true_iff {r : Except Failure Bool} : holds r = true ↔ r = .ok true := by
  cases r <;> simp [holds]

/-! ### Mapping -/

theorem mapM_eq_ok {f : α → Except Failure β} {g : α → β} {items : List α}
    (h : ∀ a ∈ items, f a = .ok (g a)) : items.mapM f = .ok (items.map g) := by
  induction items with
  | nil => rfl
  | cons a rest ih =>
    obtain ⟨ha, hrest⟩ := List.forall_mem_cons.mp h
    rw [List.mapM_cons, ha, ih hrest]
    rfl

/-- Mapping by a computation that gives something for every item. -/
theorem mapM_eq_ok_filterMap {f : α → Except Failure β} {items : List α}
    (h : ∀ a ∈ items, ∃ b, f a = .ok b) :
    items.mapM f = .ok (items.filterMap fun a => (f a).toOption) := by
  induction items with
  | nil => rfl
  | cons a rest ih =>
    obtain ⟨⟨b, hb⟩, hrest⟩ := List.forall_mem_cons.mp h
    rw [List.mapM_cons, hb, ih hrest, List.filterMap_cons, hb]
    rfl

/-- Whatever a mapping gives comes from an item. -/
theorem exists_of_mapM_ok {f : α → Except Failure β} {items : List α} {results : List β}
    (h : items.mapM f = .ok results) {b : β} (hb : b ∈ results) : ∃ a ∈ items, f a = .ok b := by
  induction items generalizing results with
  | nil =>
    obtain rfl : results = [] := (Except.ok.inj h).symm
    exact absurd hb List.not_mem_nil
  | cons a rest ih =>
    rw [List.mapM_cons, bind_eq_ok_iff] at h
    obtain ⟨first, hfirst, h⟩ := h
    obtain ⟨others, hothers, h⟩ := bind_eq_ok_iff.mp h
    obtain rfl : results = first :: others := (Except.ok.inj h).symm
    rcases List.mem_cons.mp hb with rfl | hb
    · exact ⟨a, List.mem_cons_self, hfirst⟩
    · obtain ⟨c, hc, hcb⟩ := ih hothers hb
      exact ⟨c, List.mem_cons_of_mem _ hc, hcb⟩

/-- A mapping gives one result for each item, in their order. -/
theorem forall₂_of_mapM_ok {f : α → Except Failure β} {items : List α} {results : List β}
    (h : items.mapM f = .ok results) : List.Forall₂ (fun a b => f a = .ok b) items results := by
  induction items generalizing results with
  | nil =>
    obtain rfl : results = [] := (Except.ok.inj h).symm
    exact .nil
  | cons a rest ih =>
    rw [List.mapM_cons, bind_eq_ok_iff] at h
    obtain ⟨first, hfirst, h⟩ := h
    obtain ⟨others, hothers, h⟩ := bind_eq_ok_iff.mp h
    obtain rfl : results = first :: others := (Except.ok.inj h).symm
    exact .cons hfirst (ih hothers)

theorem mapM_eq_ok_iff {f : α → Except Failure β} {items : List α} {results : List β} :
    items.mapM f = .ok results ↔ List.Forall₂ (fun a b => f a = .ok b) items results := by
  refine ⟨forall₂_of_mapM_ok, fun h => ?_⟩
  induction h with
  | nil => rfl
  | cons hfirst _ ih =>
    rw [List.mapM_cons, hfirst, ih]
    rfl

/-- A mapping that fails does so at an item. -/
theorem exists_of_mapM_error {f : α → Except Failure β} {items : List α} {e : Failure}
    (h : items.mapM f = .error e) : ∃ a ∈ items, f a = .error e := by
  induction items with
  | nil => cases h
  | cons a rest ih =>
    rw [List.mapM_cons] at h
    rcases bind_eq_error_iff.mp h with hfirst | ⟨first, -, h⟩
    · exact ⟨a, List.mem_cons_self, hfirst⟩
    · rcases bind_eq_error_iff.mp h with hrest | ⟨others, -, h⟩
      · obtain ⟨b, hb, hbe⟩ := ih hrest
        exact ⟨b, List.mem_cons_of_mem _ hb, hbe⟩
      · cases h

/-! ### Filtering -/

theorem filterAuxM_eq_ok {p : α → Except Failure Bool} {items : List α}
    (h : ∀ a ∈ items, ∃ b, p a = .ok b) (found : List α) :
    items.filterAuxM p found = .ok ((items.filter fun a => holds (p a)).reverse ++ found) := by
  induction items generalizing found with
  | nil => rfl
  | cons a rest ih =>
    obtain ⟨⟨b, hb⟩, hrest⟩ := List.forall_mem_cons.mp h
    rw [List.filterAuxM, hb]
    show rest.filterAuxM p (cond b (a :: found) found) = _
    rw [ih hrest, List.filter_cons, hb]
    cases b <;> simp [holds]

/-- Filtering by a computation that decides every item. -/
theorem filterM_eq_ok {p : α → Except Failure Bool} {items : List α}
    (h : ∀ a ∈ items, ∃ b, p a = .ok b) :
    items.filterM p = .ok (items.filter fun a => holds (p a)) := by
  rw [List.filterM, filterAuxM_eq_ok h]
  simp [bind, Except.bind, pure, Except.pure]

theorem mem_of_filterAuxM_ok {p : α → Except Failure Bool} {items found results : List α}
    (h : items.filterAuxM p found = .ok results) {a : α} (ha : a ∈ results) :
    a ∈ items ∨ a ∈ found := by
  induction items generalizing found with
  | nil =>
    obtain rfl : results = found := (Except.ok.inj h).symm
    exact Or.inr ha
  | cons b rest ih =>
    rw [List.filterAuxM, bind_eq_ok_iff] at h
    obtain ⟨kept, -, h⟩ := h
    rcases ih h with hrest | hfound
    · exact Or.inl (List.mem_cons_of_mem _ hrest)
    · cases kept with
      | false => exact Or.inr hfound
      | true =>
        rcases List.mem_cons.mp hfound with rfl | hfound
        · exact Or.inl List.mem_cons_self
        · exact Or.inr hfound

/-- Whatever a filtering gives is one of the items. -/
theorem mem_of_filterM_ok {p : α → Except Failure Bool} {items results : List α}
    (h : items.filterM p = .ok results) {a : α} (ha : a ∈ results) : a ∈ items := by
  rw [List.filterM, bind_eq_ok_iff] at h
  obtain ⟨found, hfound, h⟩ := h
  obtain rfl : results = found.reverse := (Except.ok.inj h).symm
  rcases mem_of_filterAuxM_ok hfound (List.mem_reverse.mp ha) with hitems | hnil
  · exact hitems
  · exact absurd hnil List.not_mem_nil

end WorkspaceHome
