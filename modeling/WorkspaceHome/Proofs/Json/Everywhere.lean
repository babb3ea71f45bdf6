import Mathlib.Tactic.SplitIfs
import WorkspaceHome.GitMetadata
import WorkspaceHome.Proofs.Fallible

/-!
# What holds everywhere in a value

A predicate that holds everywhere in a value holds everywhere in what the value is made of
(`Json.everywhereItems_iff`, `Json.everywhereMembers_iff`), and so in the id for clients that the
metadata of an application name (`GitMetadata.everywhere_clientId`).
-/

namespace WorkspaceHome

namespace Json

theorem everywhereItems_iff {p : Json → Bool} {items : List Json} :
    everywhereItems p items = true ↔ ∀ v ∈ items, v.everywhere p = true := by
  induction items with
  | nil => simp [everywhereItems]
  | cons v rest ih => simp [everywhereItems, ih]

theorem everywhereMembers_iff {p : Json → Bool} {members : List (String × Json)} :
    everywhereMembers p members = true ↔ ∀ m ∈ members, m.2.everywhere p = true := by
  induction members with
  | nil => simp [everywhereMembers]
  | cons m rest ih =>
    obtain ⟨k, v⟩ := m
    simp only [everywhereMembers, Bool.and_eq_true, ih, List.forall_mem_cons]

/-- What holds everywhere in a value holds of the value itself. -/
theorem holds_of_everywhere {p : Json → Bool} {v : Json} (h : v.everywhere p = true) :
    p v = true := by
  cases v with
  | list items =>
    rw [everywhere, Bool.and_eq_true] at h
    exact h.1
  | object members =>
    rw [everywhere, Bool.and_eq_true] at h
    exact h.1
  | _ => exact h

/-- What is looked up is one of the members. -/
theorem exists_mem_of_lookup {key : String} {members : List (String × Json)} {w : Json}
    (h : lookup key members = some w) : ∃ m ∈ members, m.2 = w := by
  induction members with
  | nil => cases h
  | cons m rest ih =>
    obtain ⟨k, v⟩ := m
    unfold lookup at h
    split_ifs at h
    · cases h
      exact ⟨(k, w), List.mem_cons_self, rfl⟩
    · obtain ⟨m, hm, hmw⟩ := ih h
      exact ⟨m, List.mem_cons_of_mem _ hm, hmw⟩

/-- What holds everywhere in an object holds everywhere in what is looked up in it. -/
theorem everywhere_of_lookup {p : Json → Bool} {members : List (String × Json)} {w : Json}
    (h : (object members).everywhere p = true) {key : String} (hw : lookup key members = some w) :
    w.everywhere p = true := by
  obtain ⟨m, hm, rfl⟩ := exists_mem_of_lookup hw
  rw [everywhere, Bool.and_eq_true, everywhereMembers_iff] at h
  exact h.2 m hm

/-- What holds everywhere in an object holds everywhere in its members. -/
theorem everywhere_of_member {p : Json → Bool} (hnull : p .null = true) {v w : Json}
    (h : v.everywhere p = true) {key : String} (hw : v.member key = .ok w) :
    w.everywhere p = true := by
  cases v with
  | object members =>
    cases hw
    cases hlookup : lookup key members with
    | none => exact hnull
    | some w => exact everywhere_of_lookup h hlookup
  | _ => cases hw

end Json

namespace GitMetadata

variable {own metadata id : Json}

/-- The id for clients is the row's own, or the one that the metadata name. -/
theorem clientId_cases (h : clientId own metadata = .ok id) :
    id = own ∨ metadata.member "defaultApplicationId" = .ok id ∧ id.truthy = true := by
  unfold clientId at h
  split_ifs at h
  · obtain ⟨named, hnamed, h⟩ := bind_eq_ok_iff.mp h
    obtain rfl : (nonEmpty named).getD own = id := Except.ok.inj h
    unfold nonEmpty
    split_ifs with htruthy
    · exact Or.inr ⟨hnamed, htruthy⟩
    · exact Or.inl rfl
  · exact Or.inl (Except.ok.inj h).symm

/-- What holds everywhere in the metadata holds everywhere in the id for clients. -/
theorem everywhere_clientId {p : Json → Bool} (hnull : p .null = true)
    (hown : own.everywhere p = true) (h : metadata.everywhere p = true)
    (hid : clientId own metadata = .ok id) : id.everywhere p = true := by
  rcases clientId_cases hid with rfl | ⟨hnamed, -⟩
  · exact hown
  · exact Json.everywhere_of_member hnull h hnamed

end GitMetadata

end WorkspaceHome
