import WorkspaceHome.Proofs.Fallible
import WorkspaceHome.Proofs.Recency.Order

/-!
# Recency lists as they are stored

On a stored list of scalars the functions for stored lists do what those for lists do, and do not
fail. What they give at all they give for a list of scalars (`touchStored_eq_ok_iff`).
-/

namespace WorkspaceHome

namespace Json

theorem ids_list {ids : List Json} (h : Recency.Scalars ids) : (Json.list ids).ids = .ok ids := by
  show (if ids.all isScalarValue then Except.ok ids else .error Failure.unhashable) = .ok ids
  rw [if_pos (List.all_eq_true.mpr h)]

theorem idsIfAny_list {ids : List Json} (h : Recency.Scalars ids) :
    (Json.list ids).idsIfAny = .ok ids := by
  unfold idsIfAny
  cases ids with
  | nil => rfl
  | cons v rest => exact ids_list h

theorem scalars_of_ids {v : Json} {ids : List Json} (h : v.ids = .ok ids) :
    Recency.Scalars ids := by
  unfold Json.ids at h
  cases hitems : v.items with
  | error e =>
    rw [hitems] at h
    cases h
  | ok items =>
    rw [hitems] at h
    replace h : (if items.all isScalarValue then Except.ok items else .error Failure.unhashable) =
      .ok ids := h
    split_ifs at h with hall
    rw [← Except.ok.inj h]
    exact List.all_eq_true.mp hall

theorem scalars_of_idsIfAny {v : Json} {ids : List Json} (h : v.idsIfAny = .ok ids) :
    Recency.Scalars ids := by
  unfold idsIfAny at h
  split_ifs at h
  · exact scalars_of_ids h
  · rw [← Except.ok.inj h]
    exact fun w hw => absurd hw List.not_mem_nil

end Json

namespace Recency

variable {recent all : List Json}

theorem prioritiseStored_list (hrecent : Scalars recent) (hall : Scalars all) :
    prioritiseStored (.list recent) (.list all) = .ok (prioritise recent all) := by
  unfold prioritiseStored
  rw [Json.idsIfAny_list hrecent, Json.ids_list hall]
  rfl

theorem touchStored_list (hrecent : Scalars recent) (v : Json) (limit : ℤ) :
    touchStored (.list recent) v limit = .ok (touch recent v limit) := by
  unfold touchStored
  rw [Json.idsIfAny_list hrecent]
  rfl

/-- A stored list that can be touched holds scalars, and is touched like the list of them. -/
theorem touchStored_eq_ok_iff {stored v : Json} {limit : ℤ} {ids : List Json} :
    touchStored stored v limit = .ok ids ↔
      ∃ held, stored.idsIfAny = .ok held ∧ ids = touch held v limit := by
  unfold touchStored
  cases stored.idsIfAny with
  | error e => simp [bind, Except.bind]
  | ok held => simp [bind, Except.bind, pure, Except.pure, eq_comm]

section sortStored

variable {α : Type} {key : α → Json}

/-- Without a recency list every item keeps its place. -/
theorem sortBy_nil (items : List α) : sortBy key [] items = items :=
  List.mergeSort_of_pairwise (List.pairwise_of_forall fun _ _ => rfl)

theorem sortBy_map {β : Type} (f : β → α) (items : List β) :
    sortBy key recent (items.map f) = (sortBy (fun b => key (f b)) recent items).map f := by
  unfold sortBy
  rw [List.map_mergeSort]
  exact fun _ _ _ _ => rfl

/-- Sorting by keys that are scalars does not fail. -/
theorem sortStored_list (hrecent : Scalars recent) {items : List α}
    (hkeys : ∀ a ∈ items, (key a).isScalarValue = true) :
    sortStored (fun a => .ok (key a)) (.list recent) items = .ok (sortBy key recent items) := by
  have hkeyed : (items.mapM fun a => (do
      let k ← .ok (key a)
      if k.isScalarValue then return (a, k) else throw .unhashable : Except Failure (α × Json))) =
      .ok (items.map fun a => (a, key a)) := by
    apply mapM_eq_ok
    intro a ha
    show (if (key a).isScalarValue = true then _ else _) = _
    rw [if_pos (hkeys a ha)]
    rfl
  unfold sortStored
  split_ifs with htruthy
  · rw [Json.ids_list hrecent, hkeyed]
    show Except.ok ((sortBy Prod.snd recent (items.map fun a => (a, key a))).map Prod.fst) = _
    rw [sortBy_map, List.map_map]
    exact congrArg Except.ok (List.map_id _)
  · cases recent with
    | nil => rw [sortBy_nil]
    | cons v rest => exact absurd rfl htruthy

/-- Sorting adds no item. -/
theorem mem_of_sortStored_ok {key : α → Except Failure Json} {stored : Json}
    {items sorted : List α} (h : sortStored key stored items = .ok sorted) {a : α}
    (ha : a ∈ sorted) : a ∈ items := by
  unfold sortStored at h
  split_ifs at h
  · obtain ⟨ids, -, h⟩ := bind_eq_ok_iff.mp h
    obtain ⟨keyed, hkeyed, h⟩ := bind_eq_ok_iff.mp h
    obtain rfl := (Except.ok.inj h).symm
    obtain ⟨⟨b, k⟩, hb, rfl⟩ := List.mem_map.mp ha
    obtain ⟨c, hc, hck⟩ := exists_of_mapM_ok hkeyed (mem_sortBy.mp hb)
    obtain ⟨k', -, hck⟩ := bind_eq_ok_iff.mp hck
    split_ifs at hck
    cases hck
    exact hc
  · rw [← Except.ok.inj h] at ha
    exact ha

end sortStored

end Recency

end WorkspaceHome
