import WorkspaceHome.Proofs.Json.Same
import WorkspaceHome.Recency

/-!
# Lists without equal ids

`distinct` gives a list in which no two ids are equal (`pairwise_distinct`), with an id equal to
each one of the original (`exists_same_distinct_iff`), and leaves a list that has no equal ids as it
is (`distinct_eq_self`). It commutes with every filter that treats equal ids alike
(`distinct_filter`).

`touch` is a `distinct` cut to the limit (`touch_eq`), and cutting a list before it is touched makes
no difference to what is kept (`touch_take`).
-/

namespace WorkspaceHome.Recency

open Json (isScalarValue)

/-- All ids are values that hold no others. -/
def Scalars (ids : List Json) : Prop := ∀ v ∈ ids, v.isScalarValue = true

instance (ids : List Json) : Decidable (Scalars ids) :=
  inferInstanceAs (Decidable (∀ v ∈ ids, v.isScalarValue = true))

/-- No two ids are equal. -/
def Apart (ids : List Json) : Prop := ids.Pairwise fun v w => v.same w = false

instance (ids : List Json) : Decidable (Apart ids) :=
  inferInstanceAs (Decidable (ids.Pairwise fun v w => v.same w = false))

theorem Scalars.cons {v : Json} {ids : List Json} (hv : v.isScalarValue = true)
    (h : Scalars ids) : Scalars (v :: ids) := by
  intro w hw
  rcases List.mem_cons.mp hw with rfl | hw
  · exact hv
  · exact h w hw

theorem Scalars.head {v : Json} {ids : List Json} (h : Scalars (v :: ids)) :
    v.isScalarValue = true :=
  h v List.mem_cons_self

theorem Scalars.tail {v : Json} {ids : List Json} (h : Scalars (v :: ids)) : Scalars ids :=
  fun w hw => h w (List.mem_cons_of_mem _ hw)

theorem Scalars.append {xs ys : List Json} (hx : Scalars xs) (hy : Scalars ys) :
    Scalars (xs ++ ys) := by
  intro v hv
  rcases List.mem_append.mp hv with hv | hv
  · exact hx v hv
  · exact hy v hv

/-! ### `distinct` -/

theorem mem_of_mem_distinct {v : Json} {ids : List Json} (h : v ∈ distinct ids) : v ∈ ids := by
  induction ids with
  | nil => exact h
  | cons w rest ih =>
    rw [distinct] at h
    rcases List.mem_cons.mp h with rfl | h
    · exact List.mem_cons_self
    · exact List.mem_cons_of_mem _ (ih (List.mem_filter.mp h).1)

theorem Scalars.distinct {ids : List Json} (h : Scalars ids) : Scalars (distinct ids) :=
  fun v hv => h v (mem_of_mem_distinct hv)

/-- No two ids of a `distinct` list are equal. -/
theorem pairwise_distinct (ids : List Json) : Apart (distinct ids) := by
  induction ids with
  | nil => exact List.Pairwise.nil
  | cons v rest ih =>
    rw [distinct]
    refine List.Pairwise.cons ?_ (ih.filter _)
    intro w hw
    simpa using (List.mem_filter.mp hw).2

/-- A list without equal ids stays as it is. -/
theorem distinct_eq_self {ids : List Json} (h : Apart ids) : distinct ids = ids := by
  induction ids with
  | nil => rfl
  | cons v rest ih =>
    rw [distinct, ih h.of_cons, List.filter_eq_self.mpr]
    intro w hw
    simp [List.rel_of_pairwise_cons h hw]

/-- An id is equal to one of a list exactly if it is equal to one of its `distinct` list. -/
theorem exists_same_distinct_iff {ids : List Json} (h : Scalars ids) {x : Json}
    (hx : x.isScalarValue = true) :
    (∃ v ∈ distinct ids, x.same v = true) ↔ ∃ v ∈ ids, x.same v = true := by
  induction ids with
  | nil => simp [distinct]
  | cons w rest ih =>
    constructor
    · rintro ⟨v, hv, hxv⟩
      exact ⟨v, mem_of_mem_distinct hv, hxv⟩
    · rintro ⟨v, hv, hxv⟩
      rw [distinct]
      rcases List.mem_cons.mp hv with rfl | hv
      · exact ⟨v, List.mem_cons_self, hxv⟩
      obtain ⟨u, hu, hxu⟩ := (ih h.tail).mpr ⟨v, hv, hxv⟩
      by_cases hwu : w.same u = true
      · -- `u` is dropped in favour of `w`, to which `x` is equal as well
        have hux : u.same x = true := by rw [Json.same_comm (Or.inr hx)]; exact hxu
        have hwx := Json.same_trans (h.tail.distinct u hu) hwu hux
        exact ⟨w, List.mem_cons_self, by rw [Json.same_comm (Or.inl hx)]; exact hwx⟩
      · refine ⟨u, List.mem_cons_of_mem _ (List.mem_filter.mpr ⟨hu, ?_⟩), hxu⟩
        simpa using hwu

/-- A predicate that treats equal ids alike. -/
def Respects (p : Json → Bool) : Prop :=
  ∀ v w, w.isScalarValue = true → v.same w = true → p v = p w

theorem respects_same {x : Json} (hx : x.isScalarValue = true) :
    Respects fun v => !x.same v := by
  intro v w hw hvw
  show (!x.same v) = !x.same w
  rw [Json.same_comm (Or.inl hx), Json.same_congr_left x hw hvw, Json.same_comm (Or.inl hw)]

/-- `distinct` commutes with a filter that treats equal ids alike. -/
theorem distinct_filter {p : Json → Bool} (hp : Respects p) {ids : List Json}
    (h : Scalars ids) : distinct (ids.filter p) = (distinct ids).filter p := by
  induction ids with
  | nil => rfl
  | cons v rest ih =>
    rw [distinct]
    cases hv : p v with
    | true =>
      rw [List.filter_cons_of_pos hv, distinct, ih h.tail, List.filter_cons_of_pos hv,
        List.filter_filter, List.filter_filter]
      simp only [Bool.and_comm]
    | false =>
      rw [List.filter_cons_of_neg (by simp [hv]), ih h.tail,
        List.filter_cons_of_neg (by simp [hv]), List.filter_filter]
      apply List.filter_congr
      intro w hw
      -- what is equal to `v` is refused like `v`
      cases hvw : v.same w with
      | false => simp
      | true => simp [← hp v w (h.tail.distinct w hw) hvw, hv]

/-- Ids that come after a list without some may lack them too. -/
theorem filter_distinct_filter_append {p : Json → Bool} (hp : Respects p) {xs ys : List Json}
    (hx : Scalars xs) (hy : Scalars ys) :
    (distinct (xs.filter p ++ ys)).filter p = (distinct (xs ++ ys)).filter p := by
  have hxf : Scalars (xs.filter p) := fun v hv => hx v (List.mem_filter.mp hv).1
  rw [← distinct_filter hp (hxf.append hy), ← distinct_filter hp (hx.append hy),
    List.filter_append, List.filter_append, List.filter_filter]
  simp only [Bool.and_self]

/-! ### `touch` -/

/-- Touching an id makes it the first of the `distinct` ids, of which the limit is kept. -/
theorem touch_eq {ids : List Json} (h : Scalars ids) (v : Json) (limit : ℤ) :
    touch ids v limit = (distinct (v :: ids)).take limit.toNat := by
  rw [touch, distinct]
  congr 2
  apply List.filter_congr
  intro w hw
  rw [Json.same_comm (Or.inl (h.distinct w hw))]

/-- Where no two ids are equal, at most one is equal to `v`, so one more than `n` ids hold the first
`n` of those that are not. -/
theorem take_filter_take {ids : List Json} (h : Scalars ids) (hapart : Apart ids) (v : Json)
    (n : ℕ) :
    ((ids.take (n + 1)).filter fun w => !v.same w).take n =
      (ids.filter fun w => !v.same w).take n := by
  induction ids generalizing n with
  | nil => rfl
  | cons w rest ih =>
    rw [List.take_succ_cons]
    cases hvw : v.same w with
    | false =>
      rw [List.filter_cons_of_pos (by simp [hvw]), List.filter_cons_of_pos (by simp [hvw])]
      cases n with
      | zero => rfl
      | succ n => rw [List.take_succ_cons, List.take_succ_cons, ih h.tail hapart.of_cons]
    | true =>
      -- the head is the one id that is dropped: no other is equal to it, nor then to `v`
      have hrest : ∀ u ∈ rest, v.same u = false := by
        intro u hu
        rw [Json.same_congr_left u h.head hvw]
        exact List.rel_of_pairwise_cons hapart hu
      have hcut : ∀ u ∈ rest.take n, v.same u = false :=
        fun u hu => hrest u (List.mem_of_mem_take hu)
      rw [List.filter_cons_of_neg (by simp [hvw]), List.filter_cons_of_neg (by simp [hvw]),
        List.filter_eq_self.mpr (by simpa using hcut),
        List.filter_eq_self.mpr (by simpa using hrest), List.take_take, Nat.min_self]

/-- Cutting a list to the limit before it is touched makes no difference. -/
theorem touch_take {ids : List Json} (h : Scalars ids) (v : Json) (limit : ℤ) :
    touch ((distinct ids).take limit.toNat) v limit = touch ids v limit := by
  have hcut : distinct ((distinct ids).take limit.toNat) = (distinct ids).take limit.toNat :=
    distinct_eq_self ((pairwise_distinct ids).sublist (List.take_sublist _ _))
  have hscalars : Scalars ((distinct ids).take limit.toNat) :=
    fun w hw => h.distinct w (List.mem_of_mem_take hw)
  rw [touch_eq hscalars, touch_eq h, distinct, distinct, hcut]
  cases limit.toNat with
  | zero => rfl
  | succ n =>
    rw [List.take_succ_cons, List.take_succ_cons,
      take_filter_take h.distinct (pairwise_distinct ids)]

end WorkspaceHome.Recency
