import WorkspaceHome.Proofs.Recency.Stored

/-!
# Sorting into buckets

The order by recency can be told without ranks and without sorting: for every id of the recency list
in turn, the items with this id as they were given, and after them the items whose id is not in the
list (`buckets`). The ids are taken at their last places (`distinctLast`).

Items that are in the order of their ranks are in their buckets (`buckets_eq_self`), by induction on
the recency list: an id that comes again later only moves all ranks by one, and any other id holds
the items of rank zero, which stand in front. Sorting leaves the items of a bucket as they were
given (`filter_sortBy_of_rank`), so it puts any items into their buckets (`sortBy_eq_buckets`). This
gives all that can be asked of the order at once: nothing is lost, items of one id keep their order,
and neither leaving items out nor sorting again makes a difference (`sortStored_eq_buckets`).
-/

namespace WorkspaceHome.Recency

/-! ### Buckets -/

instance (v : Json) (ids : List Json) : Decidable (Absent v ids) :=
  inferInstanceAs (Decidable (∀ w ∈ ids, w.same v = false))

/-- Drops every id that is equal to a later one. -/
def distinctLast : List Json → List Json
  | [] => []
  | v :: rest => if Absent v rest then v :: distinctLast rest else distinctLast rest

/-- The items of each id of a list, in the order of the last places of the ids, and then the items
whose id is not in the list. -/
def buckets {α : Type} (key : α → Json) (recent : List Json) (items : List α) : List α :=
  ((distinctLast recent).flatMap fun id => items.filter fun a => (key a).same id) ++
    items.filter fun a => Absent (key a) recent

theorem absent_cons {v w : Json} {rest : List Json} :
    Absent v (w :: rest) ↔ w.same v = false ∧ Absent v rest :=
  List.forall_mem_cons

theorem mem_of_mem_distinctLast {v : Json} {ids : List Json} (h : v ∈ distinctLast ids) :
    v ∈ ids := by
  induction ids with
  | nil => exact h
  | cons w rest ih =>
    rw [distinctLast] at h
    split at h
    · rcases List.mem_cons.mp h with rfl | h
      · exact List.mem_cons_self
      · exact List.mem_cons_of_mem _ (ih h)
    · exact List.mem_cons_of_mem _ (ih h)

/-- An id that is equal to one of a list is not absent from it. -/
theorem not_absent_of_same {v w : Json} {ids : List Json} (hw : w ∈ ids)
    (hscalar : w.isScalarValue = true) (h : v.same w = true) : ¬ Absent v ids := by
  intro habsent
  have hwv : w.same v = true := by rw [Json.same_comm (Or.inl hscalar)]; exact h
  rw [habsent w hw] at hwv
  cases hwv

theorem exists_same_of_not_absent {v : Json} {ids : List Json} (h : ¬ Absent v ids) :
    ∃ w ∈ ids, w.same v = true := by
  unfold Absent at h
  push Not at h
  obtain ⟨w, hw, hwv⟩ := h
  exact ⟨w, hw, by simpa using hwv⟩

/-- Equal ids are absent from the same lists. -/
theorem absent_congr {v w : Json} {ids : List Json} (hw : w.isScalarValue = true)
    (h : v.same w = true) : Absent v ids ↔ Absent w ids := by
  have hv := Json.isScalarValue_of_same hw h
  have hsame : ∀ u : Json, u.same v = u.same w := by
    intro u
    rw [Json.same_comm (Or.inr hv), Json.same_congr_left u hw h, Json.same_comm (Or.inl hw)]
  unfold Absent
  simp only [hsame]

/-! ### Ranks and buckets -/

theorem rank_of_absent {v : Json} {ids : List Json} (h : Absent v ids) :
    rank ids v = ids.length := by
  rw [rank, lastPlace?_eq_none_iff.mpr h, Option.getD_none]

/-- In front of a list that has an id already, this id moves all ranks by one. -/
theorem rank_cons_of_not_absent {w : Json} {rest : List Json} (hscalar : w.isScalarValue = true)
    (hw : ¬ Absent w rest) {x : Json} : rank (w :: rest) x = rank rest x + 1 := by
  rw [rank_cons, if_neg]
  rintro ⟨hx, hwx⟩
  rw [lastPlace?_eq_none_iff] at hx
  have hxscalar : x.same w = true := by rw [Json.same_comm (Or.inr hscalar)]; exact hwx
  exact hw ((absent_congr hscalar hxscalar).mp hx)

theorem rank_cons_of_same {w : Json} {rest : List Json} (hscalar : w.isScalarValue = true)
    (hw : Absent w rest) {x : Json} (h : x.same w = true) : rank (w :: rest) x = 0 := by
  rw [rank_cons, if_pos]
  refine ⟨lastPlace?_eq_none_iff.mpr ((absent_congr hscalar h).mpr hw), ?_⟩
  rw [Json.same_comm (Or.inl hscalar)]
  exact h

theorem rank_cons_of_not_same {w : Json} {rest : List Json} (hscalar : w.isScalarValue = true)
    {x : Json} (h : x.same w = false) : rank (w :: rest) x = rank rest x + 1 := by
  rw [rank_cons, if_neg]
  rintro ⟨-, hwx⟩
  rw [Json.same_comm (Or.inl hscalar), h] at hwx
  cases hwx

/-- Where all items of a predicate come before all others, a list is split by it. -/
theorem filter_append_filter_not {α : Type} {p : α → Bool} {items : List α}
    (h : items.Pairwise fun a b => p b = true → p a = true) :
    items.filter p ++ items.filter (fun a => !p a) = items := by
  induction items with
  | nil => rfl
  | cons a rest ih =>
    cases ha : p a with
    | true =>
      rw [List.filter_cons_of_pos ha, List.filter_cons_of_neg (by simp [ha]), List.cons_append,
        ih h.of_cons]
    | false =>
      -- no item follows that the predicate holds of
      have hrest : ∀ b ∈ rest, p b = false := by
        intro b hb
        have hab := List.rel_of_pairwise_cons h hb
        by_contra hpb
        rw [hab (by simpa using hpb)] at ha
        cases ha
      rw [List.filter_cons_of_neg (by simp [ha]), List.filter_cons_of_pos (by simp [ha]),
        List.filter_eq_nil_iff.mpr (by simpa using hrest),
        List.filter_eq_self.mpr (by simpa using hrest), List.nil_append]

section buckets

variable {α : Type} {key : α → Json} {recent : List Json} {items : List α}

/-- In front of a list that has an id already, this id makes no difference to the buckets. -/
theorem buckets_cons_of_not_absent {w : Json} {rest : List Json}
    (hscalar : w.isScalarValue = true) (hw : ¬ Absent w rest) :
    buckets key (w :: rest) items = buckets key rest items := by
  have habsent : ∀ a, Absent (key a) (w :: rest) ↔ Absent (key a) rest := by
    intro a
    rw [absent_cons]
    refine ⟨And.right, fun h => ⟨?_, h⟩⟩
    by_contra hwa
    have haw : (key a).same w = true := by
      rw [Json.same_comm (Or.inr hscalar)]
      simpa using hwa
    exact hw ((absent_congr hscalar haw).mp h)
  unfold buckets
  rw [distinctLast, if_neg hw]
  simp only [habsent]

/-- The first id, if it does not come again, has the first bucket. -/
theorem buckets_cons_of_absent {w : Json} {rest : List Json} (hscalar : w.isScalarValue = true)
    (hrest : Scalars rest) (hw : Absent w rest) :
    buckets key (w :: rest) items =
      (items.filter fun a => (key a).same w) ++
        buckets key rest (items.filter fun a => !(key a).same w) := by
  -- the items of a later id are not those of the first one
  have hlater : ∀ id ∈ distinctLast rest,
      (items.filter fun a => (key a).same id) =
        (items.filter fun a => !(key a).same w).filter fun a => (key a).same id := by
    intro id hid
    have hid := mem_of_mem_distinctLast hid
    rw [List.filter_filter]
    apply List.filter_congr
    intro a _
    cases ha : (key a).same id with
    | false => rfl
    | true =>
      rw [Json.same_congr_left w (hrest id hid) ha, hw id hid]
      rfl
  -- what is named nowhere is left over in either way
  have hothers : (items.filter fun a => Absent (key a) (w :: rest)) =
      (items.filter fun a => !(key a).same w).filter fun a => Absent (key a) rest := by
    rw [List.filter_filter]
    apply List.filter_congr
    intro a _
    rw [Bool.eq_iff_iff, decide_eq_true_iff, absent_cons, Json.same_comm (Or.inl hscalar)]
    simp [and_comm]
  unfold buckets
  rw [distinctLast, if_pos hw, List.flatMap_cons, List.append_assoc, hothers]
  congr 2
  exact List.flatMap_congr hlater

/-- **Items in the order of their ranks are in their buckets.** -/
theorem buckets_eq_self (hrecent : Scalars recent)
    (hsorted : items.Pairwise fun a b => rank recent (key a) ≤ rank recent (key b)) :
    buckets key recent items = items := by
  -- by induction on the recency list, whose head has the first bucket unless it comes again
  induction recent generalizing items with
  | nil => simp [buckets, distinctLast, Absent]
  | cons w rest ih =>
    have hscalar := hrecent.head
    by_cases hw : Absent w rest
    -- the items of the head come before all others, since their rank is the lowest
    · have hfirst : items.Pairwise fun a b => (key b).same w = true → (key a).same w = true := by
        refine hsorted.imp fun {a b} hab hb => ?_
        by_contra ha
        rw [rank_cons_of_same hscalar hw hb, rank_cons_of_not_same hscalar (by simpa using ha)]
          at hab
        omega
      have hothers : (items.filter fun a => !(key a).same w).Pairwise fun a b =>
          rank rest (key a) ≤ rank rest (key b) := by
        refine (hsorted.filter _).imp_of_mem fun {a b} ha hb hab => ?_
        have ha : (key a).same w = false := by simpa using (List.mem_filter.mp ha).2
        have hb : (key b).same w = false := by simpa using (List.mem_filter.mp hb).2
        rw [rank_cons_of_not_same hscalar ha, rank_cons_of_not_same hscalar hb] at hab
        omega
      rw [buckets_cons_of_absent hscalar hrecent.tail hw, ih hrecent.tail hothers,
        filter_append_filter_not hfirst]
    · have hshifted : items.Pairwise fun a b => rank rest (key a) ≤ rank rest (key b) := by
        refine hsorted.imp fun {a b} hab => ?_
        rw [rank_cons_of_not_absent hscalar hw, rank_cons_of_not_absent hscalar hw] at hab
        omega
      rw [buckets_cons_of_not_absent hscalar hw, ih hrecent.tail hshifted]

/-- Leaving items out makes no difference to the order of the others. -/
theorem buckets_filter (p : α → Bool) :
    buckets key recent (items.filter p) = (buckets key recent items).filter p := by
  unfold buckets
  rw [List.filter_append, List.filter_flatMap]
  simp only [List.filter_filter, Bool.and_comm]

/-! ### Sorting -/

/-- Sorting leaves the order among the items of a predicate that holds at one rank only. -/
theorem filter_sortBy_of_rank {p : α → Bool} {r : ℕ}
    (hp : ∀ a, p a = true → rank recent (key a) = r) :
    (sortBy key recent items).filter p = items.filter p := by
  have hrank : ∀ xs : List α,
      xs.filter p = (xs.filter fun a => rank recent (key a) == r).filter p := by
    intro xs
    rw [List.filter_filter]
    apply List.filter_congr
    intro a _
    cases ha : p a with
    | false => rfl
    | true => simp [hp a ha]
  rw [hrank, filter_rank_sortBy, ← hrank]

/-- Sorting leaves the order among the items of one id. -/
theorem filter_same_sortBy (hrecent : Scalars recent) {v : Json} (hv : v.isScalarValue = true) :
    ((sortBy key recent items).filter fun a => (key a).same v) =
      items.filter fun a => (key a).same v :=
  filter_sortBy_of_rank fun _ ha => rank_congr hrecent hv ha

/-- Sorting leaves the order among the items whose id is not in the list. -/
theorem filter_absent_sortBy :
    ((sortBy key recent items).filter fun a => Absent (key a) recent) =
      items.filter fun a => Absent (key a) recent :=
  filter_sortBy_of_rank fun _ ha => rank_of_absent (of_decide_eq_true ha)

/-- **Sorting puts items into their buckets.** -/
theorem sortBy_eq_buckets (hrecent : Scalars recent) :
    sortBy key recent items = buckets key recent items := by
  calc sortBy key recent items
      = buckets key recent (sortBy key recent items) :=
        (buckets_eq_self hrecent (pairwise_rank_sortBy items)).symm
    _ = buckets key recent items := by
        unfold buckets
        rw [filter_absent_sortBy]
        congr 1
        apply List.flatMap_congr
        intro id hid
        exact filter_same_sortBy hrecent (hrecent id (mem_of_mem_distinctLast hid))

/-- What is sorted stays as it is. -/
theorem sortBy_sortBy : sortBy key recent (sortBy key recent items) = sortBy key recent items := by
  apply List.mergeSort_of_pairwise
  simpa using pairwise_rank_sortBy items

/-- **The order by recency**: the items of each id of the recency list, in the order of the last
places of the ids, and then all others, as they were given in each case. So nothing is lost and
nothing is added, the items of one id keep their order and so do those of no id of the list, leaving
items out before is the same as leaving them out afterwards, and sorting again changes nothing. -/
theorem sortStored_eq_buckets (hrecent : Scalars recent)
    (hkeys : ∀ a ∈ items, (key a).isScalarValue = true) :
    ∃ sorted, sortStored (fun a => .ok (key a)) (.list recent) items = .ok sorted ∧
      sorted = buckets key recent items ∧
      sorted.Perm items ∧
      (∀ v : Json, v.isScalarValue = true →
        (sorted.filter fun a => (key a).same v) = items.filter fun a => (key a).same v) ∧
      (sorted.filter fun a => Absent (key a) recent) =
        (items.filter fun a => Absent (key a) recent) ∧
      (∀ p : α → Bool, sortStored (fun a => .ok (key a)) (.list recent) (items.filter p) =
        .ok (sorted.filter p)) ∧
      sortStored (fun a => .ok (key a)) (.list recent) sorted = .ok sorted := by
  have hsorted := sortStored_list hrecent hkeys
  refine ⟨_, hsorted, sortBy_eq_buckets hrecent, sortBy_perm items,
    fun v hv => filter_same_sortBy hrecent hv, filter_absent_sortBy, fun p => ?_, ?_⟩
  · rw [sortStored_list hrecent fun a ha => hkeys a (List.mem_filter.mp ha).1,
      sortBy_eq_buckets hrecent, buckets_filter, sortBy_eq_buckets hrecent]
  · rw [sortStored_list hrecent fun a ha => hkeys a (mem_sortBy.mp ha), sortBy_sortBy]

end buckets

/-- A recency list in which two ids come again later, one of them as another representation of the
number, and numbered items whose ids are numbers and texts. -/
def sampleRecent : List Json := [.int 2, .int 1, .text "1", .bool true, .int 2]
def sampleItems : List (ℕ × Json) :=
  [(10, .int 1), (11, .text "1"), (12, .float (.finite false 1 0)), (13, .text "2"), (14, .int 2),
    (15, .bool true)]

theorem sortStored_eq_buckets_sample :
    Scalars sampleRecent ∧ (∀ a ∈ sampleItems, a.2.isScalarValue = true) ∧
      (sortStored (fun a => .ok a.2) (.list sampleRecent) sampleItems).toOption.map
        (·.map Prod.fst) = some [11, 10, 12, 15, 14, 13] := by
  have hrecent : Scalars sampleRecent := by decide
  have hkeys : ∀ a ∈ sampleItems, a.2.isScalarValue = true := by decide
  obtain ⟨sorted, hsorted, hbuckets, -⟩ := sortStored_eq_buckets hrecent hkeys
  refine ⟨hrecent, hkeys, ?_⟩
  rw [hsorted, hbuckets]
  decide +kernel

end WorkspaceHome.Recency
